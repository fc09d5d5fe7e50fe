import SchemaContent.Proofs.MemberFields

/-! # First free names

A name that is taken is varied until a free one is reached. There are fewer taken names than
variants, so the search ends, and it ends with the first variant that is free, whatever the
names are that were taken before: some of them may look as if they had been varied. -/

namespace SchemaContent.Declarations

/-! ## Going through variants -/

/-- The variant that is reached by passing over taken ones, from this one on; none if so
many steps do not lead to one that is free. -/
def seekFree (taken : List String) (variant : Nat → String) : Nat → Nat → Option String
  | 0, _ => none
  | steps + 1, count =>
    if variant count ∈ taken then seekFree taken variant steps (count + 1)
    else some (variant count)

/-- It is the first variant that is not taken. -/
def IsFirstFree (taken : List String) (variant : Nat → String) (name : String) : Prop :=
  ∃ count, name = variant count ∧ variant count ∉ taken ∧
    ∀ earlier < count, variant earlier ∈ taken

theorem seekFree_of_le {taken : List String} {variant : Nat → String} {count : Nat}
    (isFree : variant count ∉ taken) (isLeast : ∀ earlier < count, variant earlier ∈ taken) :
    ∀ steps start : Nat, start ≤ count → count < start + steps →
      seekFree taken variant steps start = some (variant count) := by
  intro steps
  induction steps with
  | zero =>
      intro start notAfter enough
      omega
  | succ steps induction =>
      intro start notAfter enough
      rw [seekFree]
      by_cases isReached : start = count
      · rw [isReached, if_neg isFree]
      · rw [if_pos (isLeast start (by omega))]
        exact induction (start + 1) (by omega) (by omega)

namespace IsFirstFree

variable {taken other : List String} {variant : Nat → String} {name : String}

theorem congr (isFirst : IsFirstFree taken variant name)
    (same : ∀ name, name ∈ taken ↔ name ∈ other) : IsFirstFree other variant name := by
  rcases isFirst with ⟨count, isVariant, isFree, isLeast⟩
  refine ⟨count, isVariant, ?_, ?_⟩
  · rw [← same]
    exact isFree
  · intro earlier isEarlier
    rw [← same]
    exact isLeast earlier isEarlier

/-- It is reached after no more steps than one for each taken name and one for itself. -/
theorem seekFree_eq (isFirst : IsFirstFree taken variant name)
    (injective : Function.Injective variant) :
    seekFree taken variant (taken.length + 1) 0 = some name := by
  rcases isFirst with ⟨count, isVariant, isFree, isLeast⟩
  rcases exists_free_variant taken injective with ⟨free, isAmong, freeName⟩
  rcases List.mem_map.mp isAmong with ⟨position, inRange, rfl⟩
  have notBefore : count ≤ position := by
    by_contra before
    exact freeName (isLeast position (by omega))
  rw [List.mem_range] at inRange
  rw [isVariant]
  exact seekFree_of_le isFree isLeast _ 0 (Nat.zero_le _) (by omega)

/-- A name that is numbered apart is the base, unless that is taken, and has the least
number from two on then. -/
theorem eq_base_or_numbered {base : String}
    (isFirst : IsFirstFree taken (numberedVariant base) name) :
    (base ∉ taken → name = base) ∧
      (base ∈ taken → ∃ number : Nat, 2 ≤ number ∧ name = base ++ "_" ++ toString number ∧
        name ∉ taken ∧
        ∀ less : Nat, 2 ≤ less → less < number → base ++ "_" ++ toString less ∈ taken) := by
  rcases isFirst with ⟨count, isVariant, isFree, isLeast⟩
  cases count with
  | zero => exact ⟨fun _ => isVariant, fun isTaken => absurd isTaken isFree⟩
  | succ count =>
      constructor
      · intro notTaken
        exact absurd (isLeast 0 (Nat.succ_pos count)) notTaken
      · intro _
        refine ⟨count + 2, Nat.le_add_left 2 count, isVariant, isVariant ▸ isFree, ?_⟩
        intro less atLeast isLess
        rcases Nat.exists_eq_add_of_le' atLeast with ⟨earlier, rfl⟩
        exact isLeast (earlier + 1) (by omega)

end IsFirstFree

/-! ## Names of types -/

theorem innerVariant_eq (base : String) (count : Nat) :
    innerVariant base count = base ++ String.join (List.replicate count "Inner") := by
  induction count with
  | zero => simp [innerVariant]
  | succ count induction =>
      rw [innerVariant, induction, List.replicate_succ', String.join_append]
      simp [String.append_assoc]

/-! ## Names of fields -/

/-- Of names that are told apart, each is the first free variant of its base when those
before it are taken. -/
theorem isFirstFree_of_numberApart (bases : List String) :
    ∀ (taken : List String) {position : Nat} {base name : String},
      bases[position]? = some base → (numberApart taken bases)[position]? = some name →
        IsFirstFree ((numberApart taken bases).take position ++ taken)
          (numberedVariant base) name := by
  induction bases with
  | nil =>
      intro taken position base name isBase
      cases isBase
  | cons first rest induction =>
      intro taken position base name isBase isName
      rw [numberApart] at isName ⊢
      cases position with
      | zero =>
          cases isBase
          cases isName
          exact firstFree_least taken (numberedVariant_injective first)
      | succ position =>
          apply (induction _ isBase isName).congr
          intro other
          simp only [List.take_succ_cons, List.mem_append, List.mem_cons]
          exact or_left_comm.trans or_assoc.symm

/-- The names that the fields of members have, before they are written as identifiers. -/
def fieldNames (members : List Member) : List String :=
  numberApart [] (fieldBases members)

theorem length_fieldNames (members : List Member) :
    (fieldNames members).length = members.length := by
  rw [fieldNames, length_numberApart, fieldBases, List.length_map]

theorem isFirstFree_of_fieldNames {members : List Member} {position : Nat} {member : Member}
    {name : String} (isMember : members[position]? = some member)
    (isName : (fieldNames members)[position]? = some name) :
    IsFirstFree ((fieldNames members).take position)
      (numberedVariant (fieldBase member.name member.occurrence)) name := by
  have isBase : (fieldBases members)[position]? =
      some (fieldBase member.name member.occurrence) := by
    rw [fieldBases, List.getElem?_map, isMember]
    rfl
  have isFirst := isFirstFree_of_numberApart (fieldBases members) [] isBase isName
  rw [List.append_nil] at isFirst
  exact isFirst

theorem finishFields_of_draftFields {members : List Member} {draft after : Draft}
    {drafts : List DraftField}
    (drafted : (draftFields members).run draft = .ok (drafts, after)) :
    finishFields drafts = ((fieldNames members).zip drafts).mapM fun (name, draft) => do
      return ⟨← identifierOf name, draft.multiplicity, draft.type⟩ := by
  rw [finishFields, (drafts_of_draftFields members drafted).1, fieldNames]

/-! ## Both searches -/

/-- Both searches for a free name end, and with the first name that is free. To whatever
has been taken before, a type name adds itself alone: its base with `Inner` after it as
often as it takes to make it free. And the fields of a struct are made of names, one for
each member, of which they have the identifiers: the name is the base if no earlier field
has taken that, and else the base with the least number from two on that no earlier field
has taken. -/
theorem first_free_names :
    (∀ (draft : Draft) (base : String), ∃ (count : Nat) (name : String),
      name = base ++ String.join (List.replicate count "Inner") ∧ name ∉ draft.taken ∧
      (∀ fewer < count, base ++ String.join (List.replicate fewer "Inner") ∈ draft.taken) ∧
      seekFree draft.taken (innerVariant base) (draft.taken.length + 1) 0 = some name ∧
      (takeTypeName base).run draft = do
        return (← identifierOf name, { draft with taken := name :: draft.taken })) ∧
    ∀ members : List Member,
      (fieldNames members).length = members.length ∧
      (∀ draft after drafts, (draftFields members).run draft = .ok (drafts, after) →
        finishFields drafts = ((fieldNames members).zip drafts).mapM fun (name, draft) => do
          return ⟨← identifierOf name, draft.multiplicity, draft.type⟩) ∧
      ∀ (position : Nat) (member : Member) (base name : String),
        members[position]? = some member → base = fieldBase member.name member.occurrence →
        (fieldNames members)[position]? = some name →
          let earlier := (fieldNames members).take position
          (base ∉ earlier → name = base) ∧
          (base ∈ earlier → ∃ number : Nat, 2 ≤ number ∧
            name = base ++ "_" ++ toString number ∧ name ∉ earlier ∧
            ∀ less : Nat, 2 ≤ less → less < number →
              base ++ "_" ++ toString less ∈ earlier) ∧
          seekFree earlier (numberedVariant base) (earlier.length + 1) 0 = some name := by
  constructor
  · intro draft base
    have isFirst : IsFirstFree draft.taken (innerVariant base) _ :=
      firstFree_least draft.taken (innerVariant_injective base)
    have ends := isFirst.seekFree_eq (innerVariant_injective base)
    rcases isFirst with ⟨count, isVariant, isFree, isLeast⟩
    rw [← isVariant] at isFree
    simp only [innerVariant_eq base] at isVariant isLeast
    exact ⟨count, _, isVariant, isFree, isLeast, ends, run_takeTypeName draft base⟩
  · intro members
    refine ⟨length_fieldNames members, fun _ _ _ => finishFields_of_draftFields, ?_⟩
    intro position member base name isMember isBase isName
    have isFirst := isFirstFree_of_fieldNames isMember isName
    rw [← isBase] at isFirst
    have ⟨kept, numbered⟩ := isFirst.eq_base_or_numbered
    exact ⟨kept, numbered, isFirst.seekFree_eq (numberedVariant_injective base)⟩

end SchemaContent.Declarations

/-! ### Rows

A member whose name looks as if it had a number, before two whose names are written alike. -/

namespace SchemaContent.Rows

open Declarations

def member (localName : String) : Member :=
  ⟨⟨none, localName⟩, none, .builtin ⟨some schemaNamespace, "string"⟩, .unstated, .outside⟩

def members : List Member :=
  [member "a_2", member "a", member "A"]

theorem first_free_of_rows :
    fieldNames members = ["a_2", "a", "a_3"] ∧
      ∃ number : Nat, 2 ≤ number ∧ "a_3" = "a" ++ "_" ++ toString number ∧
        ∀ less : Nat, 2 ≤ less → less < number →
          "a" ++ "_" ++ toString less ∈ ["a_2", "a"] := by
  have named : fieldNames members = ["a_2", "a", "a_3"] := by decide +kernel
  have ⟨_, numbered, _⟩ := (first_free_names.2 members).2.2 2 (member "A") "a" "a_3" rfl
    (by decide +kernel) (by rw [named]; rfl)
  rw [named] at numbered
  rcases numbered (by decide) with ⟨number, atLeast, isName, _, isLeast⟩
  exact ⟨named, number, atLeast, isName, isLeast⟩

end SchemaContent.Rows
