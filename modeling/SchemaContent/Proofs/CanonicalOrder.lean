import Mathlib.Data.List.Nodup
import SchemaContent.Member

/-! # Canonical lists of members

Sorting and keeping the first member of each name do not depend on more than
which member comes first under each name. That is what makes the flat list of a
content independent of when, and how often, the two are done. -/

namespace SchemaContent

/-! ## Distinct keys

In a list in which no key is repeated, an entry is found by its key, wherever it stands. -/

section DistinctKeys

variable {α κ : Type} [DecidableEq κ] {key : α → κ}

/-- What is found by a key is the entry that has it. -/
theorem find?_eq_some_iff {entries : List α} (distinctKeys : (entries.map key).Nodup)
    {wanted : κ} {entry : α} :
    entries.find? (fun entry => key entry = wanted) = some entry ↔
      entry ∈ entries ∧ key entry = wanted := by
  constructor
  · intro found
    exact ⟨List.mem_of_find?_eq_some found, by simpa using List.find?_some found⟩
  · rintro ⟨isEntry, rfl⟩
    cases found : entries.find? fun other => key other = key entry with
    | none =>
        have absent := List.find?_eq_none.mp found entry isEntry
        simp at absent
    | some other =>
        have isOther := List.mem_of_find?_eq_some found
        have sameKey : key other = key entry := by
          simpa using List.find?_some found
        exact congrArg some
          (List.inj_on_of_nodup_map distinctKeys isOther isEntry sameKey)

theorem find?_eq_of_perm {entries others : List α} (same : entries.Perm others)
    (distinctKeys : (entries.map key).Nodup) (wanted : κ) :
    entries.find? (fun entry => key entry = wanted) =
      others.find? (fun entry => key entry = wanted) := by
  apply Option.ext
  intro entry
  have otherKeys : (others.map key).Nodup := (same.map key).nodup_iff.mp distinctKeys
  rw [find?_eq_some_iff distinctKeys, find?_eq_some_iff otherKeys, same.mem_iff]

end DistinctKeys

end SchemaContent

namespace SchemaContent.Member

/-! ## The order -/

instance : Std.TransCmp canonicalCompare :=
  inferInstanceAs (Std.TransCmp (compareLex _ _))

/-- The order tells names apart: the identifier is made from the local name, and
namespace and local name are the name. -/
theorem name_eq_of_canonicalCompare_eq {first second : Member}
    (equal : canonicalCompare first second = .eq) : first.name = second.name := by
  simp only [canonicalCompare, compareLex, Ordering.then_eq_eq, compareOn] at equal
  have sameUri : first.name.uri = second.name.uri :=
    Std.LawfulEqOrd.eq_of_compare equal.2.1
  have sameLocalName : first.name.localName = second.name.localName :=
    Std.LawfulEqOrd.eq_of_compare equal.2.2
  cases firstName : first.name
  cases secondName : second.name
  simp_all

theorem precedes_trans {first second third : Member}
    (before : first.precedes second) (after : second.precedes third) :
    first.precedes third :=
  Std.TransCmp.isLE_trans before after

theorem precedes_of_not_precedes {first second : Member}
    (notBefore : ¬first.precedes second) : second.precedes first := by
  have swapped : canonicalCompare second first = (canonicalCompare first second).swap :=
    Std.OrientedCmp.eq_swap
  unfold precedes at notBefore ⊢
  rw [swapped]
  cases order : canonicalCompare first second <;> simp [order] at notBefore ⊢

theorem name_eq_of_precedes {first second : Member}
    (before : first.precedes second) (after : second.precedes first) :
    first.name = second.name :=
  name_eq_of_canonicalCompare_eq (Std.OrientedCmp.isLE_antisymm before after)

/-! ## Sorting -/

theorem insert_perm (member : Member) (members : List Member) :
    (insert member members).Perm (member :: members) := by
  induction members with
  | nil => exact .refl _
  | cons first rest induction =>
      simp only [insert]
      split
      · exact .refl _
      · exact (induction.cons first).trans (.swap member first rest)

theorem sort_perm (members : List Member) : (sort members).Perm members := by
  induction members with
  | nil => exact .refl _
  | cons first rest induction =>
      change (insert first (sort rest)).Perm (first :: rest)
      exact (insert_perm first (sort rest)).trans (induction.cons first)

theorem pairwise_insert (member : Member) {members : List Member}
    (ordered : members.Pairwise (·.precedes ·)) :
    (insert member members).Pairwise (·.precedes ·) := by
  induction members with
  | nil => exact List.pairwise_singleton _ _
  | cons first rest induction =>
      have ⟨firstLeast, restOrdered⟩ := List.pairwise_cons.mp ordered
      simp only [insert]
      split
      case isTrue before =>
        refine List.pairwise_cons.mpr ⟨?_, ordered⟩
        intro other isOther
        rcases List.mem_cons.mp isOther with rfl | isOther
        · exact before
        · exact precedes_trans before (firstLeast other isOther)
      case isFalse notBefore =>
        refine List.pairwise_cons.mpr ⟨?_, induction restOrdered⟩
        intro other isOther
        rcases List.mem_cons.mp ((insert_perm member rest).mem_iff.mp isOther)
          with rfl | isOther
        · exact precedes_of_not_precedes notBefore
        · exact firstLeast other isOther

theorem pairwise_sort (members : List Member) :
    (sort members).Pairwise (·.precedes ·) := by
  induction members with
  | nil => exact .nil
  | cons first rest induction => exact pairwise_insert first induction

/-- The canonical order leaves no choice to a list without repeated names. -/
theorem sort_eq_of_perm {first second : List Member} (same : first.Perm second)
    (distinctNames : (first.map (·.name)).Nodup) : sort first = sort second := by
  have samePerm : (sort first).Perm (sort second) :=
    (sort_perm first).trans (same.trans (sort_perm second).symm)
  apply List.Perm.eq_of_pairwise ?_ (pairwise_sort first) (pairwise_sort second) samePerm
  intro left right isLeft isRight before after
  have leftMember := (sort_perm first).mem_iff.mp isLeft
  have rightMember := same.mem_iff.mpr ((sort_perm second).mem_iff.mp isRight)
  exact List.inj_on_of_nodup_map distinctNames leftMember rightMember
    (name_eq_of_precedes before after)

/-! ## The first member of each name -/

/-- The first member with this name. -/
def named (name : ExpandedName) (members : List Member) : Option Member :=
  members.find? fun member => member.name = name

@[simp] theorem named_nil (name : ExpandedName) : named name [] = none := rfl

theorem named_cons (name : ExpandedName) (first : Member) (rest : List Member) :
    named name (first :: rest) =
      if first.name = name then some first else named name rest := by
  by_cases same : first.name = name <;> simp [named, same]

@[simp] theorem named_append (name : ExpandedName) (first second : List Member) :
    named name (first ++ second) = (named name first).or (named name second) :=
  List.find?_append

theorem named_map {change : Member → Member}
    (keepsName : ∀ member, (change member).name = member.name)
    (name : ExpandedName) (members : List Member) :
    named name (members.map change) = (named name members).map change := by
  induction members with
  | nil => rfl
  | cons first rest induction =>
      rw [List.map_cons, named_cons, named_cons, keepsName, induction]
      split <;> rfl

theorem mem_of_named {name : ExpandedName} {members : List Member} {member : Member}
    (found : named name members = some member) :
    member ∈ members ∧ member.name = name := by
  constructor
  · exact List.mem_of_find?_eq_some found
  · simpa using List.find?_some found

theorem named_of_mem {members : List Member}
    (distinctNames : (members.map (·.name)).Nodup) {member : Member}
    (isMember : member ∈ members) : named member.name members = some member :=
  (find?_eq_some_iff distinctNames).mpr ⟨isMember, rfl⟩

theorem named_eq_of_perm {first second : List Member} (same : first.Perm second)
    (distinctNames : (first.map (·.name)).Nodup) (name : ExpandedName) :
    named name first = named name second :=
  find?_eq_of_perm same distinctNames name

private theorem named_keep (name : ExpandedName) (members : List Member) :
    ∀ seen : List ExpandedName, named name (distinct.keep seen members) =
      if name ∈ seen then none else named name members := by
  induction members with
  | nil => intro seen; simp [distinct.keep]
  | cons first rest induction =>
      intro seen
      by_cases old : first.name ∈ seen
      · have skipped : distinct.keep seen (first :: rest) = distinct.keep seen rest := by
          simp [distinct.keep, old]
        rw [skipped, induction seen, named_cons]
        by_cases same : first.name = name
        · simp [same ▸ old]
        · simp [same]
      · have kept : distinct.keep seen (first :: rest) =
            first :: distinct.keep (first.name :: seen) rest := by
          simp [distinct.keep, old]
        rw [kept, named_cons, named_cons, induction (first.name :: seen)]
        by_cases same : first.name = name
        · simp [same, same ▸ old]
        · simp [same, Ne.symm same]

/-- Dropping later members of a name leaves the first of each. -/
@[simp] theorem named_distinct (name : ExpandedName) (members : List Member) :
    named name (distinct members) = named name members := by
  rw [distinct, named_keep]
  simp

private theorem nodup_keep (members : List Member) : ∀ seen : List ExpandedName,
    ((distinct.keep seen members).map (·.name)).Nodup ∧
      ∀ member ∈ distinct.keep seen members, member.name ∉ seen := by
  induction members with
  | nil => intro seen; simp [distinct.keep]
  | cons first rest induction =>
      intro seen
      by_cases old : first.name ∈ seen
      · have skipped : distinct.keep seen (first :: rest) = distinct.keep seen rest := by
          simp [distinct.keep, old]
        rw [skipped]
        exact induction seen
      · have kept : distinct.keep seen (first :: rest) =
            first :: distinct.keep (first.name :: seen) rest := by
          simp [distinct.keep, old]
        have ⟨restDistinct, restFresh⟩ := induction (first.name :: seen)
        rw [kept]
        constructor
        · refine List.nodup_cons.mpr ⟨?_, restDistinct⟩
          intro repeated
          obtain ⟨other, isOther, sameName⟩ := List.mem_map.mp repeated
          exact restFresh other isOther (sameName ▸ List.mem_cons_self)
        · intro member isMember
          rcases List.mem_cons.mp isMember with rfl | isMember
          · exact old
          · exact fun seenBefore =>
              restFresh member isMember (List.mem_cons_of_mem _ seenBefore)

theorem nodup_distinct (members : List Member) :
    ((distinct members).map (·.name)).Nodup :=
  (nodup_keep members []).1

/-! ## Canonical lists -/

/-- The first member of each name, in canonical order. -/
def canonical (members : List Member) : List Member :=
  sort (distinct members)

theorem canonical_perm (members : List Member) :
    (canonical members).Perm (distinct members) :=
  sort_perm _

theorem mem_of_mem_canonical {members : List Member} {member : Member}
    (isCanonical : member ∈ canonical members) : member ∈ members := by
  have isKept := (canonical_perm members).mem_iff.mp isCanonical
  have found := named_of_mem (nodup_distinct members) isKept
  rw [named_distinct] at found
  exact (mem_of_named found).1

theorem nodup_canonical (members : List Member) :
    ((canonical members).map (·.name)).Nodup :=
  ((canonical_perm members).map _).nodup_iff.mpr (nodup_distinct members)

theorem perm_of_named_eq {first second : List Member}
    (firstDistinct : (first.map (·.name)).Nodup)
    (secondDistinct : (second.map (·.name)).Nodup)
    (sameNamed : ∀ name, named name first = named name second) :
    first.Perm second := by
  apply (List.perm_ext_iff_of_nodup (List.Nodup.of_map _ firstDistinct)
    (List.Nodup.of_map _ secondDistinct)).mpr
  intro member
  constructor
  · intro isFirst
    have found := named_of_mem firstDistinct isFirst
    exact (mem_of_named (sameNamed _ ▸ found)).1
  · intro isSecond
    have found := named_of_mem secondDistinct isSecond
    exact (mem_of_named (sameNamed _ ▸ found)).1

/-- The canonical list is determined by the first member of each name. -/
theorem canonical_eq_of_named_eq {first second : List Member}
    (sameNamed : ∀ name, named name first = named name second) :
    canonical first = canonical second := by
  apply sort_eq_of_perm ?_ (nodup_distinct first)
  apply perm_of_named_eq (nodup_distinct first) (nodup_distinct second)
  intro name
  rw [named_distinct, named_distinct, sameNamed]

@[simp] theorem named_canonical (name : ExpandedName) (members : List Member) :
    named name (canonical members) = named name members := by
  rw [← named_distinct name members]
  cases found : named name (distinct members) with
  | none =>
      apply List.find?_eq_none.mpr
      intro member isMember
      exact List.find?_eq_none.mp found member
        ((canonical_perm members).mem_iff.mp isMember)
  | some member =>
      have ⟨isMember, sameName⟩ := mem_of_named found
      rw [← sameName]
      exact named_of_mem (nodup_canonical members)
        ((canonical_perm members).mem_iff.mpr isMember)

/-! ## Changes that keep names -/

variable {change : Member → Member}

/-- Where a member stands is decided by its name. -/
theorem precedes_change (keepsName : ∀ member, (change member).name = member.name)
    (first second : Member) :
    (change first).precedes (change second) = first.precedes second := by
  simp only [precedes, canonicalCompare, identifier, compareLex, compareOn, keepsName]

theorem insert_map (keepsName : ∀ member, (change member).name = member.name)
    (member : Member) (members : List Member) :
    insert (change member) (members.map change) = (insert member members).map change := by
  induction members with
  | nil => rfl
  | cons first rest induction =>
      rw [List.map_cons, insert, insert, precedes_change keepsName, induction]
      split <;> rfl

theorem sort_map (keepsName : ∀ member, (change member).name = member.name)
    (members : List Member) : sort (members.map change) = (sort members).map change := by
  induction members with
  | nil => rfl
  | cons member rest induction =>
      change insert (change member) (sort (rest.map change)) =
        (insert member (sort rest)).map change
      rw [induction, insert_map keepsName]

theorem distinct_map (keepsName : ∀ member, (change member).name = member.name)
    (members : List Member) :
    distinct (members.map change) = (distinct members).map change := by
  have kept : ∀ seen, distinct.keep seen (members.map change) =
      (distinct.keep seen members).map change := by
    induction members with
    | nil => exact fun _ => rfl
    | cons member rest induction =>
        intro seen
        rw [List.map_cons, distinct.keep, distinct.keep, keepsName, induction, induction]
        split <;> rfl
  exact kept []

end SchemaContent.Member
