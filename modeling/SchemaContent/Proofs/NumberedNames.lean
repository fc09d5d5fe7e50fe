import SchemaContent.Proofs.RelatedRuns
import SchemaContent.Proofs.SnakeCase
import SchemaContent.Proofs.TypeNames
import SchemaContent.Proofs.WrittenValues

/-! # Numbered names

Names of fields are told apart by numbers before they are written as identifiers, and an
identifier may have an underscore more than its name. So it can be read back up to an
underscore before the name, and the only names with such an underscore are the numbered
variants of the name that is empty. -/

namespace SchemaContent.Declarations

/-! ## Variants -/

theorem toString_injective : Function.Injective (toString : Nat → String) := by
  intro first second same
  rw [Nat.toString_eq_ofList_toDigits, Nat.toString_eq_ofList_toDigits] at same
  have sameValue := congrArg (Nat.ofDigitChars 10 · 0) (String.ofList_injective same)
  simpa using sameValue

theorem toList_toString_ne_nil (number : Nat) : (toString number).toList ≠ [] := by
  rw [Nat.toString_eq_ofList_toDigits, String.toList_ofList]
  exact Nat.toDigits_ne_nil

theorem toList_numberedVariant_succ (base : String) (count : Nat) :
    (numberedVariant base (count + 1)).toList =
      base.toList ++ '_' :: (toString (count + 2)).toList := by
  rw [numberedVariant, String.toList_append, String.toList_append, List.append_assoc]
  rfl

theorem numberedVariant_injective (base : String) :
    Function.Injective (numberedVariant base) := by
  intro first second same
  have sameList := congrArg String.toList same
  cases first with
  | zero =>
      cases second with
      | zero => rfl
      | succ second =>
          rw [toList_numberedVariant_succ, numberedVariant] at sameList
          simpa using congrArg List.length sameList
  | succ first =>
      rw [toList_numberedVariant_succ] at sameList
      cases second with
      | zero =>
          rw [numberedVariant] at sameList
          simpa using congrArg List.length sameList
      | succ second =>
          rw [toList_numberedVariant_succ] at sameList
          have sameDigits := (List.cons.inj (List.append_cancel_left sameList)).2
          have sameNumber := toString_injective (String.toList_injective sameDigits)
          omega

/-- There are no underscores at the ends of a base. -/
def IsBase (name : String) : Prop :=
  ¬Text.AtEnd '_' name.toList

theorem head?_numberedVariant {base : String} (notEmpty : base ≠ "") (count : Nat) :
    (numberedVariant base count).toList.head? = base.toList.head? := by
  cases count with
  | zero => rfl
  | succ count =>
      rw [toList_numberedVariant_succ]
      apply List.head?_append_of_ne_nil
      simpa using notEmpty

/-- Only variants of the empty name are empty or begin with an underscore. -/
theorem numberedVariant_ne {base : String} (isBase : IsBase base) (notEmpty : base ≠ "")
    (count other : Nat) : numberedVariant base count ≠ numberedVariant "" other := by
  intro same
  have sameFirst := congrArg (·.toList.head?) same
  simp only [head?_numberedVariant notEmpty] at sameFirst
  cases other with
  | zero =>
      apply notEmpty
      exact String.toList_injective (List.head?_eq_none_iff.mp sameFirst)
  | succ other =>
      rw [toList_numberedVariant_succ] at sameFirst
      exact isBase (.inl sameFirst)

/-! ## Names that are told apart -/

theorem numberApart_spec (bases : List String) : ∀ taken : List String,
    (numberApart taken bases).Nodup ∧ (∀ name ∈ numberApart taken bases, name ∉ taken) ∧
      List.Forall₂ (fun name base => ∃ count, name = numberedVariant base count)
        (numberApart taken bases) bases := by
  induction bases with
  | nil => exact fun _ => ⟨.nil, nofun, .nil⟩
  | cons first rest induction =>
      intro taken
      have ⟨isFree, isVariant⟩ := firstFree_spec taken (numberedVariant_injective first)
      have ⟨distinct, areFree, areVariants⟩ :=
        induction (firstFree taken (numberedVariant first) :: taken)
      rw [numberApart]
      refine ⟨List.nodup_cons.mpr ⟨?_, distinct⟩, ?_, .cons isVariant areVariants⟩
      · exact fun isLater => areFree _ isLater List.mem_cons_self
      · intro name isName isTaken
        rcases List.mem_cons.mp isName with rfl | isLater
        · exact isFree isTaken
        · exact areFree name isLater (List.mem_cons_of_mem _ isTaken)

theorem mem_numberApart_of_mem {bases : List String} {base : String} (isBase : base ∈ bases) :
    ∀ taken : List String, base ∈ taken ∨ base ∈ numberApart taken bases := by
  induction bases with
  | nil => cases isBase
  | cons first rest induction =>
      intro taken
      rw [numberApart, List.mem_cons]
      rcases List.mem_cons.mp isBase with rfl | isLater
      · rcases List.mem_cons.mp (mem_firstFree_cons taken (numberedVariant base)) with
          isFirst | isTaken
        · exact .inr (.inl isFirst)
        · exact .inl isTaken
      · rcases induction isLater (firstFree taken (numberedVariant first) :: taken) with
          isTaken | isName
        · rcases List.mem_cons.mp isTaken with isFirst | isTaken
          · exact .inr (.inl isFirst)
          · exact .inl isTaken
        · exact .inr (.inr isName)

/-- A name without underscores is chosen just if it is one of the bases. -/
theorem mem_numberApart_iff {bases : List String} {name : String}
    (without : '_' ∉ name.toList) : name ∈ numberApart [] bases ↔ name ∈ bases := by
  constructor
  · intro isName
    have ⟨_, _, areVariants⟩ := numberApart_spec bases []
    rcases exists_of_mem_of_forall₂ areVariants isName with ⟨base, isBase, count, rfl⟩
    cases count with
    | zero => exact isBase
    | succ count =>
        rw [toList_numberedVariant_succ] at without
        exact absurd (List.mem_append_right _ List.mem_cons_self) without
  · intro isBase
    exact (mem_numberApart_of_mem isBase []).resolve_left List.not_mem_nil

/-- If the variants of the empty name are taken up to this one, the bases that are empty
take as many more. -/
theorem mem_numberApart_empty_iff {bases : List String} (areBases : ∀ base ∈ bases, IsBase base) :
    ∀ (taken : List String) (next : Nat),
      (∀ count, numberedVariant "" count ∈ taken ↔ count < next) →
      ∀ count, numberedVariant "" count ∈ numberApart taken bases ↔
        next ≤ count ∧ count < next + bases.count "" := by
  induction bases with
  | nil =>
      intro taken next upTo count
      simp [numberApart]
  | cons first rest induction =>
      intro taken next upTo count
      have ofRest := induction fun base isLater => areBases base (List.mem_cons_of_mem _ isLater)
      rcases firstFree_least taken (numberedVariant_injective first) with
        ⟨chosen, isChosen, isFree, isLeast⟩
      rw [numberApart, List.mem_cons, isChosen]
      by_cases isEmpty : first = ""
      · subst isEmpty
        have isNext : chosen = next := by
          have notBefore := (upTo chosen).not.mp isFree
          by_contra different
          have isTaken := isLeast next (by omega)
          exact absurd ((upTo next).mp isTaken) (Nat.lt_irrefl next)
        rw [isNext, (numberedVariant_injective "").eq_iff, ofRest _ (next + 1) ?_,
          List.count_cons_self]
        · omega
        · intro other
          rw [List.mem_cons, (numberedVariant_injective "").eq_iff, upTo]
          omega
      · have differs := numberedVariant_ne (areBases first List.mem_cons_self) isEmpty chosen
        rw [or_iff_right (differs count).symm, ofRest _ next ?_,
          List.count_cons_of_ne isEmpty]
        intro other
        rw [List.mem_cons, or_iff_right (differs other).symm, upTo]

/-! ## Reading an identifier back -/

/-- It is a base or a numbered variant of one. -/
def IsNumbered (name : String) : Prop :=
  ∃ base count, IsBase base ∧ name = numberedVariant base count

namespace IsNumbered

variable {name : String} (isNumbered : IsNumbered name)

include isNumbered

theorem getLast?_ne : name.toList.getLast? ≠ some '_' := by
  rcases isNumbered with ⟨base, count, isBase, rfl⟩
  intro isLast
  cases count with
  | zero => exact isBase (.inr isLast)
  | succ count =>
      rw [toList_numberedVariant_succ, List.getLast?_append, List.getLast?_cons,
        Option.some_or, Option.some.injEq] at isLast
      cases found : (toString (count + 2)).toList.getLast? with
      | none =>
          rw [List.getLast?_eq_none_iff] at found
          exact absurd found (toList_toString_ne_nil _)
      | some digit =>
          rw [found, Option.getD_some] at isLast
          rw [isLast] at found
          exact absurd (isDigit_of_mem_toString (List.mem_of_getLast? found)) (by decide)

theorem eq_of_head? (isFirst : name.toList.head? = some '_') :
    ∃ count, name = numberedVariant "" (count + 1) := by
  rcases isNumbered with ⟨base, count, isBase, rfl⟩
  by_cases isEmpty : base = ""
  · subst isEmpty
    cases count with
    | zero => cases isFirst
    | succ count => exact ⟨count, rfl⟩
  · rw [head?_numberedVariant isEmpty] at isFirst
    exact absurd (.inl isFirst) isBase

end IsNumbered

/-- The name without an underscore before it. -/
def unmarked : List Char → List Char
  | '_' :: rest => rest
  | name => name

/-- The name whose identifier is spelled in this way, without an underscore before it. -/
def unmarkedNameSpelled : List Char → List Char
  | ['_', 'e', 'm', 'p', 't', 'y'] => []
  | '_' :: rest => rest
  | 'r' :: '#' :: rest => rest
  | spelling => if spelling.getLast? = some '_' then spelling.dropLast else spelling

theorem unmarked_eq_self {name : List Char} (notFirst : name.head? ≠ some '_') :
    unmarked name = name := by
  unfold unmarked
  split
  · exact absurd rfl notFirst
  · rfl

theorem unmarkedNameSpelled_cons {rest : List Char} (notEmpty : rest ≠ ['e', 'm', 'p', 't', 'y']) :
    unmarkedNameSpelled ('_' :: rest) = rest := by
  rw [unmarkedNameSpelled]
  intro same
  exact notEmpty same

theorem unmarkedNameSpelled_of_identifier {name : List Char} (valid : isIdentifier name)
    (notFirst : name.head? ≠ some '_') (notLast : name.getLast? ≠ some '_') :
    unmarkedNameSpelled name = name := by
  unfold unmarkedNameSpelled
  split
  · exact absurd rfl notFirst
  · exact absurd rfl notFirst
  · rw [isIdentifier, List.all_cons, Bool.and_eq_true, Bool.and_eq_true] at valid
    exact absurd valid.2.1 (by decide)
  · exact if_neg notLast

namespace IsNumbered

variable {name : String} {identifier : Identifier}

/-- A numbered name can be read back from its identifier, up to an underscore before it. -/
theorem unmarkedNameSpelled_of_identifierOf (isNumbered : IsNumbered name)
    (valid : identifierOf name = .ok identifier) :
    unmarkedNameSpelled identifier.spelling.toList = unmarked name.toList := by
  cases escapes_of_identifierOf valid with
  | empty isEmpty =>
      rw [isEmpty]
      decide
  | digit begins =>
      have spelled : ("_" ++ name).toList = '_' :: name.toList := String.toList_append ..
      change unmarkedNameSpelled ("_" ++ name).toList = _
      rw [beginsWithDigit] at begins
      rw [spelled, unmarkedNameSpelled_cons, unmarked_eq_self]
      · intro isFirst
        rw [isFirst] at begins
        exact absurd begins (by decide)
      · intro same
        rw [same] at begins
        exact absurd begins (by decide)
  | path isPathKeyword =>
      have checked : ∀ word ∈ pathKeywords,
          unmarkedNameSpelled (word ++ "_").toList = unmarked word.toList := by decide
      exact checked name isPathKeyword
  | raw isKeyword =>
      have checked : ∀ word ∈ keywords,
          unmarkedNameSpelled ("r#" ++ word).toList = unmarked word.toList := by decide
      exact checked name isKeyword
  | plain isValid =>
      by_cases isFirst : name.toList.head? = some '_'
      · rcases isNumbered.eq_of_head? isFirst with ⟨count, rfl⟩
        change unmarkedNameSpelled (numberedVariant "" (count + 1)).toList = _
        rw [toList_numberedVariant_succ]
        apply unmarkedNameSpelled_cons
        intro same
        have isDigit : 'e'.isDigit := isDigit_of_mem_toString (same ▸ List.mem_cons_self)
        exact absurd isDigit (by decide)
      · rw [unmarked_eq_self isFirst]
        exact unmarkedNameSpelled_of_identifier isValid isFirst isNumbered.getLast?_ne

/-- Numbered names that differ in nothing but an underscore are a variant of the empty name
and its number. -/
theorem eq_or_marked {other : String} (isNumbered : IsNumbered name)
    (isOther : IsNumbered other) (same : unmarked name.toList = unmarked other.toList) :
    name = other ∨ ∃ count,
      name = numberedVariant "" (count + 1) ∧ other = toString (count + 2) ∨
        other = numberedVariant "" (count + 1) ∧ name = toString (count + 2) := by
  have unmarked_variant : ∀ count, unmarked (numberedVariant "" (count + 1)).toList =
      (toString (count + 2)).toList := by
    intro count
    rw [toList_numberedVariant_succ]
    rfl
  by_cases isFirst : name.toList.head? = some '_'
  · rcases isNumbered.eq_of_head? isFirst with ⟨count, rfl⟩
    rw [unmarked_variant] at same
    by_cases isOtherFirst : other.toList.head? = some '_'
    · rcases isOther.eq_of_head? isOtherFirst with ⟨otherCount, rfl⟩
      rw [unmarked_variant] at same
      have sameNumber := toString_injective (String.toList_injective same)
      rw [show count = otherCount by omega]
      exact .inl rfl
    · rw [unmarked_eq_self isOtherFirst] at same
      exact .inr ⟨count, .inl ⟨rfl, (String.toList_injective same).symm⟩⟩
  · rw [unmarked_eq_self isFirst] at same
    by_cases isOtherFirst : other.toList.head? = some '_'
    · rcases isOther.eq_of_head? isOtherFirst with ⟨count, rfl⟩
      rw [unmarked_variant] at same
      exact .inr ⟨count, .inr ⟨rfl, String.toList_injective same⟩⟩
    · rw [unmarked_eq_self isOtherFirst] at same
      exact .inl (String.toList_injective same)

end IsNumbered

/-! ## Spellings that clash -/

theorem spelling_of_mark {name : String} {identifier : Identifier}
    (valid : identifierOf name = .ok identifier) (isFirst : name.toList.head? = some '_') :
    identifier.spelling = name := by
  have noKeyword : ∀ word ∈ pathKeywords ++ keywords, word.toList.head? ≠ some '_' := by decide
  cases escapes_of_identifierOf valid with
  | empty isEmpty =>
      rw [isEmpty] at isFirst
      cases isFirst
  | digit begins =>
      rw [beginsWithDigit, isFirst] at begins
      exact absurd begins (by decide)
  | path isPathKeyword =>
      exact absurd isFirst (noKeyword name (List.mem_append_left _ isPathKeyword))
  | raw isKeyword => exact absurd isFirst (noKeyword name (List.mem_append_right _ isKeyword))
  | plain => rfl

theorem spelling_of_digit {name : String} {identifier : Identifier}
    (valid : identifierOf name = .ok identifier) (digit : beginsWithDigit name) :
    identifier.spelling = "_" ++ name := by
  have notEmpty : name.isEmpty = false := by
    rw [String.isEmpty_eq_false_iff]
    rintro rfl
    cases digit
  rw [identifierOf, notEmpty, digit] at valid
  rcases plain_eq_ok valid with ⟨_, rfl⟩
  rfl

theorem beginsWithDigit_toString (number : Nat) : beginsWithDigit (toString number) := by
  rw [beginsWithDigit]
  cases digits : (toString number).toList with
  | nil => exact absurd digits (toList_toString_ne_nil number)
  | cons first rest =>
      have isDigit : first.isDigit := isDigit_of_mem_toString (digits ▸ List.mem_cons_self)
      exact isDigit

/-- How the identifier of a name is spelled, if there is one. -/
def spelled (name : String) : Except InvalidIdentifier String :=
  Identifier.spelling <$> identifierOf name

theorem spelled_marked_eq {count : Nat} {identifier peer : Identifier}
    (valid : identifierOf (numberedVariant "" (count + 1)) = .ok identifier)
    (peerValid : identifierOf (toString (count + 2)) = .ok peer) :
    identifier.spelling = peer.spelling := by
  rw [spelling_of_mark valid, spelling_of_digit peerValid (beginsWithDigit_toString _)]
  · rw [numberedVariant, String.empty_append]
  · rw [toList_numberedVariant_succ]
    rfl

theorem underscore_not_mem_toString (number : Nat) : '_' ∉ (toString number).toList := by
  rw [Nat.toString_eq_ofList_toDigits, String.toList_ofList]
  exact Nat.underscore_not_in_toDigits

theorem isNumbered_of_mem_numberApart {bases : List String}
    (areBases : ∀ base ∈ bases, IsBase base) {name : String}
    (isName : name ∈ numberApart [] bases) : IsNumbered name := by
  have ⟨_, _, areVariants⟩ := numberApart_spec bases []
  rcases exists_of_mem_of_forall₂ areVariants isName with ⟨base, isBase, count, isVariant⟩
  exact ⟨base, count, areBases base isBase, isVariant⟩

/-- Names that are told apart have identifiers that are told apart, unless one of them is
the number that another of them got for being empty. -/
theorem nodup_spelled_iff {bases : List String} (areBases : ∀ base ∈ bases, IsBase base)
    (valid : ∀ name ∈ numberApart [] bases, ∃ identifier, identifierOf name = .ok identifier) :
    ((numberApart [] bases).map spelled).Nodup ↔
      ∀ number : Nat, 2 ≤ number → number ≤ bases.count "" → toString number ∉ bases := by
  have isMarked : ∀ count, numberedVariant "" (count + 1) ∈ numberApart [] bases ↔
      count + 2 ≤ bases.count "" := by
    intro count
    rw [mem_numberApart_empty_iff areBases [] 0 (by simp)]
    omega
  have isPlain : ∀ number : Nat,
      toString number ∈ numberApart [] bases ↔ toString number ∈ bases :=
    fun number => mem_numberApart_iff (underscore_not_mem_toString number)
  rw [List.nodup_map_iff_inj_on (numberApart_spec bases []).1]
  constructor
  · intro injective number atLeast atMost isBase
    rcases Nat.exists_eq_add_of_le' atLeast with ⟨count, rfl⟩
    have markedIn := (isMarked count).mpr atMost
    have plainIn := (isPlain (count + 2)).mpr isBase
    rcases valid _ markedIn with ⟨identifier, ofMarked⟩
    rcases valid _ plainIn with ⟨peer, ofPlain⟩
    have sameSpelling : spelled (numberedVariant "" (count + 1)) =
        spelled (toString (count + 2)) := by
      rw [spelled, spelled, ofMarked, ofPlain]
      exact congrArg Except.ok (spelled_marked_eq ofMarked ofPlain)
    have same := injective _ markedIn _ plainIn sameSpelling
    apply underscore_not_mem_toString (count + 2)
    rw [← same, toList_numberedVariant_succ]
    exact List.mem_append_right _ List.mem_cons_self
  · intro apart name isName other isOther sameSpelling
    have isNumbered := isNumbered_of_mem_numberApart areBases isName
    have otherNumbered := isNumbered_of_mem_numberApart areBases isOther
    rcases valid name isName with ⟨identifier, ofName⟩
    rcases valid other isOther with ⟨peer, ofOther⟩
    rw [spelled, spelled, ofName, ofOther] at sameSpelling
    have sameUnmarked : unmarked name.toList = unmarked other.toList := by
      rw [← isNumbered.unmarkedNameSpelled_of_identifierOf ofName,
        ← otherNumbered.unmarkedNameSpelled_of_identifierOf ofOther, Except.ok.inj sameSpelling]
    have noClash : ∀ count, numberedVariant "" (count + 1) ∈ numberApart [] bases →
        toString (count + 2) ∉ numberApart [] bases := by
      intro count markedIn plainIn
      exact apart (count + 2) (by omega) ((isMarked count).mp markedIn) ((isPlain _).mp plainIn)
    rcases isNumbered.eq_or_marked otherNumbered sameUnmarked with
      same | ⟨count, ⟨rfl, rfl⟩ | ⟨rfl, rfl⟩⟩
    · exact same
    · exact absurd isOther (noClash count isName)
    · exact absurd isName (noClash count isOther)

end SchemaContent.Declarations
