import Mathlib.Data.List.Nodup
import Mathlib.Data.List.Perm.Subperm
import SchemaContent.Declarations.Generation
import SchemaContent.Proofs.WordLetters

/-! # Names of types

A name that is chosen for a type is free, and there is no underscore in it. Underscores
come in only where a name would not be an identifier, so the name can be read back from
the identifier, and types with different names have different identifiers. -/

namespace SchemaContent.Declarations

/-! ## Free names -/

/-- Among more variants than there are taken names, all of them different, one is free. -/
theorem exists_free_variant (taken : List String) {variant : Nat → String}
    (injective : Function.Injective variant) :
    ∃ name ∈ (List.range (taken.length + 1)).map variant, name ∉ taken := by
  by_contra noneFree
  have allTaken : (List.range (taken.length + 1)).map variant ⊆ taken := by
    intro name isVariant
    by_contra isFree
    exact noneFree ⟨name, isVariant, isFree⟩
  have distinct : ((List.range (taken.length + 1)).map variant).Nodup :=
    List.nodup_range.map injective
  have tooMany := (distinct.subperm allTaken).length_le
  rw [List.length_map, List.length_range] at tooMany
  omega

/-- The variant that is chosen is free, and those before it are taken. -/
theorem firstFree_least (taken : List String) {variant : Nat → String}
    (injective : Function.Injective variant) :
    ∃ count, firstFree taken variant = variant count ∧ variant count ∉ taken ∧
      ∀ earlier < count, variant earlier ∈ taken := by
  rcases exists_free_variant taken injective with ⟨free, isVariant, isFree⟩
  have isFound : (((List.range (taken.length + 1)).map variant).find?
      fun name => !taken.contains name).isSome := by
    rw [List.find?_isSome]
    exact ⟨free, isVariant, by simpa using isFree⟩
  rcases Option.isSome_iff_exists.mp isFound with ⟨name, found⟩
  have chosen : firstFree taken variant = name := by rw [firstFree, found, Option.getD_some]
  rw [List.find?_map, Option.map_eq_some_iff] at found
  rcases found with ⟨count, found, rfl⟩
  have ⟨isFree, _, isLeast⟩ := List.find?_range_eq_some.mp found
  exact ⟨count, chosen, by simpa using isFree, by simpa using isLeast⟩

theorem firstFree_spec (taken : List String) {variant : Nat → String}
    (injective : Function.Injective variant) :
    firstFree taken variant ∉ taken ∧ ∃ count, firstFree taken variant = variant count := by
  rcases firstFree_least taken injective with ⟨count, chosen, isFree, _⟩
  exact ⟨chosen ▸ isFree, count, chosen⟩

/-- The name that is varied is taken afterwards, if it was not before. -/
theorem mem_firstFree_cons (taken : List String) (variant : Nat → String) :
    variant 0 ∈ firstFree taken variant :: taken := by
  by_cases isTaken : variant 0 ∈ taken
  · exact List.mem_cons_of_mem _ isTaken
  · have isFirst : firstFree taken variant = variant 0 := by
      rw [firstFree, List.range_succ_eq_map, List.map_cons, List.find?_cons_of_pos]
      · rfl
      · simpa using isTaken
    rw [isFirst]
    exact List.mem_cons_self

theorem length_innerVariant (base : String) (count : Nat) :
    (innerVariant base count).length = base.length + 5 * count := by
  induction count with
  | zero => rfl
  | succ count induction =>
      rw [innerVariant, String.length_append, induction]
      change base.length + 5 * count + 5 = _
      omega

theorem innerVariant_injective (base : String) : Function.Injective (innerVariant base) := by
  intro first second same
  have sameLength := congrArg String.length same
  rw [length_innerVariant, length_innerVariant] at sameLength
  omega

/-! ## No underscores -/

theorem underscore_not_mem_innerVariant {base : String} (without : '_' ∉ base.toList)
    (count : Nat) : '_' ∉ (innerVariant base count).toList := by
  induction count with
  | zero => exact without
  | succ count induction =>
      rw [innerVariant, String.toList_append, List.mem_append, not_or]
      exact ⟨induction, by decide⟩

theorem underscore_not_mem_ownerBase (owner : Owner) : '_' ∉ (ownerBase owner).toList := by
  rw [ownerBase]
  split
  · exact Text.underscore_not_mem_upperCamelCase _
  · decide

/-! ## Reading an identifier back -/

/-- The name whose identifier is spelled in this way. -/
def nameSpelled : List Char → List Char
  | ['_', 'e', 'm', 'p', 't', 'y'] => []
  | 'r' :: '#' :: rest => rest
  | spelling => spelling.filter (· != '_')

theorem plain_eq_ok {text : String} {identifier : Identifier}
    (valid : plain text = .ok identifier) :
    isIdentifier text.toList = true ∧ identifier = ⟨text, false⟩ := by
  rw [plain] at valid
  split at valid
  · rename_i isValid
    cases valid
    exact ⟨isValid, rfl⟩
  · cases valid

/-- How a name becomes this identifier: as it is, or escaped. -/
inductive Escapes (name : String) : Identifier → Prop
  | empty (isEmpty : name = "") : Escapes name ⟨"_empty", false⟩
  | digit (begins : beginsWithDigit name) (valid : isIdentifier ("_" ++ name).toList) :
      Escapes name ⟨"_" ++ name, false⟩
  | path (isPathKeyword : name ∈ pathKeywords) : Escapes name ⟨name ++ "_", false⟩
  | raw (isKeyword : name ∈ keywords) : Escapes name ⟨name, true⟩
  | plain (valid : isIdentifier name.toList) : Escapes name ⟨name, false⟩

theorem escapes_of_identifierOf {name : String} {identifier : Identifier}
    (valid : identifierOf name = .ok identifier) : Escapes name identifier := by
  rw [identifierOf] at valid
  split at valid
  case isTrue isEmpty =>
    rcases plain_eq_ok valid with ⟨_, rfl⟩
    exact .empty (String.isEmpty_iff.mp isEmpty)
  split at valid
  case isTrue begins =>
    rcases plain_eq_ok valid with ⟨isValid, rfl⟩
    exact .digit begins isValid
  split at valid
  case isTrue isPathKeyword =>
    rcases plain_eq_ok valid with ⟨_, rfl⟩
    exact .path (List.contains_iff_mem.mp isPathKeyword)
  split at valid
  case isTrue isKeyword =>
    cases valid
    exact .raw (List.contains_iff_mem.mp isKeyword)
  rcases plain_eq_ok valid with ⟨isValid, rfl⟩
  exact .plain isValid

theorem nameSpelled_eq_filter {spelling : List Char}
    (notEmpty : spelling ≠ ['_', 'e', 'm', 'p', 't', 'y'])
    (notRaw : ∀ rest, spelling ≠ 'r' :: '#' :: rest) :
    nameSpelled spelling = spelling.filter (· != '_') := by
  unfold nameSpelled
  split
  · exact absurd rfl notEmpty
  · exact absurd rfl (notRaw _)
  · rfl

theorem filter_eq_self_of_without {name : List Char} (without : '_' ∉ name) :
    name.filter (· != '_') = name := by
  apply List.filter_eq_self.mpr
  intro character isCharacter
  rw [bne_iff_ne]
  exact fun same => without (same ▸ isCharacter)

theorem nameSpelled_of_digit {name : String} (without : '_' ∉ name.toList)
    (digit : beginsWithDigit name) : nameSpelled ("_" ++ name).toList = name.toList := by
  have spelled : ("_" ++ name).toList = '_' :: name.toList := String.toList_append ..
  rw [spelled, nameSpelled_eq_filter]
  · rw [List.filter_cons_of_neg (by decide), filter_eq_self_of_without without]
  · intro same
    rw [beginsWithDigit, (List.cons.inj same).2] at digit
    exact absurd digit (by decide)
  · intro rest same
    exact absurd (List.cons.inj same).1 (by decide)

theorem nameSpelled_of_identifier {name : String} (without : '_' ∉ name.toList)
    (valid : isIdentifier name.toList) : nameSpelled name.toList = name.toList := by
  rw [nameSpelled_eq_filter, filter_eq_self_of_without without]
  · intro same
    rw [same] at without
    exact without (by decide)
  · intro rest same
    rw [same, isIdentifier, List.all_cons, Bool.and_eq_true, Bool.and_eq_true] at valid
    exact absurd valid.2.1 (by decide)

/-- A name without underscores can be read back from its identifier. -/
theorem nameSpelled_of_identifierOf {name : String} {identifier : Identifier}
    (without : '_' ∉ name.toList) (valid : identifierOf name = .ok identifier) :
    nameSpelled identifier.spelling.toList = name.toList := by
  cases escapes_of_identifierOf valid with
  | empty isEmpty =>
      rw [isEmpty]
      decide
  | digit begins => exact nameSpelled_of_digit without begins
  | path isPathKeyword =>
      have checked : ∀ word ∈ pathKeywords,
          nameSpelled (word ++ "_").toList = word.toList := by decide
      exact checked name isPathKeyword
  | raw isKeyword =>
      have spelled : ("r#" ++ name).toList = 'r' :: '#' :: name.toList :=
        String.toList_append ..
      change nameSpelled ("r#" ++ name).toList = name.toList
      rw [spelled]
      rfl
  | plain isValid => exact nameSpelled_of_identifier without isValid

/-- Names without underscores whose identifiers are spelled alike are the same. -/
theorem eq_of_spelling_eq {name other : String} {identifier peer : Identifier}
    (without : '_' ∉ name.toList) (otherWithout : '_' ∉ other.toList)
    (valid : identifierOf name = .ok identifier) (otherValid : identifierOf other = .ok peer)
    (same : identifier.spelling = peer.spelling) : name = other := by
  apply String.toList_injective
  rw [← nameSpelled_of_identifierOf without valid,
    ← nameSpelled_of_identifierOf otherWithout otherValid, same]

end SchemaContent.Declarations
