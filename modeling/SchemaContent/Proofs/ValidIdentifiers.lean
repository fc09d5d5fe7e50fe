import SchemaContent.Proofs.AsciiWords
import SchemaContent.Proofs.MemberFields

/-! # Valid identifiers

Which texts are identifiers in the generated language, and that names of letters, digits
and underscores become such texts: the base of a type or field, and each variant of it. -/

namespace SchemaContent.Declarations

/-! ## The language -/

/-- The strict and reserved keywords of the 2021 edition. -/
def reservedWords : List String := [
  "abstract", "as", "async", "await", "become", "box", "break", "const", "continue", "crate",
  "do", "dyn", "else", "enum", "extern", "false", "final", "fn", "for", "if", "impl", "in",
  "let", "loop", "macro", "match", "mod", "move", "mut", "override", "priv", "pub", "ref",
  "return", "Self", "self", "static", "struct", "super", "trait", "true", "try", "type",
  "typeof", "unsafe", "unsized", "use", "virtual", "where", "while", "yield"]

/-- The name can become an identifier: it consists of letters, digits and underscores, and
is not a lone underscore, which is none and cannot be escaped. -/
structure IsPlainName (name : String) : Prop where
  letters : ∀ character ∈ name.toList, character = '_' ∨ character.isAlphanum
  notLone : name ≠ "_"

/-- It is such a name, and it begins with a letter or an underscore. -/
structure IsWord (text : String) : Prop extends IsPlainName text where
  begins : ∃ first ∈ text.toList.head?, first = '_' ∨ first.isAlpha

theorem isWord_iff (text : String) :
    (text.toList.all (fun character => character = '_' || character.isAlphanum) ∧ text ≠ "_" ∧
      text.toList.head?.any (fun first => first = '_' || first.isAlpha)) ↔ IsWord text := by
  rw [List.all_eq_true, Option.any_eq_true]
  simp only [Bool.or_eq_true, decide_eq_true_iff]
  exact ⟨fun ⟨letters, notLone, begins⟩ => ⟨⟨letters, notLone⟩, begins⟩,
    fun isWord => ⟨isWord.letters, isWord.notLone, isWord.begins⟩⟩

instance (text : String) : Decidable (IsWord text) :=
  decidable_of_iff _ (isWord_iff text)

/-- The text is an identifier as it may be written: not a keyword, or a raw one. -/
inductive IsValidSpelling : String → Prop
  | plain {word : String} (isWord : IsWord word) (notReserved : word ∉ reservedWords) :
      IsValidSpelling word
  | raw {word : String} (isWord : IsWord word)
      (canBeRaw : word ∉ ["crate", "self", "super", "Self"]) : IsValidSpelling ("r#" ++ word)

def Identifier.IsValid (identifier : Identifier) : Prop :=
  IsValidSpelling identifier.spelling

theorem reservedWords_subset : reservedWords ⊆ pathKeywords ++ keywords := by
  decide

theorem isWord_of_mem_keywords : ∀ word ∈ keywords, IsWord word := by
  decide

/-! ## Identifiers of names -/

theorem isIdentifier_of_isWord {word : String} (isWord : IsWord word) :
    isIdentifier word.toList = true := by
  have continues : ∀ character ∈ word.toList, Text.isIdentifierContinue character := by
    intro character isCharacter
    rcases isWord.letters character isCharacter with rfl | isAlphanum
    · rfl
    · have isAscii := Text.isAscii_of_isAlphanum isAlphanum
      rw [Text.isIdentifierContinue, if_pos isAscii, isAlphanum, Bool.true_or]
  rcases isWord.begins with ⟨first, isFirst, begins⟩
  cases spelled : word.toList with
  | nil =>
      rw [spelled] at isFirst
      cases isFirst
  | cons other rest =>
      rw [spelled] at isFirst continues
      cases isFirst
      rw [isIdentifier, Bool.and_eq_true, Bool.or_eq_true, beq_iff_eq, List.all_eq_true]
      refine ⟨begins.imp_right ?_, (List.forall_mem_cons.mp continues).2⟩
      intro isAlpha
      have isAscii := Text.isAscii_of_isAlphanum (Bool.or_eq_true_iff.mpr (.inl isAlpha))
      rw [Text.isIdentifierStart, if_pos isAscii]
      exact isAlpha

theorem exists_valid_plain {word : String} (isWord : IsWord word)
    (notReserved : word ∉ reservedWords) :
    ∃ identifier, plain word = .ok identifier ∧ identifier.IsValid := by
  rw [plain, if_pos (isIdentifier_of_isWord isWord)]
  exact ⟨_, rfl, .plain isWord notReserved⟩

theorem not_mem_reservedWords_of_mark {word : String} (isFirst : word.toList.head? = some '_') :
    word ∉ reservedWords := by
  have noMark : ∀ word ∈ reservedWords, word.toList.head? ≠ some '_' := by decide
  exact fun isReserved => noMark word isReserved isFirst

namespace IsPlainName

variable {name : String} (isPlain : IsPlainName name) (notEmpty : ¬name.isEmpty)

include isPlain notEmpty

theorem isWord_marked : IsWord ("_" ++ name) := by
  have spelled : ("_" ++ name).toList = '_' :: name.toList := String.toList_append ..
  refine ⟨⟨?_, ?_⟩, '_', ?_, .inl rfl⟩
  · rw [spelled, List.forall_mem_cons]
    exact ⟨.inl rfl, isPlain.letters⟩
  · intro isLone
    rw [← String.toList_inj, spelled] at isLone
    rw [String.isEmpty_iff, ← String.toList_eq_nil_iff] at notEmpty
    exact notEmpty (List.cons.inj isLone).2
  · rw [spelled]
    rfl

theorem isWord_of_not_digit (notDigit : ¬beginsWithDigit name) : IsWord name := by
  refine ⟨isPlain, ?_⟩
  cases spelled : name.toList with
  | nil => exact absurd (String.isEmpty_iff.mpr (String.toList_eq_nil_iff.mp spelled)) notEmpty
  | cons first rest =>
      refine ⟨first, rfl, ?_⟩
      rw [beginsWithDigit, spelled] at notDigit
      have ofFirst := isPlain.letters first (spelled ▸ List.mem_cons_self)
      rw [Char.isAlphanum, Bool.or_eq_true] at ofFirst
      exact ofFirst.imp_right fun isAlphanum => isAlphanum.resolve_right notDigit

omit notEmpty

/-- Every such name has an identifier, and it is valid: each escape leads to a word that is
not reserved, or to a keyword that can be raw. -/
theorem exists_identifier :
    ∃ identifier, identifierOf name = .ok identifier ∧ identifier.IsValid := by
  rw [identifierOf]
  split
  case isTrue => exact exists_valid_plain (by decide) (by decide)
  rename_i notEmpty
  split
  case isTrue =>
    have isMarked : ("_" ++ name).toList.head? = some '_' := by
      rw [String.toList_append]
      rfl
    exact exists_valid_plain (isPlain.isWord_marked notEmpty)
      (not_mem_reservedWords_of_mark isMarked)
  rename_i notDigit
  split
  case isTrue isPathKeyword =>
    have escaped : ∀ word ∈ pathKeywords,
        IsWord (word ++ "_") ∧ word ++ "_" ∉ reservedWords := by decide
    rcases escaped name (List.contains_iff_mem.mp isPathKeyword) with ⟨isWord, notReserved⟩
    exact exists_valid_plain isWord notReserved
  rename_i notPathKeyword
  split
  case isTrue isKeyword =>
    have isKeyword := List.contains_iff_mem.mp isKeyword
    have canBeRaw : ∀ word ∈ keywords, word ∉ ["crate", "self", "super", "Self"] := by decide
    exact ⟨_, rfl, .raw (isWord_of_mem_keywords name isKeyword) (canBeRaw name isKeyword)⟩
  rename_i notKeyword
  apply exists_valid_plain (isPlain.isWord_of_not_digit notEmpty notDigit)
  intro isReserved
  rcases List.mem_append.mp (reservedWords_subset isReserved) with isPath | isOther
  · exact notPathKeyword (List.contains_iff_mem.mpr isPath)
  · exact notKeyword (List.contains_iff_mem.mpr isOther)

end IsPlainName

/-! ## Names of types and fields -/

theorem isPlainName_of_alphanum {name : String}
    (letters : ∀ character ∈ name.toList, character.isAlphanum) : IsPlainName name where
  letters character isCharacter := .inr (letters character isCharacter)
  notLone := by
    rintro rfl
    exact absurd (letters '_' List.mem_cons_self) (by decide)

/-- The base of a type's name has no underscores, and neither has a variant of it. -/
theorem isPlainName_innerVariant {base : String}
    (letters : ∀ character ∈ base.toList, character.isAlphanum) (count : Nat) :
    IsPlainName (innerVariant base count) := by
  apply isPlainName_of_alphanum
  induction count with
  | zero => exact letters
  | succ count induction =>
      rw [innerVariant, String.toList_append, List.forall_mem_append]
      exact ⟨induction, List.all_eq_true.mp (by decide)⟩

theorem isPlainName_fieldBase {name : ExpandedName} (ascii : Text.IsAscii name.localName)
    (occurrence : Occurrence) : IsPlainName (fieldBase name occurrence) where
  letters := by
    rw [fieldBase, String.toList_append, List.forall_mem_append]
    refine ⟨Text.isAlphanum_of_mem_snakeCase ascii, ?_⟩
    intro character isCharacter
    split at isCharacter
    · have isAlphanum : "s".toList.all Char.isAlphanum := by decide
      exact .inr (List.all_eq_true.mp isAlphanum character isCharacter)
    · cases isCharacter
  notLone := by
    intro isLone
    apply isBase_fieldBase name occurrence
    rw [isLone]
    exact .inl rfl

theorem isPlainName_numberedVariant {base : String} (isPlain : IsPlainName base) (count : Nat) :
    IsPlainName (numberedVariant base count) := by
  cases count with
  | zero => exact isPlain
  | succ count =>
      constructor
      · rw [toList_numberedVariant_succ, List.forall_mem_append, List.forall_mem_cons]
        refine ⟨isPlain.letters, .inl rfl, ?_⟩
        intro character isCharacter
        exact .inr (Bool.or_eq_true_iff.mpr (.inr (isDigit_of_mem_toString isCharacter)))
      · intro isLone
        have sameLength := congrArg (List.length ∘ String.toList) isLone
        have someDigits := List.length_pos_iff.mpr (toList_toString_ne_nil (count + 2))
        rw [Function.comp, toList_numberedVariant_succ, List.length_append,
          List.length_cons] at sameLength
        change _ = 1 at sameLength
        omega

end SchemaContent.Declarations
