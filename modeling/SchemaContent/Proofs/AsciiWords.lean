import SchemaContent.Proofs.WordLetters

/-! # Words of ASCII names

A name without other characters than those of ASCII has words of letters and digits, of
which there are 62, and so it has in every spelling. -/

namespace SchemaContent.Text

/-- All characters of the text are below U+0080. -/
def IsAscii (text : String) : Prop :=
  ∀ character ∈ text.toList, character.toNat < 128

instance (text : String) : Decidable (IsAscii text) :=
  decidable_of_iff (text.toList.all (·.toNat < 128) = true)
    (List.all_eq_true.trans (forall₂_congr fun _ _ => decide_eq_true_iff))

/-! ## Letter case -/

theorem isAscii_of_isAlphanum {character : Char} (isAlphanum : character.isAlphanum) :
    character.toNat < 128 := by
  have isBelow : ∀ last : Char, last.toNat < 128 → character.val ≤ last.val →
      character.toNat < 128 :=
    fun _ isAscii atMost => Nat.lt_of_le_of_lt (UInt32.le_iff_toNat_le.mp atMost) isAscii
  rcases Bool.or_eq_true_iff.mp isAlphanum with isAlpha | isDigit
  · rcases Bool.or_eq_true_iff.mp isAlpha with isUpper | isLower
    · exact isBelow 'Z' (by decide) (of_decide_eq_true isUpper).2
    · exact isBelow 'z' (by decide) (of_decide_eq_true (Bool.and_eq_true_iff.mp isLower).2)
  · exact isBelow '9' (by decide) (of_decide_eq_true (Bool.and_eq_true_iff.mp isDigit).2)

theorem isAlphanum_of_mem_toUppercase (character : Char) (isAlphanum : character.isAlphanum) :
    ∀ image ∈ toUppercase character, image.isAlphanum := by
  intro image isImage
  have isAscii := isAscii_of_isAlphanum isAlphanum
  rw [toUppercase, if_pos isAscii, List.mem_singleton] at isImage
  have kept : character.isAlphanum → character.toUpper.isAlphanum :=
    of_ascii (fun original => original.isAlphanum → original.toUpper.isAlphanum) (by decide)
      isAscii
  rw [isImage]
  exact kept isAlphanum

theorem isAlphanum_of_mem_toLowercase (character : Char) (isAlphanum : character.isAlphanum) :
    ∀ image ∈ toLowercase character, image.isAlphanum := by
  intro image isImage
  have isAscii := isAscii_of_isAlphanum isAlphanum
  rw [toLowercase, if_pos isAscii, List.mem_singleton] at isImage
  have kept : character.isAlphanum → character.toLower.isAlphanum :=
    of_ascii (fun original => original.isAlphanum → original.toLower.isAlphanum) (by decide)
      isAscii
  rw [isImage]
  exact kept isAlphanum

/-! ## Words -/

theorem mem_of_mem_cut {separates : Char → Bool} {text : List Char} :
    ∀ piece ∈ cut separates text, ∀ character ∈ piece, character ∈ text := by
  induction text with
  | nil =>
      intro piece isPiece character isCharacter
      rw [cut, List.mem_singleton] at isPiece
      rw [isPiece] at isCharacter
      exact isCharacter
  | cons first rest induction =>
      intro piece isPiece character isCharacter
      rw [cut] at isPiece
      split at isPiece
      · rcases List.mem_cons.mp isPiece with rfl | isLater
        · cases isCharacter
        · exact List.mem_cons_of_mem _ (induction piece isLater character isCharacter)
      · split at isPiece
        · rename_i noPieces
          exact absurd noPieces (cut_ne_nil separates rest)
        · rename_i head tail isCut
          rw [isCut] at induction
          rcases List.mem_cons.mp isPiece with rfl | isLater
          · rcases List.mem_cons.mp isCharacter with rfl | inHead
            · exact List.mem_cons_self
            · exact List.mem_cons_of_mem _ (induction head List.mem_cons_self character inHead)
          · have inRest := induction piece (List.mem_cons_of_mem _ isLater) character isCharacter
            exact List.mem_cons_of_mem _ inRest

theorem isAlphanum_of_mem_words {name : String} (ascii : IsAscii name) {word : List Char}
    (isWord : word ∈ words name) : ∀ character ∈ word, character.isAlphanum := by
  intro character isCharacter
  rcases List.mem_flatMap.mp isWord with ⟨piece, isPiece, isWord⟩
  rcases mem_of_mem_splitAtCase word isWord character isCharacter with none | inPiece
  · cases none
  · have isCut := (List.mem_filter.mp isPiece).1
    have notSeparator := not_separates_of_mem_cut piece isCut character inPiece
    have isAscii := ascii character (mem_of_mem_cut piece isCut character inPiece)
    rw [Bool.not_eq_false', isAlphanumeric, if_pos isAscii] at notSeparator
    exact notSeparator

/-! ## Spellings -/

theorem isAlphanum_of_mem_upperCamelCase {name : String} (ascii : IsAscii name) :
    ∀ character ∈ (upperCamelCase name).toList, character.isAlphanum := by
  intro character isCharacter
  rw [upperCamelCase, String.toList_ofList] at isCharacter
  rcases List.mem_flatMap.mp isCharacter with ⟨word, isWord, isCharacter⟩
  exact forall_mem_capitalizeWord isAlphanum_of_mem_toUppercase isAlphanum_of_mem_toLowercase
    (fun notAscii => absurd notAscii (by decide)) (isAlphanum_of_mem_words ascii isWord)
    character isCharacter

theorem mem_of_mem_intercalate {separator : List Char} {items : List (List Char)}
    {character : Char} (isCharacter : character ∈ separator.intercalate items) :
    character ∈ separator ∨ ∃ item ∈ items, character ∈ item := by
  induction items with
  | nil => cases isCharacter
  | cons first rest induction =>
      cases rest with
      | nil =>
          rw [List.intercalate_singleton] at isCharacter
          exact .inr ⟨first, List.mem_cons_self, isCharacter⟩
      | cons second others =>
          rw [List.intercalate_cons_cons, List.mem_append, List.mem_append] at isCharacter
          rcases isCharacter with (inFirst | isSeparator) | inRest
          · exact .inr ⟨first, List.mem_cons_self, inFirst⟩
          · exact .inl isSeparator
          · rcases induction inRest with isSeparator | ⟨item, isItem, inItem⟩
            · exact .inl isSeparator
            · exact .inr ⟨item, List.mem_cons_of_mem _ isItem, inItem⟩

theorem isAlphanum_of_mem_snakeCase {name : String} (ascii : IsAscii name) :
    ∀ character ∈ (snakeCase name).toList, character = '_' ∨ character.isAlphanum := by
  intro character isCharacter
  rw [snakeCase, String.toList_ofList] at isCharacter
  rcases mem_of_mem_intercalate isCharacter with isSeparator | ⟨item, isItem, inItem⟩
  · exact .inl (List.mem_singleton.mp isSeparator)
  · rcases List.mem_map.mp isItem with ⟨word, isWord, rfl⟩
    have letters := isAlphanum_of_mem_words ascii isWord
    exact .inr (forall_mem_lowercaseWord isAlphanum_of_mem_toLowercase
      (fun notAscii => absurd notAscii (by decide)) letters character inItem)

end SchemaContent.Text
