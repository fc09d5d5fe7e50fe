import SchemaContent.Text.Words

/-! # The letters of words

Underscores separate words, and no letter becomes one when its case is changed. So
there are none in a name that is spelled in `UpperCamelCase`. Nor does such a name begin
with one of the letters from `a` to `z`, since no capital is one of them. -/

namespace SchemaContent.Text

/-! ## Letter case -/

theorem toNat_ofNat (code : Nat) :
    (Char.ofNat code).toNat = code ∨ (Char.ofNat code).toNat = 0 := by
  by_cases isValid : code.isValidChar
  · have isCharacter : Char.ofNat code = Char.ofNatAux code isValid := dif_pos isValid
    exact .inl (congrArg Char.toNat isCharacter)
  · have isNull : Char.ofNat code = Char.ofNat 0 := dif_neg isValid
    exact .inr (congrArg Char.toNat isNull)

/-- A table of letter case that leads nowhere into this range of codes: neither does an
expansion contain one of them, nor is a run moved onto them. -/
theorem outside_of_mem_mapCase {low high : Nat} (positive : 0 < low)
    {expansions : List (Nat × List Nat)} {distances : List (CodeRun × Int)}
    (expanded : ∀ entry ∈ expansions, ∀ code ∈ entry.2, code < low ∨ high < code)
    (moved : ∀ entry ∈ distances,
      entry.1.last + entry.2 < low ∨ high < entry.1.first + entry.2)
    {character image : Char} (outside : character.toNat < low ∨ high < character.toNat)
    (isImage : image ∈ mapCase expansions distances character) :
    image.toNat < low ∨ high < image.toNat := by
  rw [mapCase] at isImage
  split at isImage
  · rename_i codes found
    rcases List.mem_map.mp isImage with ⟨code, isCode, rfl⟩
    rcases List.lookup_eq_some_iff.mp found with ⟨before, after, isEntry, _⟩
    have away := expanded (character.toNat, codes) (by simp [isEntry]) code isCode
    have sameCode := toNat_ofNat code
    omega
  · split at isImage
    · rename_i run distance found
      have isEntry := List.mem_of_find?_eq_some found
      have inRun : run.contains character.toNat := by simpa using List.find?_some found
      simp only [CodeRun.contains, Bool.and_eq_true, decide_eq_true_eq] at inRun
      have away := moved _ isEntry
      have sameCode := toNat_ofNat (character.toNat + distance).toNat
      rw [List.mem_singleton.mp isImage]
      simp only at away
      omega
    · rw [List.mem_singleton.mp isImage]
      exact outside

/-- Below U+0080 there are so few characters that all of them can be tried. -/
theorem of_ascii (property : Char → Prop) (checked : ∀ code < 128, property (Char.ofNat code))
    {character : Char} (isAscii : character.toNat < 128) : property character := by
  have holds := checked character.toNat isAscii
  rw [Char.ofNat_toNat] at holds
  exact holds

theorem ne_underscore_of_outside {character : Char} (isOther : character ≠ '_') :
    character.toNat < 95 ∨ 95 < character.toNat := by
  have isOtherCode : character.toNat ≠ 95 := fun same => isOther (Char.toNat_inj.mp same)
  omega

theorem ne_underscore_of_mem_toUppercase (character : Char) (isOther : character ≠ '_') :
    ∀ image ∈ toUppercase character, image ≠ '_' := by
  rintro _ isImage rfl
  rw [toUppercase] at isImage
  split at isImage
  · rename_i isAscii
    have kept : character ≠ '_' → character.toUpper ≠ '_' :=
      of_ascii (fun original => original ≠ '_' → original.toUpper ≠ '_') (by decide) isAscii
    exact kept isOther (List.mem_singleton.mp isImage).symm
  · have outside : '_'.toNat < 95 ∨ 95 < '_'.toNat :=
      outside_of_mem_mapCase (by decide) (by decide +kernel) (by decide +kernel)
        (ne_underscore_of_outside isOther) isImage
    exact absurd outside (by decide)

theorem ne_underscore_of_mem_toLowercase (character : Char) (isOther : character ≠ '_') :
    ∀ image ∈ toLowercase character, image ≠ '_' := by
  rintro _ isImage rfl
  rw [toLowercase] at isImage
  split at isImage
  · rename_i isAscii
    have kept : character ≠ '_' → character.toLower ≠ '_' :=
      of_ascii (fun original => original ≠ '_' → original.toLower ≠ '_') (by decide) isAscii
    exact kept isOther (List.mem_singleton.mp isImage).symm
  · have outside : '_'.toNat < 95 ∨ 95 < '_'.toNat :=
      outside_of_mem_mapCase (by decide) (by decide +kernel) (by decide +kernel)
        (ne_underscore_of_outside isOther) isImage
    exact absurd outside (by decide)

/-- The letters from `a` to `z`. -/
def IsSmallAscii (character : Char) : Prop :=
  97 ≤ character.toNat ∧ character.toNat ≤ 122

/-- A character has a capital, and it is none of the letters from `a` to `z`. -/
theorem exists_head_toUppercase (character : Char) :
    ∃ first rest, toUppercase character = first :: rest ∧ ¬IsSmallAscii first := by
  rw [toUppercase]
  split
  · rename_i isAscii
    have changed : ∀ code < 128, ¬IsSmallAscii (Char.ofNat code).toUpper := by
      unfold IsSmallAscii
      decide
    exact ⟨_, [], rfl, of_ascii (fun original => ¬IsSmallAscii original.toUpper) changed isAscii⟩
  · rename_i notAscii
    have outside : character.toNat < 97 ∨ 122 < character.toNat := by omega
    cases image : mapCase uppercaseExpansions uppercaseDistances character with
    | nil =>
        rw [mapCase] at image
        split at image
        · rename_i codes found
          rcases List.lookup_eq_some_iff.mp found with ⟨before, after, isEntry, _⟩
          have someCodes : ∀ entry ∈ uppercaseExpansions, entry.2 ≠ [] := by decide +kernel
          have hasCodes := someCodes (character.toNat, codes) (by simp [isEntry])
          exact absurd (List.map_eq_nil_iff.mp image) hasCodes
        · split at image <;> cases image
    | cons first rest =>
        have isImage : first ∈ mapCase uppercaseExpansions uppercaseDistances character :=
          image ▸ List.mem_cons_self
        have away : first.toNat < 97 ∨ 122 < first.toNat :=
          outside_of_mem_mapCase (by decide) (by decide +kernel) (by decide +kernel) outside
            isImage
        refine ⟨first, rest, rfl, ?_⟩
        rintro ⟨atLeast, atMost⟩
        omega

/-! ## Words -/

theorem not_separates_of_mem_cut {separates : Char → Bool} {text : List Char} :
    ∀ piece ∈ cut separates text, ∀ character ∈ piece, separates character = false := by
  induction text with
  | nil =>
      intro piece isPiece character isCharacter
      rw [cut, List.mem_singleton] at isPiece
      rw [isPiece] at isCharacter
      cases isCharacter
  | cons first rest induction =>
      intro piece isPiece character isCharacter
      rw [cut] at isPiece
      split at isPiece
      · rcases List.mem_cons.mp isPiece with rfl | isLater
        · cases isCharacter
        · exact induction piece isLater character isCharacter
      · rename_i notSeparator
        split at isPiece
        · rename_i noPieces
          exact absurd noPieces (cut_ne_nil separates rest)
        · rename_i head tail isCut
          rw [isCut] at induction
          rcases List.mem_cons.mp isPiece with rfl | isLater
          · rcases List.mem_cons.mp isCharacter with rfl | isLater
            · exact Bool.eq_false_iff.mpr notSeparator
            · exact induction head List.mem_cons_self character isLater
          · exact induction piece (List.mem_cons_of_mem _ isLater) character isCharacter

/-- Words are made of the characters of the piece that is split. -/
theorem mem_of_mem_splitAtCase {current text : List Char} {wordCase : WordCase} :
    ∀ word ∈ splitAtCase current wordCase text, ∀ character ∈ word,
      character ∈ current ∨ character ∈ text := by
  induction current, wordCase, text using splitAtCase.induct with
  | case1 current wordCase =>
      intro word isWord
      cases isWord
  | case2 current wordCase last =>
      intro word isWord character isCharacter
      rw [splitAtCase, List.mem_singleton] at isWord
      rw [isWord, List.mem_reverse] at isCharacter
      rcases List.mem_cons.mp isCharacter with rfl | isEarlier
      · exact .inr List.mem_cons_self
      · exact .inl isEarlier
  | case3 current wordCase first next rest border induction =>
      intro word isWord character isCharacter
      rw [splitAtCase, if_pos border] at isWord
      rcases List.mem_cons.mp isWord with rfl | isLater
      · rw [List.mem_reverse] at isCharacter
        rcases List.mem_cons.mp isCharacter with rfl | isEarlier
        · exact .inr List.mem_cons_self
        · exact .inl isEarlier
      · rcases induction word isLater character isCharacter with none | isLater
        · cases none
        · exact .inr (List.mem_cons_of_mem _ isLater)
  | case4 current wordCase first next rest noBorder border induction =>
      intro word isWord character isCharacter
      rw [splitAtCase, if_neg noBorder, if_pos border] at isWord
      rcases List.mem_cons.mp isWord with rfl | isLater
      · exact .inl (List.mem_reverse.mp isCharacter)
      · rcases induction word isLater character isCharacter with isFirst | isLater
        · rw [List.mem_singleton.mp isFirst]
          exact .inr List.mem_cons_self
        · exact .inr (List.mem_cons_of_mem _ isLater)
  | case5 current wordCase first next rest noBorder noOther induction =>
      intro word isWord character isCharacter
      rw [splitAtCase, if_neg noBorder, if_neg noOther] at isWord
      rcases induction word isWord character isCharacter with isEarlier | isLater
      · rcases List.mem_cons.mp isEarlier with rfl | isEarlier
        · exact .inr List.mem_cons_self
        · exact .inl isEarlier
      · exact .inr (List.mem_cons_of_mem _ isLater)

theorem underscore_not_mem_of_mem_words {name : String} {word : List Char}
    (isWord : word ∈ words name) : '_' ∉ word := by
  intro isCharacter
  rcases List.mem_flatMap.mp isWord with ⟨piece, isPiece, isWord⟩
  rcases mem_of_mem_splitAtCase word isWord '_' isCharacter with none | inPiece
  · cases none
  · have isCut := (List.mem_filter.mp isPiece).1
    have notSeparator := not_separates_of_mem_cut piece isCut '_' inPiece
    exact absurd notSeparator (by decide)

/-! ## Spellings -/

/-- What is true of all letters of a word stays true of them in small letters, if it does
for each letter. -/
theorem forall_mem_lowercaseWord {property : Char → Prop}
    (kept : ∀ character, property character → ∀ image ∈ toLowercase character, property image)
    (final : property 'Σ' → property 'ς') {word : List Char}
    (letters : ∀ character ∈ word, property character) :
    ∀ character ∈ lowercaseWord word, property character := by
  induction word using lowercaseWord.induct with
  | case1 => exact letters
  | case2 =>
      intro character isCharacter
      rw [lowercaseWord, List.mem_singleton] at isCharacter
      rw [isCharacter]
      exact final (letters 'Σ' List.mem_cons_self)
  | case3 first rest notFinal induction =>
      have ⟨ofFirst, ofRest⟩ := List.forall_mem_cons.mp letters
      intro character isCharacter
      rw [lowercaseWord, List.mem_append] at isCharacter
      · rcases isCharacter with isImage | isLater
        · exact kept first ofFirst character isImage
        · exact induction ofRest character isLater
      · exact notFinal

theorem forall_mem_capitalizeWord {property : Char → Prop}
    (keptUpper : ∀ character, property character →
      ∀ image ∈ toUppercase character, property image)
    (keptLower : ∀ character, property character →
      ∀ image ∈ toLowercase character, property image)
    (final : property 'Σ' → property 'ς') {word : List Char}
    (letters : ∀ character ∈ word, property character) :
    ∀ character ∈ capitalizeWord word, property character := by
  cases word with
  | nil => exact letters
  | cons first rest =>
      have ⟨ofFirst, ofRest⟩ := List.forall_mem_cons.mp letters
      intro character isCharacter
      rw [capitalizeWord, List.mem_append] at isCharacter
      rcases isCharacter with isImage | isLater
      · exact keptUpper first ofFirst character isImage
      · exact forall_mem_lowercaseWord keptLower final ofRest character isLater

theorem underscore_not_mem_lowercaseWord {word : List Char} (without : '_' ∉ word) :
    '_' ∉ lowercaseWord word := by
  have letters : ∀ character ∈ word, character ≠ '_' :=
    fun _ isCharacter same => without (same ▸ isCharacter)
  intro isCharacter
  exact forall_mem_lowercaseWord ne_underscore_of_mem_toLowercase (fun _ => by decide) letters
    '_' isCharacter rfl

theorem underscore_not_mem_capitalizeWord {word : List Char} (without : '_' ∉ word) :
    '_' ∉ capitalizeWord word := by
  have letters : ∀ character ∈ word, character ≠ '_' :=
    fun _ isCharacter same => without (same ▸ isCharacter)
  intro isCharacter
  exact forall_mem_capitalizeWord ne_underscore_of_mem_toUppercase
    ne_underscore_of_mem_toLowercase (fun _ => by decide) letters '_' isCharacter rfl

theorem underscore_not_mem_upperCamelCase (name : String) :
    '_' ∉ (upperCamelCase name).toList := by
  rw [upperCamelCase, String.toList_ofList]
  intro isCharacter
  rcases List.mem_flatMap.mp isCharacter with ⟨word, isWord, isCharacter⟩
  exact underscore_not_mem_capitalizeWord (underscore_not_mem_of_mem_words isWord) isCharacter

/-- A name in `UpperCamelCase` begins with a capital of some word, if it is not empty. -/
theorem not_isSmallAscii_of_head_upperCamelCase {name : String} {first : Char}
    (isFirst : (upperCamelCase name).toList.head? = some first) : ¬IsSmallAscii first := by
  rw [upperCamelCase, String.toList_ofList, List.head?_flatMap] at isFirst
  rcases List.exists_of_findSome?_eq_some isFirst with ⟨word, _, isFirst⟩
  cases word with
  | nil => cases isFirst
  | cons character rest =>
      rcases exists_head_toUppercase character with ⟨capital, others, isCapital, notSmall⟩
      rw [capitalizeWord, isCapital] at isFirst
      cases isFirst
      exact notSmall

end SchemaContent.Text
