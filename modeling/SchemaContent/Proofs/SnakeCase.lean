import Mathlib.Data.List.Basic
import SchemaContent.Proofs.WordLetters

/-! # Names in snake_case

Words are not empty, and no letter is lost when its case is changed. So the underscores
of a name in `snake_case` stand between words, and none at its ends. -/

namespace SchemaContent.Text

/-! ## Words -/

/-- A word ends before its last capital only if there are characters before that. -/
theorem ne_nil_of_mem_splitAtCase {current text : List Char} {wordCase : WordCase}
    (begun : wordCase = .capital → current ≠ []) :
    ∀ word ∈ splitAtCase current wordCase text, word ≠ [] := by
  induction current, wordCase, text using splitAtCase.induct with
  | case1 current wordCase =>
      intro word isWord
      cases isWord
  | case2 current wordCase last =>
      intro word isWord
      rw [splitAtCase, List.mem_singleton] at isWord
      simp [isWord]
  | case3 current wordCase first next rest border induction =>
      intro word isWord
      rw [splitAtCase, if_pos border] at isWord
      rcases List.mem_cons.mp isWord with rfl | isLater
      · simp
      · exact induction (by rintro ⟨⟩) word isLater
  | case4 current wordCase first next rest noBorder border induction =>
      intro word isWord
      rw [splitAtCase, if_neg noBorder, if_pos border] at isWord
      rcases List.mem_cons.mp isWord with rfl | isLater
      · simpa using begun border.1
      · exact induction (by rintro ⟨⟩) word isLater
  | case5 current wordCase first next rest noBorder noOther induction =>
      intro word isWord
      rw [splitAtCase, if_neg noBorder, if_neg noOther] at isWord
      exact induction (fun _ => List.cons_ne_nil _ _) word isWord

theorem ne_nil_of_mem_words {name : String} {word : List Char} (isWord : word ∈ words name) :
    word ≠ [] := by
  rcases List.mem_flatMap.mp isWord with ⟨piece, _, isWord⟩
  apply ne_nil_of_mem_splitAtCase _ word isWord
  nofun

theorem toLowercase_ne_nil (character : Char) : toLowercase character ≠ [] := by
  rw [toLowercase]
  split
  · exact List.cons_ne_nil _ _
  · rw [mapCase]
    split
    · rename_i codes found
      rcases List.lookup_eq_some_iff.mp found with ⟨before, after, isEntry, _⟩
      have someCodes : ∀ entry ∈ lowercaseExpansions, entry.2 ≠ [] := by decide +kernel
      have hasCodes := someCodes (character.toNat, codes) (by simp [isEntry])
      simpa using hasCodes
    · split <;> exact List.cons_ne_nil _ _

theorem lowercaseWord_ne_nil {word : List Char} (notEmpty : word ≠ []) :
    lowercaseWord word ≠ [] := by
  cases word using lowercaseWord.fun_cases with
  | case1 => exact absurd rfl notEmpty
  | case2 => decide
  | case3 first rest notFinal =>
      rw [lowercaseWord]
      · exact List.append_ne_nil_of_left_ne_nil (toLowercase_ne_nil first) _
      · exact notFinal

/-! ## Ends -/

/-- A character stands at an end of the text. -/
def AtEnd (character : Char) (text : List Char) : Prop :=
  text.head? = some character ∨ text.getLast? = some character

theorem AtEnd.mem {character : Char} {text : List Char} (atEnd : AtEnd character text) :
    character ∈ text :=
  atEnd.elim List.mem_of_mem_head? List.mem_of_mem_getLast?

theorem AtEnd.of_append {character : Char} {before middle after : List Char}
    (notBefore : before ≠ []) (notAfter : after ≠ [])
    (atEnd : AtEnd character (before ++ middle ++ after)) :
    AtEnd character before ∨ AtEnd character after := by
  rcases atEnd with isFirst | isLast
  · rw [List.append_assoc, List.head?_append_of_ne_nil _ notBefore] at isFirst
    exact .inl (.inl isFirst)
  · rw [List.getLast?_append_of_ne_nil _ notAfter] at isLast
    exact .inr (.inr isLast)

/-- What stands at an end of words with separators between them stands in a word. -/
theorem exists_of_atEnd_intercalate (separator : List Char) {items : List (List Char)}
    (notNil : items ≠ []) (notEmpty : ∀ item ∈ items, item ≠ []) :
    separator.intercalate items ≠ [] ∧
      ∀ character, AtEnd character (separator.intercalate items) →
        ∃ item ∈ items, character ∈ item := by
  induction items with
  | nil => exact absurd rfl notNil
  | cons first rest induction =>
      have firstNotEmpty := notEmpty first List.mem_cons_self
      cases rest with
      | nil =>
          rw [List.intercalate_singleton]
          exact ⟨firstNotEmpty, fun character atEnd => ⟨first, List.mem_cons_self, atEnd.mem⟩⟩
      | cons second others =>
          have ⟨restNotEmpty, ofRest⟩ := induction (List.cons_ne_nil _ _)
            fun item isLater => notEmpty item (List.mem_cons_of_mem _ isLater)
          rw [List.intercalate_cons_cons]
          refine ⟨List.append_ne_nil_of_right_ne_nil _ restNotEmpty, ?_⟩
          intro character atEnd
          rcases atEnd.of_append firstNotEmpty restNotEmpty with inFirst | inRest
          · exact ⟨first, List.mem_cons_self, inFirst.mem⟩
          · rcases ofRest character inRest with ⟨item, isItem, isCharacter⟩
            exact ⟨item, List.mem_cons_of_mem _ isItem, isCharacter⟩

/-- A name in `snake_case` neither begins nor ends with an underscore. -/
theorem not_atEnd_snakeCase (name : String) : ¬AtEnd '_' (snakeCase name).toList := by
  rw [snakeCase, String.toList_ofList]
  intro atEnd
  cases named : words name with
  | nil =>
      rw [named] at atEnd
      exact List.not_mem_nil atEnd.mem
  | cons first rest =>
      have notEmpty : ∀ item ∈ (words name).map lowercaseWord, item ≠ [] := by
        intro item isItem
        rcases List.mem_map.mp isItem with ⟨word, isWord, rfl⟩
        exact lowercaseWord_ne_nil (ne_nil_of_mem_words isWord)
      have notNil : (words name).map lowercaseWord ≠ [] := by simp [named]
      have ⟨_, inWord⟩ := exists_of_atEnd_intercalate ['_'] notNil notEmpty
      rcases inWord '_' atEnd with ⟨item, isItem, isCharacter⟩
      rcases List.mem_map.mp isItem with ⟨word, isWord, rfl⟩
      exact underscore_not_mem_lowercaseWord (underscore_not_mem_of_mem_words isWord) isCharacter

end SchemaContent.Text
