import Mathlib.Data.List.TakeWhile
import Mathlib.Data.Nat.Digits.Lemmas
import SchemaContent.Proofs.ContentGrammar

/-! # Values of bounds

Which texts are bounds, and of which value: an attribute value without the blanks around it
is the word for no upper bound, or it spells a number that fits a 64-bit word. All other
values are refused. -/

namespace SchemaContent

/-! ## Blanks around a value -/

namespace Text

/-- It is what is left of the text without the blanks at its ends. -/
def IsTrimmed (text trimmed : List Char) : Prop :=
  ∃ before after : List Char, (∀ blank ∈ before, isBlank blank) ∧
    (∀ blank ∈ after, isBlank blank) ∧ text = before ++ trimmed ++ after ∧ Unpadded trimmed

theorem any_head?_dropWhile (text : List Char) :
    (text.dropWhile isBlank).head?.any isBlank = false := by
  have notBlank := List.head?_dropWhile_not isBlank text
  cases first : (text.dropWhile isBlank).head? with
  | none => rfl
  | some character => simpa [first] using notBlank

theorem isTrimmed_trim (text : List Char) : IsTrimmed text (trim text) := by
  let rest := text.dropWhile isBlank
  have restSplit : rest = trim text ++ (rest.reverse.takeWhile isBlank).reverse := by
    rw [trim, ← List.reverse_append, List.takeWhile_append_dropWhile, List.reverse_reverse]
  refine ⟨text.takeWhile isBlank, (rest.reverse.takeWhile isBlank).reverse, ?_, ?_, ?_, ?_, ?_⟩
  · exact fun blank isBefore => List.mem_takeWhile_imp isBefore
  · exact fun blank isAfter => List.mem_takeWhile_imp (List.mem_reverse.mp isAfter)
  · rw [List.append_assoc, ← restSplit, List.takeWhile_append_dropWhile]
  · -- The text without blanks at its beginning begins like the one without blanks at both ends.
    have ofRest := any_head?_dropWhile text
    cases trimmed : trim text with
    | nil => rfl
    | cons first others =>
        rw [show text.dropWhile isBlank = rest from rfl, restSplit, trimmed] at ofRest
        exact ofRest
  · rw [trim, List.getLast?_reverse]
    exact any_head?_dropWhile rest.reverse

end Text

/-! ## Numbers -/

/-- The text spells the number: there are digits of decimal notation, at least one, perhaps
with a plus sign before them, and the last of them counts ones, the one before it tens. -/
def SpellsNumber (text : List Char) (number : Nat) : Prop :=
  ∃ digits : List Char, (text = digits ∨ text = '+' :: digits) ∧ digits ≠ [] ∧
    (∀ digit ∈ digits, digit.isDigit) ∧
      number = Nat.ofDigits 10 (digits.reverse.map fun digit => digit.toNat - '0'.toNat)

theorem decimalValue_eq_ofDigits (digits : List Char) : ∀ value : Nat,
    decimalValue value digits = value * 10 ^ digits.length +
      Nat.ofDigits 10 (digits.reverse.map fun digit => digit.toNat - '0'.toNat) := by
  induction digits with
  | nil =>
      intro value
      change value = _
      simp
  | cons digit rest induction =>
      intro value
      change decimalValue (value * 10 + (digit.toNat - '0'.toNat)) rest = _
      rw [induction, List.reverse_cons, List.map_append, List.map_singleton,
        Nat.ofDigits_append, Nat.ofDigits_singleton, List.length_map, List.length_reverse,
        List.length_cons, pow_succ]
      ring

/-- A text is read as a count just if it spells the number. So no number is read that does
not fit. -/
theorem readCount_eq_some_iff (text : List Char) (number : UInt64) :
    readCount text = some number ↔ SpellsNumber text number.toNat := by
  have value := decimalValue_eq_ofDigits (unsignedDigits text) 0
  rw [Nat.zero_mul, Nat.zero_add] at value
  constructor
  · intro isRead
    rw [readCount] at isRead
    split at isRead
    case isTrue checked =>
      have isNumeral := (isNumeral_iff _).mp checked
      have fits := Nat.mod_eq_of_lt isNumeral.fits
      refine ⟨unsignedDigits text, ?_, isNumeral.notEmpty, isNumeral.areDigits, ?_⟩
      · cases text using unsignedDigits.fun_cases with
        | case1 rest => exact .inr rfl
        | case2 text noSign =>
            rw [unsignedDigits]
            · exact .inl rfl
            · exact noSign
      · rw [← Option.some.inj isRead, ← value, UInt64.toNat_ofNat']
        exact fits
    case isFalse => cases isRead
  · intro spells
    rcases spells with ⟨digits, isText, notEmpty, areDigits, isNumber⟩
    have unsigned : unsignedDigits text = digits := by
      rcases isText with same | same
      · rw [same]
        exact unsignedDigits_of_isDigit areDigits
      · rw [same]
        rfl
    rw [unsigned, ← isNumber] at value
    have fits : decimalValue 0 digits < UInt64.size := by
      rw [value]
      exact number.toNat_lt_size
    have checked := (isNumeral_iff digits).mpr ⟨notEmpty, areDigits, fits⟩
    rw [readCount, unsigned, if_pos checked, value, UInt64.ofNat_toNat]

theorem readCount_eq_none_iff (text : List Char) :
    readCount text = none ↔ ∀ number < 2 ^ 64, ¬SpellsNumber text number := by
  rw [Option.eq_none_iff_forall_ne_some]
  constructor
  · intro notRead number fits spells
    apply notRead (UInt64.ofNat number)
    rw [readCount_eq_some_iff, UInt64.toNat_ofNat_of_lt' fits]
    exact spells
  · intro spellsNone number isRead
    exact spellsNone _ number.toNat_lt ((readCount_eq_some_iff text number).mp isRead)

theorem readMaxOccurs_eq_unbounded_iff (text : List Char) :
    readMaxOccurs text = some .unbounded ↔ text = "unbounded".toList := by
  rw [readMaxOccurs]
  split <;> simp_all

theorem not_spellsNumber_word (number : Nat) : ¬SpellsNumber "unbounded".toList number := by
  intro spells
  rcases spells with ⟨digits, isText | isText, _, areDigits, _⟩
  · have isDigit := areDigits 'u' (isText ▸ by decide)
    exact absurd isDigit (by decide)
  · exact absurd (List.cons.inj isText).1 (by decide)

theorem readMaxOccurs_eq_count_iff (text : List Char) (number : UInt64) :
    readMaxOccurs text = some (.count number) ↔ SpellsNumber text number.toNat := by
  rw [← readCount_eq_some_iff, readMaxOccurs]
  split
  case isTrue isWord =>
    refine iff_of_false (by simp) ?_
    rw [isWord, readCount_eq_some_iff]
    exact not_spellsNumber_word _
  case isFalse => simp

theorem readMaxOccurs_eq_none_iff (text : List Char) :
    readMaxOccurs text = none ↔
      text ≠ "unbounded".toList ∧ ∀ number < 2 ^ 64, ¬SpellsNumber text number := by
  rw [← readCount_eq_none_iff, readMaxOccurs]
  split <;> simp_all

/-! ## Attributes -/

namespace Attributes

variable {attributes : List Xml.Attribute} {name value : String}

/-- An attribute that is given is read from its value without the blanks around it, and
refused with what was to be read. -/
theorem read?_of_value {α : Type} (read : List Char → Option α)
    (given : Xml.value? attributes name = some value) :
    read? read attributes name =
      match read (Text.trim value.toList) with
      | some result => .ok (some result)
      | none => .error (.invalidAttribute name (String.ofList (Text.trim value.toList))) := by
  have written : text? attributes name = some (String.ofList (Text.trim value.toList)) := by
    rw [text?, given, Option.map_some]
  cases found : read (Text.trim value.toList) <;> simp [read?, written, found]

theorem read?_eq_ok_iff {α : Type} (read : List Char → Option α)
    (given : Xml.value? attributes name = some value) (result : α) :
    read? read attributes name = .ok (some result) ↔
      read (Text.trim value.toList) = some result := by
  rw [read?_of_value read given]
  cases read (Text.trim value.toList) <;> simp

theorem read?_eq_error_iff {α : Type} (read : List Char → Option α)
    (given : Xml.value? attributes name = some value) :
    read? read attributes name =
        .error (.invalidAttribute name (String.ofList (Text.trim value.toList))) ↔
      read (Text.trim value.toList) = none := by
  rw [read?_of_value read given]
  cases read (Text.trim value.toList) <;> simp

/-- What is read from an attribute that is given, once the blanks around its value are
gone. As an upper bound: no bound if the word for it is left, a count if the number is
spelled that is left, and if it is neither, or the number does not fit a 64-bit word, a fault
that names the attribute and holds what is left. As a lower bound: the same but for the word.
And each upper bound is read from its own text. -/
theorem bounds_of_value (given : Xml.value? attributes name = some value) :
    ∃ trimmed, Text.IsTrimmed value.toList trimmed ∧
      (read? readMaxOccurs attributes name = .ok (some .unbounded) ↔
        trimmed = "unbounded".toList) ∧
      (∀ number : UInt64, read? readMaxOccurs attributes name = .ok (some (.count number)) ↔
        SpellsNumber trimmed number.toNat) ∧
      (read? readMaxOccurs attributes name =
          .error (.invalidAttribute name (String.ofList trimmed)) ↔
        trimmed ≠ "unbounded".toList ∧ ∀ number < 2 ^ 64, ¬SpellsNumber trimmed number) ∧
      (∀ number : UInt64, read? readCount attributes name = .ok (some number) ↔
        SpellsNumber trimmed number.toNat) ∧
      (read? readCount attributes name =
          .error (.invalidAttribute name (String.ofList trimmed)) ↔
        ∀ number < 2 ^ 64, ¬SpellsNumber trimmed number) ∧
      ∀ bound : MaxOccurs, value = bound.text →
        read? readMaxOccurs attributes name = .ok (some bound) := by
  refine ⟨Text.trim value.toList, Text.isTrimmed_trim _, ?_, ?_, ?_, ?_, ?_, ?_⟩
  · rw [read?_eq_ok_iff _ given, readMaxOccurs_eq_unbounded_iff]
  · intro number
    rw [read?_eq_ok_iff _ given, readMaxOccurs_eq_count_iff]
  · rw [read?_eq_error_iff _ given, readMaxOccurs_eq_none_iff]
  · intro number
    rw [read?_eq_ok_iff _ given, readCount_eq_some_iff]
  · rw [read?_eq_error_iff _ given, readCount_eq_none_iff]
  · intro bound isText
    rw [read?_eq_ok_iff _ given, isText, Text.trim_eq_self bound.unpadded_text,
      readMaxOccurs_text]

end Attributes

/-! ### Limits

The largest count, with a sign, zeros and blanks around it, and one more than that. -/

namespace Limits

def largest : String := "\u00a0+0018446744073709551615\n"

def attributes : List Xml.Attribute :=
  [⟨⟨none, "minOccurs"⟩, "18446744073709551616"⟩, ⟨⟨none, "maxOccurs"⟩, largest⟩]

theorem bounds_of_limits :
    Xml.value? attributes "maxOccurs" = some largest ∧
      Attributes.read? readMaxOccurs attributes "maxOccurs" =
        .ok (some (.count 18446744073709551615)) ∧
      Attributes.read? readCount attributes "minOccurs" =
        .error (.invalidAttribute "minOccurs" "18446744073709551616") ∧
      ∃ trimmed, Text.IsTrimmed largest.toList trimmed ∧
        SpellsNumber trimmed 18446744073709551615 := by
  have given : Xml.value? attributes "maxOccurs" = some largest := rfl
  have isRead : Attributes.read? readMaxOccurs attributes "maxOccurs" =
      .ok (some (.count 18446744073709551615)) := by decide +kernel
  rcases Attributes.bounds_of_value given with ⟨trimmed, isTrimmed, _, isCount, _⟩
  exact ⟨given, isRead, by decide +kernel, trimmed, isTrimmed, (isCount _).mp isRead⟩

end Limits

end SchemaContent
