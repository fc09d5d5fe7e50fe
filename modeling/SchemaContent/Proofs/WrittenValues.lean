import SchemaContent.Schema.Reading

/-! # Values as they are written

Names, references, bounds and forms, written as the values of attributes, are read back
as they were. A name must not have blanks around it, and the local part of a reference
must not have a colon in it, since what stands before the last colon is the qualifier. -/

namespace SchemaContent

/-! ## Blanks -/

namespace Text

/-- There are no blanks at its ends. -/
def Unpadded (text : List Char) : Prop :=
  text.head?.any isBlank = false ∧ text.getLast?.any isBlank = false

instance (text : List Char) : Decidable (Unpadded text) :=
  inferInstanceAs (Decidable (_ ∧ _))

theorem dropWhile_eq_self {holds : Char → Bool} {text : List Char}
    (notFirst : text.head?.any holds = false) : text.dropWhile holds = text := by
  cases text with
  | nil => rfl
  | cons first rest =>
      have notFirst : holds first = false := notFirst
      rw [List.dropWhile_cons, notFirst, if_neg Bool.false_ne_true]

theorem trim_eq_self {text : List Char} (unpadded : Unpadded text) : trim text = text := by
  rw [trim, dropWhile_eq_self unpadded.1, dropWhile_eq_self, List.reverse_reverse]
  rw [List.head?_reverse]
  exact unpadded.2

theorem unpadded_of_any {text : List Char} (noBlanks : text.any isBlank = false) :
    Unpadded text := by
  rw [List.any_eq_false] at noBlanks
  constructor
  · rw [Option.any_eq_false]
    intro first isFirst
    exact Bool.eq_false_iff.mpr (noBlanks first (List.mem_of_mem_head? isFirst))
  · rw [Option.any_eq_false]
    intro last isLast
    exact Bool.eq_false_iff.mpr (noBlanks last (List.mem_of_mem_getLast? isLast))

theorem Unpadded.append {before after : List Char} (ofBefore : Unpadded before)
    (ofAfter : Unpadded after) (notBefore : before ≠ []) (notAfter : after ≠ [])
    (middle : List Char) : Unpadded (before ++ middle ++ after) := by
  constructor
  · cases before with
    | nil => exact absurd rfl notBefore
    | cons => exact ofBefore.1
  · cases isLast : after.getLast? with
    | none => exact absurd (List.getLast?_eq_none_iff.mp isLast) notAfter
    | some last =>
        rw [List.getLast?_append, isLast, Option.some_or, ← isLast]
        exact ofAfter.2

/-- What stands on either side of a character that is no blank may be empty. -/
theorem Unpadded.append_cons {before after : List Char} (ofBefore : Unpadded before)
    (ofAfter : Unpadded after) {middle : Char} (notBlank : isBlank middle = false) :
    Unpadded (before ++ middle :: after) := by
  constructor
  · cases before with
    | nil => exact notBlank
    | cons => exact ofBefore.1
  · rw [List.getLast?_append, List.getLast?_cons, Option.some_or]
    cases isLast : after.getLast? with
    | none => exact notBlank
    | some last =>
        have ofLast := ofAfter.2
        rw [isLast] at ofLast
        exact ofLast

/-! ## Lists -/

section Lists

variable {separates : Char → Bool} {separator : Char}

theorem cut_of_any {piece : List Char} (whole : piece.any separates = false) :
    cut separates piece = [piece] := by
  induction piece with
  | nil => rfl
  | cons first rest induction =>
      rw [List.any_cons, Bool.or_eq_false_iff] at whole
      rw [cut, whole.1, if_neg Bool.false_ne_true, induction whole.2]

theorem cut_append_cons (isSeparator : separates separator) (first rest : List Char) :
    cut separates (first ++ separator :: rest) = cut separates first ++ cut separates rest := by
  induction first with
  | nil => simp [cut, isSeparator]
  | cons character others induction =>
      rw [List.cons_append, cut, cut, induction]
      split
      · rfl
      · cases isCut : cut separates others with
        | nil => exact absurd isCut (cut_ne_nil separates others)
        | cons piece pieces => rfl

theorem cut_append_separator {piece : List Char} (whole : piece.any separates = false)
    (isSeparator : separates separator) (rest : List Char) :
    cut separates (piece ++ separator :: rest) = piece :: cut separates rest := by
  rw [cut_append_cons isSeparator, cut_of_any whole, List.singleton_append]

theorem cut_intercalate (isSeparator : separates separator) {items : List (List Char)}
    (notNil : items ≠ []) (whole : ∀ item ∈ items, item.any separates = false) :
    cut separates ([separator].intercalate items) = items := by
  induction items with
  | nil => exact absurd rfl notNil
  | cons first rest induction =>
      have ofFirst := whole first List.mem_cons_self
      cases rest with
      | nil =>
          rw [List.intercalate_singleton]
          exact cut_of_any ofFirst
      | cons second others =>
          have ofRest := induction (List.cons_ne_nil _ _)
            fun item isLater => whole item (List.mem_cons_of_mem _ isLater)
          rw [List.intercalate_cons_cons, List.append_assoc, List.singleton_append,
            cut_append_separator ofFirst isSeparator, ofRest]

theorem pieces_of_any {piece : List Char} (notNil : piece ≠ [])
    (whole : piece.any separates = false) : pieces separates piece = [piece] := by
  rw [pieces, cut_of_any whole]
  simpa using notNil

/-- Pieces are cut at a separator, whatever stands before and behind it. -/
theorem pieces_append_cons (isSeparator : separates separator) (first rest : List Char) :
    pieces separates (first ++ separator :: rest) =
      pieces separates first ++ pieces separates rest := by
  rw [pieces, cut_append_cons isSeparator, List.filter_append]
  rfl

theorem pieces_cons (isSeparator : separates separator) (rest : List Char) :
    pieces separates (separator :: rest) = pieces separates rest :=
  pieces_append_cons isSeparator [] rest

theorem pieces_concat_append (isSeparator : separates separator) (first rest : List Char) :
    pieces separates (first ++ [separator] ++ rest) =
      pieces separates (first ++ [separator]) ++ pieces separates rest := by
  have nothing : pieces separates [] = [] := rfl
  rw [List.append_assoc, List.singleton_append, pieces_append_cons isSeparator,
    pieces_append_cons isSeparator, nothing, List.append_nil]

/-- Items that are not empty are the pieces of the text in which they are separated. -/
theorem pieces_intercalate (isSeparator : separates separator) {items : List (List Char)}
    (whole : ∀ item ∈ items, item ≠ [] ∧ item.any separates = false) :
    pieces separates ([separator].intercalate items) = items := by
  cases items with
  | nil => rfl
  | cons first rest =>
      rw [pieces, cut_intercalate isSeparator (List.cons_ne_nil _ _)
        fun item isItem => (whole item isItem).2]
      apply List.filter_eq_self.mpr
      intro item isItem
      simpa using (whole item isItem).1

end Lists

theorem unpadded_intercalate (separator : List Char) {items : List (List Char)}
    (notNil : items ≠ []) (each : ∀ item ∈ items, Unpadded item ∧ item ≠ []) :
    Unpadded (separator.intercalate items) ∧ separator.intercalate items ≠ [] := by
  induction items with
  | nil => exact absurd rfl notNil
  | cons first rest induction =>
      have ⟨ofFirst, notEmpty⟩ := each first List.mem_cons_self
      cases rest with
      | nil =>
          rw [List.intercalate_singleton]
          exact ⟨ofFirst, notEmpty⟩
      | cons second others =>
          have ⟨ofRest, restNotEmpty⟩ := induction (List.cons_ne_nil _ _)
            fun item isLater => each item (List.mem_cons_of_mem _ isLater)
          rw [List.intercalate_cons_cons]
          exact ⟨ofFirst.append ofRest notEmpty restNotEmpty separator,
            List.append_ne_nil_of_right_ne_nil _ restNotEmpty⟩

end Text

/-! ## References -/

namespace Reference

theorem splitAtLastColon_eq_none {text : List Char} (without : ':' ∉ text) :
    splitAtLastColon text = none := by
  induction text with
  | nil => rfl
  | cons first rest induction =>
      rw [List.mem_cons, not_or] at without
      rw [splitAtLastColon, induction without.2, if_neg fun same => without.1 same.symm]

theorem splitAtLastColon_append (before : List Char) {after : List Char}
    (without : ':' ∉ after) : splitAtLastColon (before ++ ':' :: after) = some (before, after) := by
  induction before with
  | nil => rw [List.nil_append, splitAtLastColon, splitAtLastColon_eq_none without, if_pos rfl]
  | cons first rest induction => rw [List.cons_append, splitAtLastColon, induction]

/-- It is read back from its text. -/
structure Legible (reference : Reference) : Prop where
  qualifier : ∀ qualifier ∈ reference.qualifier, Text.Unpadded qualifier.toList
  localName : Text.Unpadded reference.localName.toList
  noColon : ':' ∉ reference.localName.toList

/-- It is read back from a list. -/
structure Listable (reference : Reference) : Prop extends reference.Legible where
  notEmpty : reference.text ≠ ""
  whole : reference.text.toList.any Text.isListSeparator = false

instance (reference : Reference) : Decidable reference.Legible :=
  decidable_of_iff
    ((∀ qualifier ∈ reference.qualifier, Text.Unpadded qualifier.toList) ∧
      Text.Unpadded reference.localName.toList ∧ ':' ∉ reference.localName.toList)
    ⟨fun ⟨qualifier, localName, noColon⟩ => ⟨qualifier, localName, noColon⟩,
      fun ⟨qualifier, localName, noColon⟩ => ⟨qualifier, localName, noColon⟩⟩

instance (reference : Reference) : Decidable reference.Listable :=
  decidable_of_iff
    (reference.Legible ∧ reference.text ≠ "" ∧
      reference.text.toList.any Text.isListSeparator = false)
    ⟨fun ⟨legible, notEmpty, whole⟩ => ⟨legible, notEmpty, whole⟩,
      fun ⟨legible, notEmpty, whole⟩ => ⟨legible, notEmpty, whole⟩⟩

theorem parse_text {reference : Reference} (without : ':' ∉ reference.localName.toList) :
    parse reference.text = reference := by
  rcases reference with ⟨qualifier, localName⟩
  cases qualifier with
  | none => rw [text, parse, splitAtLastColon_eq_none without]
  | some qualifier =>
      have written : (qualifier ++ ":" ++ localName).toList =
          qualifier.toList ++ ':' :: localName.toList := by
        rw [String.toList_append, String.toList_append, List.append_assoc]
        rfl
      rw [text, parse, written, splitAtLastColon_append _ without]
      simp only [String.ofList_toList]

theorem Legible.unpadded {reference : Reference} (legible : reference.Legible) :
    Text.Unpadded reference.text.toList := by
  rcases reference with ⟨qualifier, localName⟩
  cases qualifier with
  | none => exact legible.localName
  | some qualifier =>
      rw [text, String.toList_append, String.toList_append, List.append_assoc]
      exact (legible.qualifier qualifier rfl).append_cons legible.localName (by decide)

/-- The text of a list of references, if there are any. -/
def listText : List Reference → Option String
  | [] => none
  | references => some (" ".intercalate (references.map text))

section Lists

variable {references : List Reference} (listable : ∀ reference ∈ references, reference.Listable)

theorem toList_intercalate_text (references : List Reference) :
    (" ".intercalate (references.map text)).toList =
      [' '].intercalate (references.map fun reference => reference.text.toList) := by
  rw [String.toList_intercalate, List.map_map]
  rfl

theorem Listable.toList_ne_nil {reference : Reference} (listable : reference.Listable) :
    reference.text.toList ≠ [] :=
  fun isEmpty => listable.notEmpty (String.toList_eq_nil_iff.mp isEmpty)

include listable

theorem unpadded_of_listText : ∀ written ∈ listText references, Text.Unpadded written.toList := by
  intro written isWritten
  cases references with
  | nil => cases isWritten
  | cons first rest =>
      cases isWritten
      rw [toList_intercalate_text]
      have each : ∀ item ∈ (first :: rest).map fun reference => reference.text.toList,
          Text.Unpadded item ∧ item ≠ [] := by
        intro item isItem
        rcases List.mem_map.mp isItem with ⟨reference, isReference, rfl⟩
        have ofReference := listable reference isReference
        exact ⟨ofReference.unpadded, ofReference.toList_ne_nil⟩
      exact (Text.unpadded_intercalate [' '] (List.cons_ne_nil _ _) each).1

/-- A list of references is read back piece by piece. -/
theorem map_parse_pieces :
    (Text.pieces Text.isListSeparator (" ".intercalate (references.map text)).toList).map
      (fun piece => parse (String.ofList piece)) = references := by
  have whole : ∀ item ∈ references.map fun reference => reference.text.toList,
      item ≠ [] ∧ item.any Text.isListSeparator = false := by
    intro item isItem
    rcases List.mem_map.mp isItem with ⟨reference, isReference, rfl⟩
    have ofReference := listable reference isReference
    exact ⟨ofReference.toList_ne_nil, ofReference.whole⟩
  rw [toList_intercalate_text, Text.pieces_intercalate (by decide) whole, List.map_map]
  refine (List.map_congr_left ?_).trans (List.map_id references)
  intro reference isReference
  rw [Function.comp_apply, String.ofList_toList]
  exact parse_text (listable reference isReference).noColon

end Lists

end Reference

/-! ## Bounds and forms -/

theorem decimalValue_eq_ofDigitChars (digits : List Char) : ∀ value : Nat,
    decimalValue value digits = Nat.ofDigitChars 10 digits value := by
  induction digits with
  | nil =>
      intro value
      rw [Nat.ofDigitChars_nil]
      rfl
  | cons digit rest induction =>
      intro value
      rw [Nat.ofDigitChars_cons, Nat.mul_comm]
      exact induction _

theorem unsignedDigits_of_isDigit {digits : List Char}
    (areDigits : ∀ digit ∈ digits, digit.isDigit) : unsignedDigits digits = digits := by
  unfold unsignedDigits
  split
  · exact absurd (areDigits '+' List.mem_cons_self) (by decide)
  · rfl

theorem isDigit_of_mem_toString {number : Nat} {digit : Char}
    (isWritten : digit ∈ (toString number).toList) : digit.isDigit := by
  rw [Nat.toString_eq_ofList_toDigits, String.toList_ofList] at isWritten
  exact Nat.isDigit_of_mem_toDigits (by decide) (by decide) isWritten

theorem isBlank_of_isDigit {digit : Char} (isDigit : digit.isDigit) :
    Text.isBlank digit = false := by
  have isCode : 48 ≤ digit.toNat ∧ digit.toNat ≤ 57 := by
    simpa [Char.isDigit, UInt32.le_iff_toNat_le] using isDigit
  have notBlank : ∀ code < 58, 48 ≤ code → Text.isBlank (Char.ofNat code) = false := by decide
  have ofCode := notBlank digit.toNat (by omega) isCode.1
  rw [Char.ofNat_toNat] at ofCode
  exact ofCode

theorem readCount_toString (number : UInt64) :
    readCount (toString number.toNat).toList = some number := by
  have areDigits : ∀ digit ∈ (toString number.toNat).toList, digit.isDigit :=
    fun _ => isDigit_of_mem_toString
  have value : decimalValue 0 (toString number.toNat).toList = number.toNat := by
    rw [decimalValue_eq_ofDigitChars, Nat.toString_eq_ofList_toDigits, String.toList_ofList,
      Nat.ofDigitChars_ten_toDigits]
  have fits : number.toNat < UInt64.size := number.toNat_lt_size
  rw [readCount, unsignedDigits_of_isDigit areDigits]
  simp only [value, fits, List.all_eq_true.mpr areDigits]
  rw [if_pos (by simp), UInt64.ofNat_toNat]

theorem readMaxOccurs_text (bound : MaxOccurs) :
    readMaxOccurs bound.text.toList = some bound := by
  cases bound with
  | unbounded => rfl
  | count number =>
      have notWord : (MaxOccurs.count number).text.toList ≠ "unbounded".toList := by
        intro same
        have isFirst : 'u' ∈ (toString number.toNat).toList := by
          rw [show (toString number.toNat).toList = _ from same]
          decide
        exact absurd (isDigit_of_mem_toString isFirst) (by decide)
      rw [readMaxOccurs, if_neg notWord, MaxOccurs.text, readCount_toString, Option.map_some]

def Form.text : Form → String
  | .qualified => "qualified"
  | .unqualified => "unqualified"

theorem readForm_text (form : Form) : Attributes.readForm form.text.toList = some form := by
  cases form <;> rfl

theorem unpadded_toString (number : UInt64) :
    Text.Unpadded (toString number.toNat).toList := by
  apply Text.unpadded_of_any
  rw [List.any_eq_false]
  intro digit isWritten
  rw [isBlank_of_isDigit (isDigit_of_mem_toString isWritten)]
  exact Bool.false_ne_true

theorem MaxOccurs.unpadded_text (bound : MaxOccurs) : Text.Unpadded bound.text.toList := by
  cases bound with
  | unbounded => decide
  | count number => exact unpadded_toString number

theorem Form.unpadded_text (form : Form) : Text.Unpadded form.text.toList := by
  cases form <;> decide

/-! ## Attributes -/

namespace Attributes

/-- The attributes that are given among these. -/
def written (fields : List (String × Option String)) : List Xml.Attribute :=
  fields.filterMap fun (name, value) => value.map fun text => ⟨⟨none, name⟩, text⟩

theorem value?_written_cons (first : String × Option String)
    (rest : List (String × Option String)) (name : String) :
    Xml.value? (written (first :: rest)) name =
      if first.1 = name then first.2.or (Xml.value? (written rest) name)
      else Xml.value? (written rest) name := by
  rcases first with ⟨other, value⟩
  cases value with
  | none =>
      split
      · rfl
      · rfl
  | some text =>
      by_cases same : other = name
      · simp [written, Xml.value?, same]
      · simp [written, Xml.value?, same]

theorem value?_written_of_not_mem {fields : List (String × Option String)} {name : String}
    (notField : name ∉ fields.map Prod.fst) : Xml.value? (written fields) name = none := by
  induction fields with
  | nil => rfl
  | cons first rest induction =>
      rw [List.map_cons, List.mem_cons, not_or] at notField
      rw [value?_written_cons, if_neg fun same => notField.1 same.symm, induction notField.2]

theorem value?_written {fields : List (String × Option String)}
    (distinctNames : (fields.map Prod.fst).Nodup) {name : String} {value : Option String}
    (isField : (name, value) ∈ fields) : Xml.value? (written fields) name = value := by
  induction fields with
  | nil => cases isField
  | cons first rest induction =>
      have ⟨notLater, restDistinct⟩ := List.nodup_cons.mp distinctNames
      rw [value?_written_cons]
      rcases List.mem_cons.mp isField with rfl | isLater
      · rw [if_pos rfl, value?_written_of_not_mem notLater, Option.or_none]
      · have different : first.1 ≠ name :=
          fun same => notLater (same ▸ List.mem_map_of_mem isLater)
        rw [if_neg different, induction restDistinct isLater]

section

variable {attributes : List Xml.Attribute} {name : String}

theorem text?_eq {value : Option String} (isValue : Xml.value? attributes name = value)
    (unpadded : ∀ text ∈ value, Text.Unpadded text.toList) : text? attributes name = value := by
  rw [text?, isValue]
  cases value with
  | none => rfl
  | some text => rw [Option.map_some, Text.trim_eq_self (unpadded text rfl), String.ofList_toList]

theorem text?_written {fields : List (String × Option String)}
    (distinctNames : (fields.map Prod.fst).Nodup) {value : Option String}
    (isField : (name, value) ∈ fields) (unpadded : ∀ text ∈ value, Text.Unpadded text.toList) :
    text? (written fields) name = value :=
  text?_eq (value?_written distinctNames isField) unpadded

theorem reference?_eq {reference : Option Reference}
    (isValue : Xml.value? attributes name = reference.map Reference.text)
    (legible : ∀ written ∈ reference, written.Legible) :
    reference? attributes name = reference := by
  cases reference with
  | none => rw [reference?, text?_eq isValue nofun]; rfl
  | some written =>
      have ofWritten := legible written rfl
      rw [reference?, text?_eq isValue]
      · exact congrArg some (Reference.parse_text ofWritten.noColon)
      · rintro _ ⟨⟩
        exact ofWritten.unpadded

theorem references_eq {heads : List Reference}
    (isValue : Xml.value? attributes name = Reference.listText heads)
    (listable : ∀ head ∈ heads, head.Listable) : references attributes name = heads := by
  rw [references, text?_eq isValue (Reference.unpadded_of_listText listable)]
  cases heads with
  | nil => rfl
  | cons => exact Reference.map_parse_pieces listable

theorem read?_eq {α : Type} {read : List Char → Option α} {write : α → String}
    (unpadded : ∀ result, Text.Unpadded (write result).toList)
    (reads : ∀ result, read (write result).toList = some result) {result : Option α}
    (isValue : Xml.value? attributes name = result.map write) :
    read? read attributes name = .ok result := by
  cases result with
  | none => rw [read?, text?_eq isValue nofun]; rfl
  | some result =>
      rw [read?, text?_eq isValue]
      · simp only [Option.map_some, reads]
      · rintro _ ⟨⟩
        exact unpadded result

end

end Attributes

end SchemaContent
