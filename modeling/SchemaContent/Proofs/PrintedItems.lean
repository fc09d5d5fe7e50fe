import SchemaContent.Proofs.GeneratedIdentifiers
import SchemaContent.Proofs.ItemOrder

/-! # Printed items

A generated file is read as words and marks. Blanks and line ends keep words apart and say
nothing else, so that a field which is broken into lines reads like any other, but for a
comma behind its type. What is read are the items, one after the other. -/

namespace SchemaContent.Declarations

/-! ## Words and marks -/

/-- The marks that stand for themselves, whatever is next to them. -/
def isMark (character : Char) : Bool :=
  ['\x7b', '\x7d', '<', '>', ':', ',', '=', ';'].contains character

def setApart (character : Char) : List Char :=
  if isMark character then [' ', character, ' '] else [character]

/-- The words and marks of a text, in order. -/
def tokens (text : String) : List String :=
  (Text.pieces Char.isWhitespace (text.toList.flatMap setApart)).map String.ofList

/-- Whether the character is no part of a word. -/
def endsWord (character : Char) : Bool :=
  character.isWhitespace || isMark character

/-- The text is a single word. -/
structure IsWhole (word : String) : Prop where
  notEmpty : word ≠ ""
  within : word.toList.any endsWord = false

theorem setApart_of_endsWord {character : Char} (isEnd : endsWord character) :
    setApart character = [character] ∧ character.isWhitespace ∨
      setApart character = [' ', character, ' '] := by
  rw [setApart]
  split
  · exact .inr rfl
  · rename_i noMark
    rw [endsWord, Bool.or_eq_true] at isEnd
    exact .inl ⟨rfl, isEnd.resolve_right noMark⟩

def beginsApart (text : String) : Bool :=
  text.toList.head?.any endsWord

def endsApart (text : String) : Bool :=
  text.toList.getLast?.any endsWord

theorem endsApart_append {last : String} (apart : endsApart last) (first : String) :
    endsApart (first ++ last) := by
  rcases (Option.any_eq_true ..).mp apart with ⟨character, isLast, isEnd⟩
  rw [endsApart, String.toList_append, List.getLast?_append, isLast]
  exact isEnd

/-- Before a blank or a mark a text can be cut. -/
theorem tokens_append_of_begins {rest : String} (apart : beginsApart rest) (first : String) :
    tokens (first ++ rest) = tokens first ++ tokens rest := by
  rcases (Option.any_eq_true ..).mp apart with ⟨character, isFirst, isEnd⟩
  rcases List.head?_eq_some_iff.mp isFirst with ⟨others, isRest⟩
  rw [tokens, tokens, tokens, ← List.map_append, String.toList_append, isRest,
    List.flatMap_append, List.flatMap_cons]
  congr 1
  rcases setApart_of_endsWord isEnd with ⟨alone, isBlank⟩ | apart
  · rw [alone, List.singleton_append, Text.pieces_append_cons isBlank,
      Text.pieces_cons isBlank]
  · rw [apart, List.cons_append, Text.pieces_append_cons rfl, Text.pieces_cons rfl]

/-- Behind a blank or a mark a text can be cut. -/
theorem tokens_append_of_ends {first : String} (apart : endsApart first) (rest : String) :
    tokens (first ++ rest) = tokens first ++ tokens rest := by
  rcases (Option.any_eq_true ..).mp apart with ⟨character, isLast, isEnd⟩
  rcases List.getLast?_eq_some_iff.mp isLast with ⟨others, isFirst⟩
  rw [tokens, tokens, tokens, ← List.map_append, String.toList_append, isFirst,
    List.flatMap_append, List.flatMap_append, List.flatMap_singleton]
  congr 1
  rcases setApart_of_endsWord isEnd with ⟨alone, isBlank⟩ | apart
  · rw [alone, Text.pieces_concat_append isBlank]
  · have inParts : [' ', character, ' '] = [' ', character] ++ [' '] := rfl
    rw [apart, inParts, ← List.append_assoc, Text.pieces_concat_append rfl]

theorem tokens_of_isWhole {word : String} (whole : IsWhole word) : tokens word = [word] := by
  have notNil : word.toList ≠ [] := by
    simpa using whole.notEmpty
  have within : ∀ character ∈ word.toList,
      character.isWhitespace = false ∧ isMark character = false := by
    intro character isCharacter
    exact Bool.or_eq_false_iff.mp
      (Bool.eq_false_iff.mpr (List.any_eq_false.mp whole.within character isCharacter))
  have asItIs : word.toList.flatMap setApart = word.toList :=
    calc
      word.toList.flatMap setApart = word.toList.flatMap fun character => [character] := by
        apply List.flatMap_congr
        intro character isCharacter
        rw [setApart, (within character isCharacter).2, if_neg Bool.false_ne_true]
      _ = word.toList := List.flatMap_singleton' word.toList
  have noBlank : word.toList.any Char.isWhitespace = false := by
    rw [List.any_eq_false]
    intro character isCharacter
    exact Bool.eq_false_iff.mp (within character isCharacter).1
  rw [tokens, asItIs, Text.pieces_of_any notNil noBlank, List.map_singleton,
    String.ofList_toList]

theorem tokens_join_lines (lines : List String) :
    tokens (String.join (lines.map (· ++ "\n"))) = lines.flatMap tokens := by
  have noWord : tokens "\n" = [] := by decide +kernel
  induction lines with
  | nil => rfl
  | cons first rest induction =>
      rw [List.map_cons, String.join_cons, tokens_append_of_ends (endsApart_append rfl first),
        tokens_append_of_begins rfl, noWord, List.append_nil, induction, List.flatMap_cons]

example : tokens "pub  a: Vec<\n b>," = ["pub", "a", ":", "Vec", "<", "b", ">", ","] := by
  decide +kernel

/-! ## What is read of an item -/

/-- The type of a field around what it is an argument of. -/
def Multiplicity.around (argument : List String) : Multiplicity → List String
  | .one => argument
  | .optional => ["Option", "<"] ++ argument ++ [">"]
  | .many => ["Vec", "<"] ++ argument ++ [">"]

/-- The named type of a field. A comma comes with it if it has a line of its own. -/
def Field.argument (field : Field) : List String :=
  if field.lines.length = 1 then [field.type.spelling] else [field.type.spelling, ","]

def Field.reading (field : Field) : List String :=
  ["pub", field.name.spelling, ":"] ++ field.multiplicity.around field.argument ++ [","]

def Item.reading : Item → List String
  | .alias name => ["pub", "type", name.spelling, "=", "String", ";"]
  | .struct name fields =>
    ["#[derive(Debug)]", "pub", "struct", name.spelling, "\x7b"] ++
      fields.flatMap Field.reading ++ ["\x7d"]

def headerReading : List String :=
  ["//!Generated", "by", "xcm-generator", "0.1.0", "#![allow(dead_code)]"]

theorem Multiplicity.isWhole_wrapper {multiplicity : Multiplicity} {wrapper : String}
    (wraps : multiplicity.wrapper? = some wrapper) : IsWhole wrapper := by
  cases multiplicity with
  | one => cases wraps
  | optional => cases wraps; exact ⟨by decide, by decide⟩
  | many => cases wraps; exact ⟨by decide, by decide⟩

theorem Multiplicity.around_of_wrapper {multiplicity : Multiplicity} {wrapper : String}
    (wraps : multiplicity.wrapper? = some wrapper) (argument : List String) :
    multiplicity.around argument = [wrapper, "<"] ++ argument ++ [">"] := by
  cases multiplicity with
  | one => cases wraps
  | optional => cases wraps; rfl
  | many => cases wraps; rfl

theorem Multiplicity.around_of_none {multiplicity : Multiplicity}
    (bare : multiplicity.wrapper? = none) (argument : List String) :
    multiplicity.around argument = argument := by
  cases multiplicity with
  | one => rfl
  | optional => cases bare
  | many => cases bare

/-- The lines of a field, which are three if its type is an argument and has to stand on a
line of its own. -/
theorem Field.lines_cases (field : Field) :
    let start := "    pub " ++ field.name.spelling ++ ": "
    (field.multiplicity.wrapper? = none ∧
        field.lines = [start ++ field.type.spelling ++ ","]) ∨
      ∃ wrapper, field.multiplicity.wrapper? = some wrapper ∧
        (field.lines = [start ++ wrapper ++ "<" ++ field.type.spelling ++ ">,"] ∨
          field.lines =
            [start ++ wrapper ++ "<", "        " ++ field.type.spelling ++ ",", "    >,"]) := by
  intro start
  rw [lines]
  cases field.multiplicity.wrapper? with
  | none => exact .inl ⟨rfl, rfl⟩
  | some wrapper =>
      refine .inr ⟨wrapper, rfl, ?_⟩
      dsimp only
      split
      · exact .inl rfl
      · exact .inr rfl

theorem tokens_fieldStart {name : String} (whole : IsWhole name) :
    tokens ("    pub " ++ name ++ ": ") = ["pub", name, ":"] := by
  have visibility : tokens "    pub " = ["pub"] := by decide +kernel
  have colon : tokens ": " = [":"] := by decide +kernel
  rw [tokens_append_of_begins rfl, tokens_append_of_ends rfl, tokens_of_isWhole whole,
    visibility, colon]
  rfl

theorem Field.tokens_lines {field : Field} (name : IsWhole field.name.spelling)
    (type : IsWhole field.type.spelling) : field.lines.flatMap tokens = field.reading := by
  have start := tokens_fieldStart name
  have ends : endsApart ("    pub " ++ field.name.spelling ++ ": ") := endsApart_append rfl _
  have comma : tokens "," = [","] := by decide +kernel
  have opening : tokens "<" = ["<"] := by decide +kernel
  have closing : tokens ">," = [">", ","] := by decide +kernel
  rcases field.lines_cases with ⟨bare, isLine⟩ | ⟨wrapper, wraps, isLines⟩
  · rw [reading, argument, isLine, Multiplicity.around_of_none bare, List.length_singleton,
      if_pos rfl, List.flatMap_singleton, tokens_append_of_begins rfl,
      tokens_append_of_ends ends, tokens_of_isWhole type, start, comma]
  · have opened : tokens ("    pub " ++ field.name.spelling ++ ": " ++ wrapper ++ "<") =
        ["pub", field.name.spelling, ":", wrapper, "<"] := by
      rw [tokens_append_of_begins rfl, tokens_append_of_ends ends,
        tokens_of_isWhole (Multiplicity.isWhole_wrapper wraps), start, opening]
      rfl
    rw [reading, Multiplicity.around_of_wrapper wraps, argument]
    rcases isLines with isLine | areThree
    · rw [isLine, List.length_singleton, if_pos rfl, List.flatMap_singleton,
        tokens_append_of_begins rfl, tokens_append_of_ends (endsApart_append rfl _), opened,
        tokens_of_isWhole type, closing]
      rfl
    · have typeLine : tokens ("        " ++ field.type.spelling ++ ",") =
          [field.type.spelling, ","] := by
        have indent : tokens "        " = [] := by decide +kernel
        rw [tokens_append_of_begins rfl, tokens_append_of_ends rfl, tokens_of_isWhole type,
          indent, comma]
        rfl
      have lastLine : tokens "    >," = [">", ","] := by decide +kernel
      rw [areThree, if_neg (by simp), List.flatMap_cons, List.flatMap_cons,
        List.flatMap_singleton, opened, typeLine, lastLine]
      rfl

theorem tokens_fieldLines {fields : List Field}
    (whole : ∀ field ∈ fields, IsWhole field.name.spelling ∧ IsWhole field.type.spelling) :
    (fields.flatMap Field.lines).flatMap tokens = fields.flatMap Field.reading := by
  rw [List.flatMap_assoc]
  apply List.flatMap_congr
  intro field isField
  exact Field.tokens_lines (whole field isField).1 (whole field isField).2

theorem Item.tokens_lines : ∀ {item : Item},
    (∀ identifier ∈ item.identifiers, IsWhole identifier.spelling) →
      item.lines.flatMap tokens = item.reading
  | .alias name, whole => by
      have opening : tokens "pub type " = ["pub", "type"] := by decide +kernel
      have closing : tokens " = String;" = ["=", "String", ";"] := by decide +kernel
      rw [lines, List.flatMap_singleton, tokens_append_of_begins rfl, tokens_append_of_ends rfl,
        tokens_of_isWhole (whole name List.mem_cons_self), opening, closing]
      rfl
  | .struct name fields, whole => by
      have derived : tokens "#[derive(Debug)]" = ["#[derive(Debug)]"] := by decide +kernel
      have opening : tokens "pub struct " = ["pub", "struct"] := by decide +kernel
      rcases List.forall_mem_cons.mp whole with ⟨ofName, ofFields⟩
      have body : (fields.flatMap Field.lines).flatMap tokens =
          fields.flatMap Field.reading := by
        apply tokens_fieldLines
        intro field isField
        have ofField : ∀ identifier ∈ [field.name, field.type], IsWhole identifier.spelling :=
          fun identifier isIdentifier =>
            ofFields identifier (List.mem_flatMap.mpr ⟨field, isField, isIdentifier⟩)
        exact ⟨ofField _ List.mem_cons_self, ofField _ (List.mem_cons_of_mem _ List.mem_cons_self)⟩
      cases fields with
      | nil =>
          have braces : tokens " \x7b\x7d" = ["\x7b", "\x7d"] := by decide +kernel
          rw [lines, List.flatMap_cons, List.flatMap_singleton, tokens_append_of_begins rfl,
            tokens_append_of_ends rfl, tokens_of_isWhole ofName, derived, opening, braces]
          rfl
      | cons first rest =>
          have brace : tokens " \x7b" = ["\x7b"] := by decide +kernel
          have last : tokens "\x7d" = ["\x7d"] := by decide +kernel
          rw [lines, List.flatMap_append, List.flatMap_append, body, List.flatMap_cons,
            List.flatMap_singleton, List.flatMap_singleton, tokens_append_of_begins rfl,
            tokens_append_of_ends rfl, tokens_of_isWhole ofName, derived, opening, brace, last]
          · rfl
          · exact List.cons_ne_nil first rest

theorem tokens_fileText {items : List Item}
    (whole : ∀ item ∈ items, ∀ identifier ∈ item.identifiers, IsWhole identifier.spelling) :
    tokens (fileText items) = headerReading ++ items.flatMap Item.reading := by
  have header : headerLines.flatMap tokens = headerReading := by decide +kernel
  rw [fileText, tokens_join_lines, List.flatMap_append, header, List.flatMap_assoc]
  congr 1
  apply List.flatMap_congr
  intro item isItem
  exact Item.tokens_lines (whole item isItem)

/-! ## Generated files -/

theorem not_identifier_of_endsWord {character : Char} (isEnd : endsWord character) :
    Text.isIdentifierContinue character = false ∧ Text.isIdentifierStart character = false ∧
      character ≠ '_' := by
  have isOneOf : character ∈ [' ', '\t', '\r', '\n'] ++
      ['\x7b', '\x7d', '<', '>', ':', ',', '=', ';'] := by
    rw [endsWord, Char.isWhitespace, isMark, Bool.or_eq_true, List.contains_iff_mem] at isEnd
    simpa [or_assoc] using isEnd
  have checked : ([' ', '\t', '\r', '\n'] ++
      ['\x7b', '\x7d', '<', '>', ':', ',', '=', ';']).all (fun character =>
        Text.isIdentifierContinue character = false ∧
          Text.isIdentifierStart character = false ∧ character ≠ '_') := by
    decide +kernel
  exact of_decide_eq_true (List.all_eq_true.mp checked character isOneOf)

theorem isWhole_of_isIdentifier {text : String} (valid : isIdentifier text.toList) :
    IsWhole text := by
  cases characters : text.toList with
  | nil =>
      rw [characters] at valid
      cases valid
  | cons first rest =>
      rw [characters, isIdentifier, Bool.and_eq_true, List.all_eq_true] at valid
      constructor
      · rintro rfl
        cases characters
      · rw [characters, List.any_eq_false]
        intro character isCharacter isEnd
        rcases not_identifier_of_endsWord isEnd with ⟨notContinue, notStart, notUnderscore⟩
        rcases List.mem_cons.mp isCharacter with rfl | isLater
        · simp [notStart, notUnderscore] at valid
        · have continues := valid.2 character isLater
          rw [notContinue] at continues
          cases continues

theorem isWhole_raw {word : String} (whole : IsWhole word) : IsWhole ("r#" ++ word) := by
  have spelled : ("r#" ++ word).toList = 'r' :: '#' :: word.toList := String.toList_append ..
  constructor
  · intro isEmpty
    rw [isEmpty] at spelled
    cases spelled
  · rw [spelled, List.any_cons, List.any_cons, whole.within]
    decide

theorem isWhole_of_identifierOf {name : String} {identifier : Identifier}
    (valid : identifierOf name = .ok identifier) : IsWhole identifier.spelling := by
  cases escapes_of_identifierOf valid with
  | empty => exact ⟨by decide, by decide⟩
  | digit _ isValid => exact isWhole_of_isIdentifier isValid
  | path isPathKeyword =>
      have checked : ∀ word ∈ pathKeywords, isIdentifier (word ++ "_").toList := by decide
      exact isWhole_of_isIdentifier (checked name isPathKeyword)
  | raw isKeyword =>
      have isWord := isWord_of_mem_keywords name isKeyword
      exact isWhole_raw (isWhole_of_isIdentifier (isIdentifier_of_isWord isWord))
  | plain isValid => exact isWhole_of_isIdentifier isValid

/-- The identifier is that of a name. -/
def Identifier.IsOfName (identifier : Identifier) : Prop :=
  ∃ name, identifierOf name = .ok identifier

theorem isOfName_builtinType (name : ExpandedName) :
    Identifier.IsOfName ⟨builtinType name, false⟩ := by
  refine ⟨builtinType name, ?_⟩
  unfold builtinType
  split <;> rfl

section Catalogues

variable {catalogue : Catalogue}

theorem Catalogue.isOfName_of_names
    (named : ∀ entry ∈ catalogue, entry.2.name.IsOfName) {owner : Owner} {place : List Nat}
    {identifier : Identifier} {type : MemberType} {part : Catalogue} (isPart : part ⊆ catalogue)
    (names : part.Names catalogue.ownerNames owner place identifier type) :
    identifier.IsOfName := by
  have ofOwner : ∀ other, catalogue.ownerNames other identifier → identifier.IsOfName := by
    intro other isNamed
    rcases isNamed with ⟨fields, isEntry⟩ | ⟨_, isName⟩
    · exact named _ isEntry
    · exact ⟨_, isName⟩
  cases type with
  | builtin name =>
      cases names
      exact isOfName_builtinType name
  | simple name => exact named _ (isPart names)
  | complex name => exact ofOwner _ names
  | anonymousSimple =>
      cases names
      exact ⟨"String", rfl⟩
  | anonymousComplex name => exact ofOwner _ names
  | inline members =>
      rcases names with ⟨fields, isEntry⟩
      exact named _ (isPart isEntry)

theorem Catalogue.Accounts.isOfName {models : List ContentModel}
    (accounts : catalogue.Accounts models)
    (named : ∀ entry ∈ catalogue, entry.2.name.IsOfName) {entry : Origin × Item}
    (isEntry : entry ∈ catalogue) :
    ∀ identifier ∈ entry.2.identifiers, identifier.IsOfName := by
  have ofItem := named entry isEntry
  rcases List.append_of_mem isEntry with ⟨before, after, split⟩
  have isPart : before ⊆ catalogue := by
    rw [split]
    exact List.subset_append_left _ _
  rcases accounts.ready before entry after split with ⟨name, identifier⟩ | ⟨_, _, matched⟩
  · exact List.forall_mem_singleton.mpr ofItem
  · refine List.forall_mem_cons.mpr ⟨ofItem, ?_⟩
    intro identifier isIdentifier
    rcases List.mem_flatMap.mp isIdentifier with ⟨field, isField, isOfField⟩
    rcases exists_of_mem_of_forall₂ matched.flip isField with
      ⟨⟨member, position⟩, _, ⟨_, count, isName⟩, _, names⟩
    rcases List.mem_pair.mp isOfField with rfl | rfl
    · exact ⟨_, isName⟩
    · exact isOfName_of_names named isPart names

end Catalogues

/-- What is read of a generated file are its items, in order. -/
theorem tokens_of_text {models : List ContentModel} {file : String}
    (distinct : (models.map (·.owner)).Nodup) (generated : text models = .ok file) :
    ∃ declared : List Item, items models = .ok declared ∧
      tokens file = headerReading ++ declared.flatMap Item.reading := by
  rcases exists_items_of_text generated with ⟨declared, itemsGenerated, rfl⟩
  refine ⟨declared, itemsGenerated, ?_⟩
  rcases exists_ledger itemsGenerated distinct with
    ⟨structs, draft, ledger, rfl, records, completes⟩
  have named : ∀ entry ∈ ledger.catalogue, entry.2.name.IsOfName := by
    intro entry isEntry
    rcases records.named entry isEntry with ⟨name, _, isName⟩
    exact ⟨name, isName⟩
  rw [records.items]
  apply tokens_fileText
  intro item isItem identifier isIdentifier
  rcases List.mem_map.mp isItem with ⟨entry, isEntry, rfl⟩
  rcases (completes.accounts records).isOfName named isEntry identifier isIdentifier with
    ⟨name, isName⟩
  exact isWhole_of_identifierOf isName

end SchemaContent.Declarations
