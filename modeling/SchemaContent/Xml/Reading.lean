import SchemaContent.Name
import SchemaContent.Xml.Token

/-! # Reading documents

Tokens make up the element tree. On the way entity references are replaced, attribute values are
normalized, qualifiers are resolved to namespaces, and start and end tags are matched. Character data,
comments and processing instructions carry nothing for a schema; a reader checks them and leaves them
out of the tree.
-/

namespace SchemaContent.Xml

/-! ## Element trees -/

/-- An attribute that is not a namespace declaration, with its normalized value. -/
structure Attribute where
  name : ExpandedName
  value : String
deriving DecidableEq, Repr

structure Element where
  name : ExpandedName
  attributes : List Attribute
  children : List Element

mutual

def Element.decEq : (first second : Element) → Decidable (first = second)
  | ⟨name, attributes, children⟩, ⟨otherName, otherAttributes, otherChildren⟩ =>
    have := Element.decEqList children otherChildren
    decidable_of_iff (name = otherName ∧ attributes = otherAttributes ∧ children = otherChildren)
      (iff_of_eq (Element.mk.injEq ..).symm)

def Element.decEqList : (first second : List Element) → Decidable (first = second)
  | [], [] => isTrue rfl
  | [], _ :: _ => isFalse nofun
  | _ :: _, [] => isFalse nofun
  | element :: rest, other :: others =>
    have := Element.decEq element other
    have := Element.decEqList rest others
    decidable_of_iff (element = other ∧ rest = others) (iff_of_eq (List.cons.injEq ..).symm)

end

instance : DecidableEq Element := Element.decEq

def value? (attributes : List Attribute) (localName : String) : Option String :=
  (attributes.find? fun candidate => candidate.name = ⟨none, localName⟩).map (·.value)

/-- A document: its root element, and the namespace declarations in scope there, in document order.
A declaration without a qualifier binds the default namespace. -/
structure Document where
  bindings : List (Option String × String)
  root : Element
deriving DecidableEq

/-! ## References in text -/

/-- What a text consists of: characters as written, characters written as references, and
references to entities. A reference begins at `position`; what follows it begins at `next`. -/
inductive Chunk where
  | plain (character : Char)
  | escaped (character : Char) (position : Position)
  | entity (name : String) (position next : Position)
deriving DecidableEq, Repr

namespace Chunk

def codeValue (base : Nat) (digits : List Char) : Option Nat :=
  let value := digits.foldl (fun value digit => value * base + digitValue digit) 0
  if digits.isEmpty || value ≥ UInt32.size then none else some value
where
  digitValue (digit : Char) : Nat :=
    if digit.isDigit then digit.toNat - '0'.toNat
    else if digit.isLower then digit.toNat - 'a'.toNat + 10
    else digit.toNat - 'A'.toNat + 10

def isHexDigit (character : Char) : Bool :=
  character.isDigit || ('a' ≤ character && character ≤ 'f') ||
    ('A' ≤ character && character ≤ 'F')

/-- The character of a code. Codes that belong to no character give the replacement character. -/
def characterOfCode (code : Nat) : Char :=
  if code.isValidChar then Char.ofNat code else '\ufffd'

def named : List (String × Char) :=
  [("quot", '\"'), ("amp", '&'), ("apos", '\''), ("lt", '<'), ("gt", '>')]

def reference (cursor : Cursor) : Except Fault (Chunk × Cursor) :=
  let malformed := Except.error (.malformedReference cursor.position)
  let close (chunk : Position → Chunk) (last : Cursor) : Except Fault (Chunk × Cursor) :=
    match last.rest with
    | ';' :: _ => .ok (chunk (last.drop 1).position, last.drop 1)
    | _ => malformed
  let escaped (character : Char) (_ : Position) : Chunk := .escaped character cursor.position
  let numbered (base : Nat) (isDigit : Char → Bool) (here : Cursor) :=
    let (digits, next) := here.takeWhile isDigit
    match codeValue base digits with
    | none => malformed
    | some code =>
      let character := characterOfCode code
      if isDocumentCharacter character then close (escaped character) next else malformed
  match cursor.rest with
  | _ :: '#' :: 'x' :: _ => numbered 16 isHexDigit (cursor.drop 3)
  | _ :: '#' :: _ => numbered 10 Char.isDigit (cursor.drop 2)
  | _ =>
    match (cursor.drop 1).expectName with
    | .error _ => malformed
    | .ok (name, next) =>
      match named.lookup name with
      | some character => close (escaped character) next
      | none => close (.entity name cursor.position) next

def scan (cursor : Cursor) : List Chunk × Option Fault :=
  match _remaining : cursor.rest with
  | [] => ([], none)
  | '&' :: _ =>
    match reference cursor with
    | .error fault => ([], some fault)
    | .ok (chunk, next) =>
      if next.rest.length < cursor.rest.length then
        let (chunks, fault) := scan next
        (chunk :: chunks, fault)
      else ([chunk], none)
  | character :: rest =>
    let (chunks, fault) := scan ⟨rest, cursor.position.after character⟩
    (.plain character :: chunks, fault)
termination_by cursor.rest.length
decreasing_by
  · assumption
  · simp [_remaining]

end Chunk

/-! ## The tree under construction -/

/-- Namespace declarations in scope; one without a qualifier is that of the default namespace. -/
abbrev Bindings := List (Option String × String)

/-- An element whose end tag is still to come. -/
structure OpenElement where
  qualifier : String
  name : ExpandedName
  attributes : List Attribute
  bindings : Bindings
  children : List Element

/-- An attribute before its qualifier is resolved. -/
structure WrittenAttribute where
  qualifier : String
  localName : String
  value : String
  position : Position

structure StartTag where
  qualifier : String
  localName : String
  position : Position

/-- The tree as far as it has been read: entities declared so far, the elements that are open, the
innermost first, and the finished elements outside of any other. `tag` is the last start tag; inside
the replacement text of an entity there is none before the first of that text. -/
structure Building where
  entities : List (String × Cursor)
  openElements : List OpenElement
  finished : List (Bindings × Element)
  tag : Option StartTag
  attributes : List WrittenAttribute
  bindings : Bindings
  references : Nat

namespace Building

def empty : Building := ⟨[], [], [], none, [], [], 0⟩

/-! ### Entities

Entities may refer to entities, ten deep, and at most 255 references are followed inside one
reference of the document itself. `depth` counts how many levels are still allowed. -/

def entityDepth : Nat := 10

/-- Counts a reference that ends at `position`; those outside of entities are free. -/
def countReference (building : Building) (depth : Nat) (position : Position) :
    Except Fault Building :=
  if depth = entityDepth then .ok building
  else if building.references = 255 then .error (.entityLoop position)
  else .ok { building with references := building.references + 1 }

def endReference (building : Building) (depth : Nat) : Building :=
  if depth = entityDepth then { building with references := 0 } else building

/-- The replacement text of an entity: the first declaration counts. -/
def entity (building : Building) (name : String) (position : Position) : Except Fault Cursor :=
  match building.entities.lookup name with
  | some value => .ok value
  | none => .error (.unknownEntity name position)

/-- A character of an attribute value as it is normalized, given what follows it: line ends and tabs
become blanks, and a line end of two characters becomes one. -/
def normalize (character : Char) (next : Option Char) : List Char :=
  if character == '\r' && next == some '\n' then []
  else if character == '\r' || character == '\n' || character == '\t' then [' ']
  else [character]

def shown : List Chunk → Option Char
  | .plain character :: _ => some character
  | _ => none

/-- The value that chunks stand for. `expand` gives the value of an entity's replacement text for a
reference that ends at the given position, and `fault` is what stopped the reading of the chunks. -/
def chunksValue (depth : Nat)
    (expand : Position → Cursor → Building → Except Fault (List Char × Building))
    (fault : Option Fault) : List Chunk → Building → Except Fault (List Char × Building)
  | [], building =>
    match fault with
    | some fault => .error fault
    | none => .ok ([], building)
  | .plain character :: rest, building => do
    let (value, building) ← chunksValue depth expand fault rest building
    return (normalize character (shown rest) ++ value, building)
  | .escaped character position :: rest, building => do
    if depth ≠ entityDepth ∧ character = '<' then throw (.markupInAttribute position)
    let (value, building) ← chunksValue depth expand fault rest building
    if depth = entityDepth then return (character :: value, building)
    else return (normalize character none ++ value, building)
  | .entity name position next :: rest, building => do
    let content ← building.entity name position
    let building ← building.countReference depth next
    let (inserted, building) ← expand next content building
    let (value, building) ←
      chunksValue depth expand fault rest (building.endReference depth)
    return (inserted ++ value, building)

def attributeValue : Nat → Cursor → Building → Except Fault (List Char × Building)
  | 0, cursor, building =>
    let (chunks, fault) := Chunk.scan cursor
    chunksValue 0 (fun position _ _ => .error (.entityLoop position)) fault chunks building
  | depth + 1, cursor, building =>
    let (chunks, fault) := Chunk.scan cursor
    chunksValue (depth + 1) (fun _ => attributeValue depth) fault chunks building

/-! ### Names -/

def declarationNamespace : String := "http://www.w3.org/2000/xmlns/"

def declare (building : Building) (qualifier : Option String) (uri : String)
    (position : Position) : Except Fault Building :=
  let extended : Building :=
    { building with bindings := building.bindings ++ [(qualifier, uri)] }
  match qualifier with
  | none =>
    if uri = xmlNamespace then .error (.xmlNamespaceRebound position)
    else if uri = declarationNamespace then .error (.declarationNamespaceBound position)
    else .ok extended
  | some name =>
    if uri = declarationNamespace then .error (.declarationNamespaceBound position)
    else if name = "xml" then
      if uri = xmlNamespace then .ok building else .error (.reservedQualifierRebound position)
    else if uri = xmlNamespace then .error (.xmlNamespaceRebound position)
    else if building.bindings.any (·.1 == qualifier) then
      .error (.duplicateBinding name position)
    else .ok extended

/-- Adds an attribute to the start tag being read. Declarations of namespaces are kept apart. -/
def addAttribute (building : Building) (written : WrittenAttribute) : Except Fault Building :=
  if written.qualifier = "xmlns" then
    building.declare (some written.localName) written.value written.position
  else if written.localName = "xmlns" then
    building.declare none written.value written.position
  else .ok { building with attributes := building.attributes ++ [written] }

/-- The declarations in scope at the element whose start tag has been read: its own, and those of
the element around it that it does not replace. -/
def scope (building : Building) : Bindings :=
  match building.openElements with
  | [] => building.bindings
  | parent :: _ =>
    building.bindings ++ parent.bindings.filter fun (qualifier, _) =>
      !building.bindings.any (·.1 == qualifier)

/-- The namespace of a qualifier, the empty one standing for none: the first declaration in scope
counts. -/
def resolve (bindings : Bindings) (qualifier : String) (position : Position) :
    Except Fault (Option String) :=
  let key := if qualifier.isEmpty then none else some qualifier
  match bindings.lookup key with
  | some uri => .ok (some uri)
  | none => if qualifier.isEmpty then .ok none else .error (.unboundQualifier qualifier position)

def attributeName (bindings : Bindings) (written : WrittenAttribute) :
    Except Fault ExpandedName := do
  if written.qualifier = "xml" then return ⟨some xmlNamespace, written.localName⟩
  else if written.qualifier.isEmpty then return ⟨none, written.localName⟩
  else
    return ⟨← resolve bindings written.qualifier written.position, written.localName⟩

def resolveAttributes (bindings : Bindings) (known : List Attribute) :
    List WrittenAttribute → Except Fault (List Attribute)
  | [] => .ok known
  | written :: rest => do
    let name ← attributeName bindings written
    if known.any (·.name = name) then
      throw (.duplicateAttribute written.localName written.position)
    resolveAttributes bindings (known ++ [⟨name, written.value⟩]) rest

/-! ### Elements -/

def beginElement (building : Building) (tag : StartTag) :
    Except Fault (OpenElement × Building) := do
  let bindings := building.scope
  let attributes ← resolveAttributes bindings [] building.attributes
  let uri ← resolve bindings tag.qualifier (tag.position.after '<')
  return (⟨tag.qualifier, ⟨uri, tag.localName⟩, attributes, bindings, []⟩,
    { building with attributes := [], bindings := [] })

def addElement (building : Building) (element : OpenElement) : Building :=
  let finished : Element := ⟨element.name, element.attributes, element.children⟩
  match building.openElements with
  | [] => { building with finished := building.finished ++ [(element.bindings, finished)] }
  | parent :: outer =>
    { building with
      openElements := { parent with children := parent.children ++ [finished] } :: outer }

def tagText (qualifier localName : String) : String :=
  if qualifier.isEmpty then localName else qualifier ++ ":" ++ localName

/-- Drops the attributes and declarations of a start tag that the replacement text of an entity left
unfinished. Their names have to resolve all the same. -/
def dropPending (building : Building) : Except Fault Building := do
  let _ ← resolveAttributes building.scope [] building.attributes
  return { building with attributes := [], bindings := [] }

/-- Ends the innermost open element. There may be none: entities can end elements that they have not
begun, and then the end tags of the document itself are too many. -/
def endElement (building : Building) (qualifier localName : String) (position : Position) :
    Except Fault Building := do
  if building.tag.isNone then throw (.endTagInEntity position)
  let building ← building.dropPending
  match building.openElements with
  | [] => throw (.endTagOutside position)
  | element :: outer =>
    if element.qualifier = qualifier ∧ element.name.localName = localName then
      return { building with openElements := outer }.addElement element
    else
      throw (.mismatchedEndTag (tagText element.qualifier element.name.localName)
        (tagText qualifier localName) position)

/-- Reads one token. `expand` reads the replacement text of an entity in character data. -/
def readToken (depth : Nat)
    (expand : Position → Cursor → Building → Except Fault Building) (building : Building) :
    Token → Except Fault Building
  | .startTag qualifier localName position =>
    if qualifier = "xmlns" then
      .error (.declarationQualifierOnElement (position.after '<'))
    else .ok { building with tag := some ⟨qualifier, localName, position⟩ }
  | .attribute qualifier localName value position => do
    let (value, building) ← attributeValue depth value building
    building.addAttribute ⟨qualifier, localName, String.ofList value, position⟩
  | .opened =>
    match building.tag with
    | none => .ok building
    | some tag => do
      let (element, building) ← building.beginElement tag
      return { building with openElements := element :: building.openElements }
  | .closedAtOnce =>
    match building.tag with
    | none => .ok building
    | some tag => do
      let (element, building) ← building.beginElement tag
      return building.addElement element
  | .endTag qualifier localName position => building.endElement qualifier localName position
  | .text content => readText content building
  | .entity name value => .ok { building with entities := building.entities ++ [(name, value)] }
where
  readText (content : Cursor) (building : Building) : Except Fault Building := do
    let (chunks, fault) := Chunk.scan content
    let building ← chunks.foldlM readChunk building
    match fault with
    | some fault => throw fault
    | none => return building
  readChunk (building : Building) : Chunk → Except Fault Building
    | .entity name position next => do
      let content ← building.entity name position
      let building ← building.countReference depth next
      let inside ← expand next content { building with tag := none }
      return { inside with tag := building.tag }.endReference depth
    | _ => .ok building

/-- Reads the tokens of a text, and then the fault that ended them if there is one. -/
def readTokens : Nat → Scan Cursor → Building → Except Fault Building
  | 0, scan, building => do
    let building ← scan.tokens.foldlM
      (readToken 0 fun position _ _ => .error (.entityLoop position)) building
    let _ ← scan.result
    return building
  | depth + 1, scan, building => do
    let building ← scan.tokens.foldlM
      (readToken (depth + 1) fun _ content => readTokens depth (Scan.content 0 content)) building
    let _ ← scan.result
    return building

end Building

/-! ## Documents -/

def Document.read (text : String) (allowDoctype : Bool) : Except Fault Document := do
  let tokens := Scan.document allowDoctype text
  let building ← Building.readTokens Building.entityDepth tokens .empty
  match building.finished, building.openElements with
  | _, _ :: _ => throw .unclosedRoot
  | [], [] => throw .noRoot
  | (bindings, root) :: _, [] => return ⟨bindings, root⟩

end SchemaContent.Xml
