import SchemaContent.Text.Alphanumeric
import SchemaContent.Xml.Fault

/-! # Reading a text from a place

A cursor is the rest of a text together with the position of its first character. The functions here
take what stands at a cursor: single characters, fixed texts, blanks, quotes and names.
-/

namespace SchemaContent.Xml

/-! ## Characters of markup -/

def isSpace (character : Char) : Bool :=
  character == ' ' || character == '\t' || character == '\n' || character == '\r'

def isDocumentCharacter (character : Char) : Bool :=
  if character.toNat < 0x20 then isSpace character
  else character.toNat != 0xFFFE && character.toNat != 0xFFFF

/-- The characters from U+0081 on that may begin a name. -/
def nameStartRanges : Text.CodeRanges := [
  (0xC0, 0xD6), (0xD8, 0xF6), (0xF8, 0x2FF), (0x370, 0x37D), (0x37F, 0x1FFF), (0x200C, 0x200D),
  (0x2070, 0x218F), (0x2C00, 0x2FEF), (0x3001, 0xD7FF), (0xF900, 0xFDCF), (0xFDF0, 0xFFFD),
  (0x10000, 0xEFFFF)]

/-- Characters that may begin a name, the colon among them. -/
def isNameStart (character : Char) : Bool :=
  character.isAlpha || character == ':' || character == '_' || nameStartRanges.contains character

def isNameCharacter (character : Char) : Bool :=
  isNameStart character || character.isDigit || character == '-' || character == '.' ||
    Text.CodeRanges.contains [(0xB7, 0xB7), (0x300, 0x36F), (0x203F, 0x2040)] character

/-! ## Cursors -/

/-- The rest of a text, and where it begins. -/
structure Cursor where
  rest : List Char
  position : Position
deriving DecidableEq, Repr

namespace Cursor

def ofText (text : String) : Cursor := ⟨text.toList, .start⟩

def drop (cursor : Cursor) : Nat → Cursor
  | 0 => cursor
  | count + 1 =>
    match cursor.rest with
    | [] => cursor
    | character :: rest => drop ⟨rest, cursor.position.after character⟩ count

def startsWith (cursor : Cursor) (text : String) : Bool :=
  text.toList.isPrefixOf cursor.rest

def startsWithSpace (cursor : Cursor) : Bool :=
  match cursor.rest with
  | [] => false
  | character :: _ => isSpace character

/-- The longest run of characters with property `keeps`, and the cursor after it. -/
def takeWhile (cursor : Cursor) (keeps : Char → Bool) : List Char × Cursor :=
  let taken := cursor.rest.takeWhile keeps
  (taken, cursor.drop taken.length)

def skipSpaces (cursor : Cursor) : Cursor := (cursor.takeWhile isSpace).2

def current (cursor : Cursor) : Except Fault Char :=
  match cursor.rest with
  | [] => .error .unexpectedEnd
  | character :: _ => .ok character

def expect (cursor : Cursor) (expected : Char) : Except Fault Cursor := do
  let actual ← cursor.current
  if actual = expected then return cursor.drop 1
  else throw (.expectedCharacter expected actual cursor.position)

def expectText (cursor : Cursor) (expected : String) : Except Fault Cursor :=
  if cursor.startsWith expected then .ok (cursor.drop expected.length)
  else .error (.expectedText expected cursor.position)

def expectSpaces (cursor : Cursor) : Except Fault Cursor := do
  let actual ← cursor.current
  if isSpace actual then return cursor.skipSpaces
  else throw (.expectedKind "a whitespace" actual cursor.position)

def expectQuote (cursor : Cursor) : Except Fault (Char × Cursor) := do
  let actual ← cursor.current
  if actual = '\'' ∨ actual = '\"' then return (actual, cursor.drop 1)
  else throw (.expectedKind "a quote" actual cursor.position)

def expectEquals (cursor : Cursor) : Except Fault Cursor := do
  return (← cursor.skipSpaces.expect '=').skipSpaces

/-- The characters up to where `stops` holds of the rest, or to the end, all of which must be
characters of documents. -/
def takeUntil (stops : List Char → Bool) : List Char → Position → Except Fault (List Char × Cursor)
  | [], position => .ok ([], ⟨[], position⟩)
  | character :: rest, position =>
    if !isDocumentCharacter character then .error (.invalidCharacter character position)
    else if stops (character :: rest) then .ok ([], ⟨character :: rest, position⟩)
    else do
      let (taken, next) ← takeUntil stops rest (position.after character)
      return (character :: taken, next)

def takeUntilText (cursor : Cursor) (mark : String) : Except Fault (List Char × Cursor) :=
  takeUntil (fun rest => mark.toList.isPrefixOf rest) cursor.rest cursor.position

def takeUntilCharacter (cursor : Cursor) (stops : Char → Bool) :
    Except Fault (List Char × Cursor) :=
  takeUntil (fun rest => (rest.head?.map stops).getD false) cursor.rest cursor.position

/-! ## Names -/

/-- Takes a name, colons included. -/
def expectName (cursor : Cursor) : Except Fault (String × Cursor) :=
  match cursor.rest with
  | [] => .error (.invalidName cursor.position)
  | character :: _ =>
    if isNameStart character then
      let (name, next) := cursor.takeWhile isNameCharacter
      .ok (String.ofList name, next)
    else .error (.invalidName cursor.position)

/-- The cursor after a name, which may be missing at the end of the text. -/
def skipName (cursor : Cursor) : Except Fault Cursor := do
  if cursor.rest.isEmpty then return cursor
  let (_, next) ← cursor.expectName
  return next

def beginsName (text : List Char) : Bool :=
  match text with
  | [] => false
  | character :: _ => isNameStart character

/-- Takes a name with at most one colon: the qualifier before it, empty if there is none, and the
local name after it, which must not be empty. -/
def expectQualifiedName (cursor : Cursor) : Except Fault (String × String × Cursor) :=
  let (name, next) := cursor.takeWhile isNameCharacter
  let before := name.takeWhile (· != ':')
  match name.dropWhile (· != ':') with
  | [] =>
    if beginsName name then .ok ("", String.ofList name, next)
    else .error (.invalidName cursor.position)
  | _ :: after =>
    if !after.contains ':' && (before.isEmpty || beginsName before) && beginsName after then
      .ok (String.ofList before, String.ofList after, next)
    else .error (.invalidName cursor.position)

end Cursor

end SchemaContent.Xml
