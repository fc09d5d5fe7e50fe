import SchemaContent.Xml.Cursor

/-! # Tokens of markup

A document is read in two steps: its text gives tokens, and the tokens give the tree. Reading tokens
may fail; the tokens before the failure are kept, so that a fault in one of them is reported first.
Comments, processing instructions and character data sections are checked and leave no token.
-/

namespace SchemaContent.Xml

/-- A piece of markup that matters to the tree. Values and character data are given as cursors into
the document, since the references in them are still to be replaced. -/
inductive Token where
  | startTag (qualifier localName : String) (position : Position)
  | attribute (qualifier localName : String) (value : Cursor) (position : Position)
  | opened
  | closedAtOnce
  | endTag (qualifier localName : String) (position : Position)
  | text (content : Cursor)
  | entity (name : String) (value : Cursor)
deriving DecidableEq, Repr

/-- The outcome of reading tokens: those that were read, and a result or the fault that stopped the
reading. -/
structure Scan (α : Type) where
  tokens : List Token
  result : Except Fault α

namespace Scan

def andThen {α β : Type} (first : Scan α) (next : α → Scan β) : Scan β :=
  match first.result with
  | .error fault => ⟨first.tokens, .error fault⟩
  | .ok value => ⟨first.tokens ++ (next value).tokens, (next value).result⟩

instance : Monad Scan where
  pure value := ⟨[], .ok value⟩
  bind := andThen

instance : MonadLift (Except Fault) Scan where
  monadLift result := ⟨[], result⟩

def emit (token : Token) : Scan Unit := ⟨[token], .ok ()⟩

def stop {α : Type} (fault : Fault) : Scan α := ⟨[], .error fault⟩

end Scan

namespace Cursor

/-- Takes a quoted value; it may hold any document character but `<`. -/
def expectValue (cursor : Cursor) : Except Fault (Cursor × Cursor) := do
  let (mark, inside) ← cursor.expectQuote
  let (value, next) ← inside.takeUntilCharacter fun character =>
    character == mark || character == '<'
  return (⟨value, inside.position⟩, ← next.expect mark)

def expectAttribute (cursor : Cursor) :
    Except Fault (String × String × Cursor × Cursor) := do
  let (qualifier, localName, afterName) ← cursor.expectQualifiedName
  let (value, next) ← (← afterName.expectEquals).expectValue
  return (qualifier, localName, value, next)

def expectLiteral (cursor : Cursor) : Except Fault (Cursor × Cursor) := do
  let (mark, inside) ← cursor.expectQuote
  let (literal, next) := inside.takeWhile (· != mark)
  return (⟨literal, inside.position⟩, ← next.expect mark)

/-! ## Comments, processing instructions and sections -/

/-- Takes a comment, which must not contain two dashes or end in one. -/
def expectComment (cursor : Cursor) : Except Fault Cursor := do
  let (text, atEnd) ← (cursor.drop 4).takeUntilText "-->"
  let next ← atEnd.expectText "-->"
  if (text.zip text.tail).contains ('-', '-') || text.getLast? == some '-' then
    throw (.dashesInComment cursor.position)
  else return next

/-- Takes a processing instruction. An XML declaration is none. -/
def expectInstruction (cursor : Cursor) : Except Fault Cursor := do
  if cursor.startsWith "<?xml " then throw (.lateDeclaration cursor.position)
  let (_, afterName) ← (cursor.drop 2).expectName
  let (_, atEnd) ← afterName.skipSpaces.takeUntilText "?>"
  atEnd.expectText "?>"

def expectSection (cursor : Cursor) : Except Fault Cursor := do
  let (_, atEnd) ← (cursor.drop 9).takeUntilText "]]>"
  atEnd.expectText "]]>"

end Cursor

namespace Scan

def miscellaneous (cursor : Cursor) : Except Fault Cursor := do
  let here := cursor.skipSpaces
  if here.startsWith "<!--" then
    let next ← here.expectComment
    if next.rest.length < cursor.rest.length then miscellaneous next else return next
  else if here.startsWith "<?" then
    let next ← here.expectInstruction
    if next.rest.length < cursor.rest.length then miscellaneous next else return next
  else return here
termination_by cursor.rest.length

/-! ## Elements -/

/-- The attributes of a start tag and its end. The result tells whether the element was opened, or
closed at once. A text that ends here is left to whoever misses the end of the tag. -/
def attributes (cursor : Cursor) : Scan (Bool × Cursor) :=
  let here := cursor.skipSpaces
  match cursor.rest, here.rest with
  | [], _ => pure (false, cursor)
  | _, [] => stop .unexpectedEnd
  | _, '/' :: _ => do
    let next ← (here.drop 1).expect '>'
    emit .closedAtOnce
    return (false, next)
  | _, '>' :: _ => do
    emit .opened
    return (true, here.drop 1)
  | _, character :: _ =>
    if !cursor.startsWithSpace then
      stop (.expectedKind "a whitespace" character here.position)
    else do
      let (qualifier, localName, value, next) ← here.expectAttribute
      emit (.attribute qualifier localName value here.position)
      if next.rest.length < cursor.rest.length then attributes next
      else stop .unexpectedEnd
termination_by cursor.rest.length

def startTag (cursor : Cursor) : Scan (Bool × Cursor) := do
  let (qualifier, localName, next) ← (cursor.drop 1).expectQualifiedName
  emit (.startTag qualifier localName cursor.position)
  attributes next

def endTag (cursor : Cursor) : Scan Cursor := do
  let (qualifier, localName, next) ← (cursor.drop 2).expectQualifiedName
  let next ← next.skipSpaces.expect '>'
  emit (.endTag qualifier localName cursor.position)
  return next

def hasSectionEnd : List Char → Bool
  | [] => false
  | character :: rest => "]]>".toList.isPrefixOf (character :: rest) || hasSectionEnd rest

def characterData (cursor : Cursor) : Scan Cursor := do
  let (text, next) ← cursor.takeUntilCharacter (· == '<')
  if hasSectionEnd text then stop (.sectionEndInText next.position)
  else
    emit (.text ⟨text, cursor.position⟩)
    return next

/-- What stands at a cursor inside an element, and by how many levels it changes the depth: one more
for a start tag that opens, one less for an end tag. -/
def contentItem (cursor : Cursor) : Scan (Int × Cursor) :=
  match cursor.rest with
  | '<' :: '!' :: _ =>
    if cursor.startsWith "<!--" then do return (0, ← cursor.expectComment)
    else if cursor.startsWith "<![CDATA[" then do return (0, ← cursor.expectSection)
    else stop (.unknownToken cursor.position)
  | '<' :: '?' :: _ => do return (0, ← cursor.expectInstruction)
  | '<' :: '/' :: _ => do return (-1, ← endTag cursor)
  | '<' :: _ :: _ => do
    let (opens, next) ← startTag cursor
    return (if opens then 1 else 0, next)
  | ['<'] => stop (.unknownToken cursor.position)
  | _ => do return (0, ← characterData cursor)

/-- Content up to the end tag that closes it, or to the end of the text. `depth` elements are open
inside it. -/
def content (depth : Nat) (cursor : Cursor) : Scan Cursor :=
  if cursor.rest.isEmpty then pure cursor
  else do
    let (change, next) ← contentItem cursor
    if depth = 0 ∧ change < 0 then return next
    else if next.rest.length < cursor.rest.length then
      content (depth + change).toNat next
    else return next
termination_by cursor.rest.length

/-! ## The parts before the root element -/

/-- The XML declaration: the version, and then the encoding and the standalone mark if they are given.
Blanks stand after the first two, but after the standalone mark the declaration has to end. -/
def declaration (cursor : Cursor) : Except Fault Cursor := do
  let next ← blanks (cursor.drop 5)
  if !next.startsWith "version" then next.expectText "version"
  else
    let next ← blanks (← skipAttribute next)
    let next ← if next.startsWith "encoding" then skipAttribute next >>= blanks else pure next
    let next ← if next.startsWith "standalone" then skipAttribute next else pure next
    next.skipSpaces.expectText "?>"
where
  skipAttribute (cursor : Cursor) : Except Fault Cursor := do
    let (_, _, _, next) ← cursor.expectAttribute
    return next
  blanks (cursor : Cursor) : Except Fault Cursor :=
    match cursor.rest with
    | [] => .ok cursor
    | character :: _ =>
      if isSpace character then .ok cursor.skipSpaces
      else if cursor.startsWith "?>" then .ok cursor
      else .error (.expectedKind "a whitespace" character cursor.position)

def externalId (cursor : Cursor) : Except Fault (Bool × Cursor) := do
  if cursor.startsWith "SYSTEM" then
    let (_, next) ← (← (cursor.drop 6).expectSpaces).expectLiteral
    return (true, next)
  else if cursor.startsWith "PUBLIC" then
    let (_, next) ← (← (cursor.drop 6).expectSpaces).expectLiteral
    let (_, next) ← (← next.expectSpaces).expectLiteral
    return (true, next)
  else return (false, cursor)

/-- The definition of an entity: its replacement text, or none for an external one. -/
def entityDefinition (general : Bool) (cursor : Cursor) :
    Except Fault (Option Cursor × Cursor) := do
  let character ← cursor.current
  if character = '\"' ∨ character = '\'' then
    let (value, next) ← cursor.expectLiteral
    return (some value, next)
  else if character = 'S' ∨ character = 'P' then
    let (found, next) ← externalId cursor
    if !found then throw (.invalidExternalId next.position)
    else if general && next.skipSpaces.startsWith "NDATA" then
      return (none, ← (← (next.skipSpaces.drop 5).expectSpaces).skipName)
    else return (none, if general then next.skipSpaces else next)
  else throw (.expectedKind "a quote, SYSTEM or PUBLIC" character cursor.position)

def entityDeclaration (cursor : Cursor) : Scan Cursor := do
  let next ← (cursor.drop 8).expectSpaces
  let general := !next.startsWith "%"
  let next ← if general then pure next else (next.drop 1).expectSpaces
  let (name, next) ← next.expectName
  let next ← next.expectSpaces
  let (value, next) ← entityDefinition general next
  match value with
  | some value => emit (.entity name value)
  | none => pure ()
  next.skipSpaces.expect '>'

/-- The declarations of the document type up to its end. Declarations other than those of entities
are passed over. `start` is where the document type declaration begins. -/
def internalSubset (start : Position) (cursor : Cursor) : Scan Cursor :=
  if cursor.rest.isEmpty then pure cursor
  else
    let here := cursor.skipSpaces
    let again (next : Cursor) : Scan Cursor :=
      if next.rest.length < cursor.rest.length then internalSubset start next else pure next
    if here.startsWith "<!ENTITY" then do again (← entityDeclaration here)
    else if here.startsWith "<!--" then do again (← here.expectComment)
    else if here.startsWith "<?" then do again (← here.expectInstruction)
    else if here.startsWith "]" then
      let last := (here.drop 1).skipSpaces
      match last.rest with
      | [] => stop .unexpectedEnd
      | '>' :: _ => pure (last.drop 1)
      | character :: _ => stop (.expectedKind "'>'" character last.position)
    else if here.startsWith "<!ELEMENT" || here.startsWith "<!ATTLIST" ||
        here.startsWith "<!NOTATION" then
      let atEnd := (here.takeWhile (· != '>')).2
      match atEnd.rest with
      | [] => stop (.unknownToken start)
      | _ => again (atEnd.drop 1)
    else stop (.unknownToken here.position)
termination_by cursor.rest.length

def documentType (cursor : Cursor) : Scan Cursor := do
  let next ← (← (cursor.drop 9).expectSpaces).skipName
  let (_, next) ← externalId next.skipSpaces
  let next := next.skipSpaces
  let character ← next.current
  if character = '>' then return next.drop 1
  else if character = '[' then internalSubset cursor.position (next.drop 1)
  else stop (.expectedKind "'[' or '>'" character next.position)

/-! ## Documents -/

def document (allowDoctype : Bool) (text : String) : Scan Cursor := do
  let first := Cursor.ofText text
  let first := if first.startsWith "\ufeff" then first.drop 1 else first
  let next ← if first.startsWith "<?xml " then declaration first else pure first
  let next := (← miscellaneous next).skipSpaces
  let next ← if !next.startsWith "<!DOCTYPE" then pure next
    else if allowDoctype then do
      let afterType ← documentType next
      let after ← miscellaneous afterType
      pure after.skipSpaces
    else stop .doctypeNotAllowed
  let next ← if !next.startsWith "<" then pure next
    else do
      let (opens, afterTag) ← startTag next
      if opens then content 0 afterTag else pure afterTag
  let last ← miscellaneous next
  match last.rest with
  | [] => return last
  | _ => stop (.unknownToken last.position)

end Scan

end SchemaContent.Xml
