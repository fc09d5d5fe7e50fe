import SchemaContent.Text.Quoted

/-! # Faults in a document's markup

Why a text is not the document it should be, and where that was noticed.
-/

namespace SchemaContent.Xml

/-- A place in a text, counted from one; a column is a character. -/
structure Position where
  row : Nat
  column : Nat
deriving DecidableEq, Repr

namespace Position

def start : Position := ⟨1, 1⟩

def after (position : Position) (character : Char) : Position :=
  if character = '\n' then ⟨position.row + 1, 1⟩ else ⟨position.row, position.column + 1⟩

def text (position : Position) : String :=
  toString position.row ++ ":" ++ toString position.column

end Position

/-- What can be wrong with the markup of a document. -/
inductive Fault where
  | doctypeNotAllowed
  | noRoot
  | unclosedRoot
  | unexpectedEnd
  | unknownToken (position : Position)
  | lateDeclaration (position : Position)
  | invalidName (position : Position)
  | invalidCharacter (character : Char) (position : Position)
  | expectedCharacter (expected actual : Char) (position : Position)
  | expectedKind (expected : String) (actual : Char) (position : Position)
  | expectedText (expected : String) (position : Position)
  | invalidExternalId (position : Position)
  | dashesInComment (position : Position)
  | sectionEndInText (position : Position)
  | reservedQualifierRebound (position : Position)
  | xmlNamespaceRebound (position : Position)
  | declarationNamespaceBound (position : Position)
  | declarationQualifierOnElement (position : Position)
  | duplicateBinding (qualifier : String) (position : Position)
  | unboundQualifier (qualifier : String) (position : Position)
  | duplicateAttribute (localName : String) (position : Position)
  | mismatchedEndTag (expected actual : String) (position : Position)
  | endTagInEntity (position : Position)
  | endTagOutside (position : Position)
  | malformedReference (position : Position)
  | unknownEntity (name : String) (position : Position)
  | entityLoop (position : Position)
  | markupInAttribute (position : Position)
deriving DecidableEq, Repr

/-- What a fault shows of a character that stands where another was expected: the first byte of its
UTF-8 form, as the character with that code. ASCII characters are shown as they are. -/
def firstByte (character : Char) : Char :=
  match String.utf8EncodeChar character with
  | byte :: _ => Char.ofNat byte.toNat
  | [] => character

example : firstByte 'a' = 'a' ∧ firstByte 'é' = 'Ã' := by decide +kernel

def Fault.message : Fault → String
  | .doctypeNotAllowed => "XML with DTD detected"
  | .noRoot => "the document does not have a root node"
  | .unclosedRoot => "the root node was opened but never closed"
  | .unexpectedEnd => "unexpected end of stream"
  | .unknownToken position => "unknown token at " ++ position.text
  | .lateDeclaration position => "unexpected XML declaration at " ++ position.text
  | .invalidName position => "invalid name token at " ++ position.text
  | .invalidCharacter character position =>
    "a non-XML character '" ++ String.ofList (Text.escape character) ++ "' found at " ++
      position.text
  | .expectedCharacter expected actual position =>
    "expected '" ++ expected.toString ++ "' not '" ++ (firstByte actual).toString ++ "' at " ++
      position.text
  | .expectedKind expected actual position =>
    "expected " ++ expected ++ " not '" ++ (firstByte actual).toString ++ "' at " ++ position.text
  | .expectedText expected position => "expected '" ++ expected ++ "' at " ++ position.text
  | .invalidExternalId position => "invalid ExternalID at " ++ position.text
  | .dashesInComment position => "comment at " ++ position.text ++ " contains '--'"
  | .sectionEndInText position =>
    "']]>' at " ++ position.text ++ " is not allowed inside a character data"
  | .reservedQualifierRebound position =>
    "'xml' namespace prefix mapped to wrong URI at " ++ position.text
  | .xmlNamespaceRebound position =>
    "the 'xml' namespace URI is used for not 'xml' prefix at " ++ position.text
  | .declarationNamespaceBound position =>
    "the 'xmlns' URI is used at " ++ position.text ++ ", but it must not be declared"
  | .declarationQualifierOnElement position =>
    "the 'xmlns' prefix is used at " ++ position.text ++ ", but it must not be"
  | .duplicateBinding qualifier position =>
    "namespace '" ++ qualifier ++ "' at " ++ position.text ++ " is already defined"
  | .unboundQualifier qualifier position =>
    "an unknown namespace prefix '" ++ qualifier ++ "' at " ++ position.text
  | .duplicateAttribute localName position =>
    "attribute '" ++ localName ++ "' at " ++ position.text ++ " is already defined"
  | .mismatchedEndTag expected actual position =>
    "expected '" ++ expected ++ "' tag, not '" ++ actual ++ "' at " ++ position.text
  | .endTagInEntity position => "unexpected close tag at " ++ position.text
  | .endTagOutside position => "close tag outside of any element at " ++ position.text
  | .malformedReference position => "malformed entity reference at " ++ position.text
  | .unknownEntity name position =>
    "unknown entity reference '" ++ name ++ "' at " ++ position.text
  | .entityLoop position =>
    "a possible entity reference loop is detected at " ++ position.text
  | .markupInAttribute position => "unescaped '<' found at " ++ position.text

end SchemaContent.Xml
