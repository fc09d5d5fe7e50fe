import SchemaContent.Declarations.Generation

/-! # Output

The forms in which content models can be written, and the words that choose them. One is a listing: a
line with the name of the owner, and below it a line for each member, indented by its depth, with its
name, type and bounds. Members of an inline type follow their element, one level deeper.
-/

namespace SchemaContent.Listing

def typeLabel : MemberType → String
  | .builtin name => "xs:" ++ name.localName
  | .simple name => name.text
  | .complex name => name.text
  | .anonymousSimple => "(anonymous simple type)"
  | .anonymousComplex element => "(anonymous type of " ++ element.text ++ ")"
  | .inline _ => "(inline)"

def ownerLabel (owner : Owner) : String :=
  match owner.name? with
  | some name => name.text
  | none => "(global)"

/-- The blanks at the beginning of a line at this depth. -/
def indentation : Nat → String
  | 0 => ""
  | depth + 1 => "  " ++ indentation depth

def memberLine (depth : Nat) (name : ExpandedName) (type : MemberType)
    (occurrence : Occurrence) : String :=
  indentation depth ++ name.text ++ ": " ++ typeLabel type ++ " " ++ occurrence.range

mutual

/-- The lines of a member and of the members inside its type. -/
def memberLines (depth : Nat) : Member → List String
  | ⟨name, _, type, occurrence, _⟩ =>
    memberLine depth name type occurrence ::
      match type with
      | .inline members => membersLines (depth + 1) members
      | _ => []

def membersLines (depth : Nat) : List Member → List String
  | [] => []
  | member :: rest => memberLines depth member ++ membersLines depth rest

end

def modelLines (model : ContentModel) : List String :=
  ownerLabel model.owner :: membersLines 1 model.members

/-- The listing of content models. Every line ends with a line feed. -/
def text (models : List ContentModel) : String :=
  String.join ((models.flatMap modelLines).map (· ++ "\n"))

end SchemaContent.Listing

/-! ## Formats -/

namespace SchemaContent

/-- What content models are written as: declarations of a program, or a listing. -/
inductive OutputFormat where
  | declarations
  | listing
deriving DecidableEq, Repr

namespace OutputFormat

def standard : OutputFormat := .declarations

def word : OutputFormat → String
  | .declarations => "rust"
  | .listing => "listing"

/-- The format that a word chooses. -/
def ofWord? (word : String) : Option OutputFormat :=
  [declarations, listing].find? fun format => format.word = word

theorem ofWord?_word (format : OutputFormat) : ofWord? format.word = some format := by
  cases format <;> decide +kernel

/-- Writes content models. Only declarations can fail, on a name that is no identifier. -/
def write (format : OutputFormat) (models : List ContentModel) :
    Except Declarations.InvalidIdentifier String :=
  match format with
  | .declarations => Declarations.text models
  | .listing => .ok (Listing.text models)

end OutputFormat

end SchemaContent
