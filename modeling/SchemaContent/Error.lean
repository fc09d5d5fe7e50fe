import SchemaContent.Name
import SchemaContent.Text.Quoted
import SchemaContent.Xml.Fault

/-! # Errors

What can go wrong between a schema document and its content models, each with the facts that explain
it, and the wording in one place.
-/

namespace SchemaContent

/-- Why a file that may exist could not be read as a text. -/
inductive ReadFailure where
  | isDirectory
  | notDirectory
  | nameTooLong
  | containsNul
  | notText
deriving DecidableEq, Repr

def ReadFailure.message : ReadFailure → String
  | .isDirectory => "Is a directory (os error 21)"
  | .notDirectory => "Not a directory (os error 20)"
  | .nameTooLong => "File name too long (os error 36)"
  | .containsNul => "file name contained an unexpected NUL byte"
  | .notText => "stream did not contain valid UTF-8"

/-- Why a document could not be found. -/
inductive ImportError where
  | unsupported
  | notFound (location : String)
  | unreadable (failure : ReadFailure)
deriving DecidableEq, Repr

namespace ImportError

def message : ImportError → String
  | .unsupported => "the resolver does not support the import"
  | .notFound location => "no schema found at " ++ Text.quote location
  | .unreadable _ => "failed to read the schema"

def causes : ImportError → List String
  | .unreadable failure => [failure.message]
  | _ => []

end ImportError

/-- What can be wrong with schema documents. -/
inductive SchemaError where
  | unboundQualifier (qualifier : String)
  | namespaceWithoutQualifier (target : Option String) (uri : String)
  | unresolvedReference (reference : Reference) (name : ExpandedName)
  | unresolvedType (name : ExpandedName)
  | missingAttribute (element name : String)
  | invalidAttribute (name value : String)
  | unexpectedElement (tag : String)
  | importOfOwnNamespace (uri : String)
  | importWithoutNamespace
  | notWellFormed (fault : Xml.Fault)
  | notLoaded (location : String) (cause : ImportError)
deriving DecidableEq, Repr

namespace SchemaError

def message : SchemaError → String
  | .unboundQualifier qualifier =>
    "failed to resolve prefix " ++ Text.quote qualifier ++ " to a namespace URI"
  | .namespaceWithoutQualifier target uri =>
    "schema with target namespace " ++ Text.quoteOption target ++ " has no prefix bound to " ++
      Text.quote uri
  | .unresolvedReference reference name =>
    "element reference " ++ reference.text ++ " (" ++ name.text ++ ") has no top-level declaration"
  | .unresolvedType name =>
    "type " ++ name.text ++ " is neither a built-in nor a declared type"
  | .missingAttribute element name =>
    "<" ++ element ++ "> is missing the " ++ name ++ " attribute"
  | .invalidAttribute name value =>
    "invalid value " ++ Text.quote value ++ " for attribute " ++ name
  | .unexpectedElement tag => "<" ++ tag ++ "> is not allowed here"
  | .importOfOwnNamespace uri =>
    "import of namespace " ++ Text.quote uri ++
      " matches the importing schema's target namespace"
  | .importWithoutNamespace =>
    "import without a namespace in a schema without a target namespace"
  | .notWellFormed _ => "failed to parse schema document"
  | .notLoaded location _ => "failed to load schema " ++ Text.quote location

def causes : SchemaError → List String
  | .notWellFormed fault => [fault.message]
  | .notLoaded _ cause => cause.message :: cause.causes
  | _ => []

end SchemaError

end SchemaContent
