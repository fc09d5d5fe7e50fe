/-! # Names

A component is identified by its expanded name: a namespace and a local name. A document writes
references, whose qualifier means something only together with the document's bindings.
-/

namespace SchemaContent

/-- A namespace, or none, and a local name. The empty namespace differs from having none. -/
structure ExpandedName where
  uri : Option String
  localName : String
deriving DecidableEq, Repr

def ExpandedName.text (name : ExpandedName) : String :=
  match name.uri with
  | some uri => "\x7b" ++ uri ++ "\x7d:" ++ name.localName
  | none => name.localName

/-- A name as written in a document, such as `tns:Item` or `Item`. -/
structure Reference where
  qualifier : Option String
  localName : String
deriving DecidableEq, Repr

namespace Reference

def splitAtLastColon : List Char → Option (List Char × List Char)
  | [] => none
  | character :: rest =>
    match splitAtLastColon rest with
    | some (before, after) => some (character :: before, after)
    | none => if character = ':' then some ([], rest) else none

/-- Reads a reference: what stands before the last colon is the qualifier. -/
def parse (text : String) : Reference :=
  match splitAtLastColon text.toList with
  | some (before, after) => ⟨some (String.ofList before), String.ofList after⟩
  | none => ⟨none, text⟩

def text (reference : Reference) : String :=
  match reference.qualifier with
  | some qualifier => qualifier ++ ":" ++ reference.localName
  | none => reference.localName

example : parse "a:b:c" = ⟨some "a:b", "c"⟩ := by decide +kernel

end Reference

/-! ## Built-in types -/

def schemaNamespace : String := "http://www.w3.org/2001/XMLSchema"

/-- The namespace that the qualifier `xml` always stands for. -/
def xmlNamespace : String := "http://www.w3.org/XML/1998/namespace"

def builtinTypeNames : List String := [
  "anyType", "anySimpleType", "anyAtomicType", "error", "string", "boolean", "decimal", "float",
  "double", "duration", "dateTime", "time", "date", "gYearMonth", "gYear", "gMonthDay", "gDay",
  "gMonth", "hexBinary", "base64Binary", "anyURI", "QName", "NOTATION", "normalizedString",
  "token", "language", "NMTOKEN", "NMTOKENS", "Name", "NCName", "ID", "IDREF", "IDREFS", "ENTITY",
  "ENTITIES", "integer", "nonPositiveInteger", "negativeInteger", "long", "int", "short", "byte",
  "nonNegativeInteger", "unsignedLong", "unsignedInt", "unsignedShort", "unsignedByte",
  "positiveInteger", "yearMonthDuration", "dayTimeDuration", "dateTimeStamp"]

example : builtinTypeNames.length = 51 := rfl

/-- The type of a declaration that says nothing about its type. -/
def anyType : ExpandedName := ⟨some schemaNamespace, "anyType"⟩

def ExpandedName.isBuiltin (name : ExpandedName) : Bool :=
  name.uri == some schemaNamespace && builtinTypeNames.contains name.localName

end SchemaContent
