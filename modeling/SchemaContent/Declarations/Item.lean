import SchemaContent.Text.IdentifierCharacter

/-! # Items

The declarations that a generated file consists of: how their names are made free and become
identifiers, and how they are printed. A name that is taken already is varied until a free one is
found; the variants of a name are pairwise different, so among one more of them than there are taken
names, one is free. A leading digit gets an underscore before it, keywords are written raw, and the
four words that cannot be raw get an underscore after them.
-/

namespace SchemaContent.Declarations

/-! ## Fresh names -/

/-- The first of the variants that is not taken. -/
def firstFree (taken : List String) (variant : Nat → String) : String :=
  (((List.range (taken.length + 1)).map variant).find? fun name => !taken.contains name).getD
    (variant 0)

def innerVariant (base : String) : Nat → String
  | 0 => base
  | count + 1 => innerVariant base count ++ "Inner"

/-- The name, or with the number two after an underscore, the number three, and so on. -/
def numberedVariant (base : String) : Nat → String
  | 0 => base
  | count + 1 => base ++ "_" ++ toString (count + 2)

/-- Names in order, each varied by a number as far as earlier ones have taken it. -/
def numberApart (taken : List String) : List String → List String
  | [] => []
  | base :: rest =>
    let name := firstFree taken (numberedVariant base)
    name :: numberApart (name :: taken) rest

example : numberApart [] ["a", "a", "a_2"] = ["a", "a_2", "a_2_2"] := by decide +kernel

/-! ## Identifiers -/

/-- An identifier. A raw one is written with `r#` before it. -/
structure Identifier where
  text : String
  raw : Bool
deriving DecidableEq, Repr

def Identifier.spelling (identifier : Identifier) : String :=
  if identifier.raw then "r#" ++ identifier.text else identifier.text

structure InvalidIdentifier where
  text : String
deriving DecidableEq, Repr

/-- The words that cannot be raw identifiers. -/
def pathKeywords : List String := ["crate", "self", "super", "Self"]

/-- The other keywords, strict and reserved. -/
def keywords : List String := [
  "as", "break", "const", "continue", "else", "enum", "extern", "false", "fn", "for", "if", "impl",
  "in", "let", "loop", "match", "mod", "move", "mut", "pub", "ref", "return", "static", "struct",
  "trait", "true", "type", "unsafe", "use", "where", "while", "async", "await", "dyn", "abstract",
  "become", "box", "do", "final", "macro", "override", "priv", "typeof", "unsized", "virtual",
  "yield", "try"]

def isIdentifier : List Char → Bool
  | [] => false
  | first :: rest =>
    (first == '_' || Text.isIdentifierStart first) && rest.all Text.isIdentifierContinue

def plain (text : String) : Except InvalidIdentifier Identifier :=
  if isIdentifier text.toList then .ok ⟨text, false⟩ else .error ⟨text⟩

def beginsWithDigit (text : String) : Bool :=
  (text.toList.head?.map Char.isDigit).getD false

def identifierOf (name : String) : Except InvalidIdentifier Identifier :=
  if name.isEmpty then plain "_empty"
  else if beginsWithDigit name then plain ("_" ++ name)
  else if pathKeywords.contains name then plain (name ++ "_")
  else if keywords.contains name then .ok ⟨name, true⟩
  else plain name

/-! ## Declarations -/

inductive Multiplicity where
  | one
  | optional
  | many
deriving DecidableEq, Repr

/-- A public field. Its type is named by an identifier, inside `Option` or `Vec` as the multiplicity
says. -/
structure Field where
  name : Identifier
  multiplicity : Multiplicity
  type : Identifier
deriving DecidableEq, Repr

inductive Item where
  | alias (name : Identifier)
  | struct (name : Identifier) (fields : List Field)
deriving DecidableEq, Repr

def Item.name : Item → Identifier
  | .alias name => name
  | .struct name _ => name

/-! ## Printing -/

/-- The longest line, in bytes, that a field with a type argument may take. -/
def fieldWidth : Nat := 89

def Multiplicity.wrapper? : Multiplicity → Option String
  | .one => none
  | .optional => some "Option"
  | .many => some "Vec"

def Field.lines (field : Field) : List String :=
  let start := "    pub " ++ field.name.spelling ++ ": "
  match field.multiplicity.wrapper? with
  | none => [start ++ field.type.spelling ++ ","]
  | some wrapper =>
    let line := start ++ wrapper ++ "<" ++ field.type.spelling ++ ">,"
    if line.utf8ByteSize ≤ fieldWidth then [line]
    else [start ++ wrapper ++ "<", "        " ++ field.type.spelling ++ ",", "    >,"]

def Item.lines : Item → List String
  | .alias name => ["pub type " ++ name.spelling ++ " = String;"]
  | .struct name [] => ["#[derive(Debug)]", "pub struct " ++ name.spelling ++ " \x7b\x7d"]
  | .struct name fields =>
    ["#[derive(Debug)]", "pub struct " ++ name.spelling ++ " \x7b"] ++
      fields.flatMap Field.lines ++ ["\x7d"]

def headerLines : List String :=
  ["//!Generated by xcm-generator 0.1.0", "#![allow(dead_code)]"]

/-- A file with these items. Every line ends with a line feed. -/
def fileText (items : List Item) : String :=
  String.join ((headerLines ++ items.flatMap Item.lines).map (· ++ "\n"))

end SchemaContent.Declarations
