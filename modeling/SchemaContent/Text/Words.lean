import SchemaContent.Text.Alphanumeric
import SchemaContent.Text.LetterCase

/-! # Pieces and words

A text is cut at separators, at every one of them or into the runs between them. There are two notions
of blank: the characters with the property White_Space, which surround an attribute value without
belonging to it, and the five ASCII blanks, which separate the items of a list.

A name is split into words at every character that is neither letter nor numeral, and inside the
remaining pieces where letter case shows a border: between a small letter and a capital (`itemCode`),
and before the last capital of a run that a small letter follows (`XMLText`). The words make up the
spellings `UpperCamelCase` and `snake_case`.
-/

namespace SchemaContent.Text

/-! ## Blanks -/

def isBlank (character : Char) : Bool :=
  let code := character.toNat
  (9 ≤ code && code ≤ 13) || code == 0x20 || code == 0x85 || code == 0xA0 || code == 0x1680 ||
    (0x2000 ≤ code && code ≤ 0x200A) || code == 0x2028 || code == 0x2029 || code == 0x202F ||
    code == 0x205F || code == 0x3000

def isListSeparator (character : Char) : Bool :=
  let code := character.toNat
  code == 0x20 || code == 0x09 || code == 0x0A || code == 0x0C || code == 0x0D

def trim (text : List Char) : List Char :=
  ((text.dropWhile isBlank).reverse.dropWhile isBlank).reverse

example : trim [' ', 'a', ' ', 'b', '\n'] = ['a', ' ', 'b'] := by decide

/-! ## Pieces -/

/-- The text cut at every separator; neighbouring separators leave an empty piece between them. -/
def cut (separates : Char → Bool) : List Char → List (List Char)
  | [] => [[]]
  | character :: rest =>
    if separates character then [] :: cut separates rest
    else
      match cut separates rest with
      | [] => [[character]]
      | piece :: pieces => (character :: piece) :: pieces

theorem cut_ne_nil (separates : Char → Bool) (text : List Char) : cut separates text ≠ [] := by
  cases text with
  | nil => nofun
  | cons =>
    simp only [cut]
    split
    · nofun
    · split <;> nofun

/-- The maximal runs of characters that are not separators, in order. -/
def pieces (separates : Char → Bool) (text : List Char) : List (List Char) :=
  (cut separates text).filter fun piece => !piece.isEmpty

example : cut (· == '/') ['a', '/', '/', 'b'] = [['a'], [], ['b']] := by decide

example : pieces (· == ' ') [' ', 'a', 'b', ' ', ' ', 'c'] = [['a', 'b'], ['c']] := by decide

/-! ## Words -/

/-- The case of the last cased character of the word being read. -/
inductive WordCase where
  | uncased
  | small
  | capital
deriving DecidableEq, Repr

def WordCase.after (wordCase : WordCase) (character : Char) : WordCase :=
  if isLowercase character then .small
  else if isUppercase character then .capital
  else wordCase

/-- The words of a piece without separators. `current` holds the characters of the word being read,
last one first, and `wordCase` the case of its last cased character. -/
def splitAtCase (current : List Char) (wordCase : WordCase) : List Char → List (List Char)
  | [] => []
  | [character] => [(character :: current).reverse]
  | character :: next :: rest =>
    if wordCase.after character = .small ∧ isUppercase next then
      (character :: current).reverse :: splitAtCase [] .uncased (next :: rest)
    else if wordCase = .capital ∧ isUppercase character ∧ isLowercase next then
      current.reverse :: splitAtCase [character] .uncased (next :: rest)
    else
      splitAtCase (character :: current) (wordCase.after character) (next :: rest)

/-- The words of a name, in order. None of them is empty. -/
def words (name : String) : List (List Char) :=
  (pieces (fun character => !isAlphanumeric character) name.toList).flatMap
    (splitAtCase [] .uncased)

/-- A word in small letters. A capital sigma at the end of the word takes its final form. -/
def lowercaseWord : List Char → List Char
  | [] => []
  | ['Σ'] => ['ς']
  | character :: rest => toLowercase character ++ lowercaseWord rest

def capitalizeWord : List Char → List Char
  | [] => []
  | character :: rest => toUppercase character ++ lowercaseWord rest

def upperCamelCase (name : String) : String :=
  String.ofList ((words name).flatMap capitalizeWord)

def snakeCase (name : String) : String :=
  String.ofList (List.intercalate ['_'] ((words name).map lowercaseWord))

example : upperCamelCase "XMLHttp_request-2go" = "XmlHttpRequest2go" := by decide +kernel

example : snakeCase "XMLHttp_request-2go" = "xml_http_request_2go" := by decide +kernel

end SchemaContent.Text
