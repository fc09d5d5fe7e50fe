/-! # Occurrence bounds

How often a particle may occur. Both bounds may be left out of a document, and then mean one.
-/

namespace SchemaContent

/-- An upper bound: none, or a count. Counts are 64-bit words, as in the documents' own limit. -/
inductive MaxOccurs where
  | unbounded
  | count (number : UInt64)
deriving DecidableEq, Repr

def MaxOccurs.text : MaxOccurs → String
  | .unbounded => "unbounded"
  | .count number => toString number.toNat

structure Occurrence where
  min : Option UInt64
  max : Option MaxOccurs
deriving DecidableEq, Repr

namespace Occurrence

def unstated : Occurrence := ⟨none, none⟩

def effectiveMin (occurrence : Occurrence) : UInt64 :=
  occurrence.min.getD 1

def effectiveMax (occurrence : Occurrence) : MaxOccurs :=
  occurrence.max.getD (.count 1)

def isOptional (occurrence : Occurrence) : Bool :=
  occurrence.effectiveMin == 0

def isRepeated (occurrence : Occurrence) : Bool :=
  match occurrence.effectiveMax with
  | .unbounded => true
  | .count number => 1 < number

def range (occurrence : Occurrence) : String :=
  "[" ++ toString occurrence.effectiveMin.toNat ++ ".." ++ occurrence.effectiveMax.text ++ "]"

end Occurrence

/-! ## Reading counts -/

/-- The value of a row of decimal digits, most significant first, read after `value`. -/
def decimalValue (value : Nat) : List Char → Nat
  | [] => value
  | digit :: rest => decimalValue (value * 10 + (digit.toNat - '0'.toNat)) rest

/-- The digits of a count: what follows an optional plus sign. -/
def unsignedDigits : List Char → List Char
  | '+' :: rest => rest
  | digits => digits

/-- Reads a count: an optional plus sign and one or more ASCII digits whose value fits a 64-bit
word. -/
def readCount (text : List Char) : Option UInt64 :=
  let digits := unsignedDigits text
  let value := decimalValue 0 digits
  if !digits.isEmpty && digits.all Char.isDigit && value < UInt64.size then
    some (UInt64.ofNat value)
  else
    none

/-- Reads an upper bound: the word `unbounded` or a count. -/
def readMaxOccurs (text : List Char) : Option MaxOccurs :=
  if text = "unbounded".toList then some .unbounded else (readCount text).map .count

example : readCount "+007".toList = some 7 := by decide +kernel

example : readCount "18446744073709551616".toList = none := by decide +kernel

end SchemaContent
