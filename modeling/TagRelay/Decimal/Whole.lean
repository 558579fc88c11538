import TagRelay.Text.Blank

/-!
# Whole numbers in decimal

A whole number is written with as many digits as it needs, and a negative one
with a minus sign.  Reading accepts either sign and leading zeros; a signed
64-bit number is read only when it is in range.
-/

namespace TagRelay.Decimal

def digits (n : Nat) : List Char := Nat.toDigits 10 n

def wholeText (n : Int) : String :=
  if n < 0 then String.ofList ('-' :: digits n.natAbs) else String.ofList (digits n.natAbs)

/-- The number that a text of digits, at least one, stands for. -/
def readDigits (text : List Char) : Option Nat :=
  if text ≠ [] ∧ text.all Char.isDigit then some (Nat.ofDigitChars 10 text 0) else none

def readWhole (text : List Char) : Option Int :=
  match text with
  | '-' :: rest => (readDigits rest).map fun n => -(n : Int)
  | '+' :: rest => (readDigits rest).map Int.ofNat
  | rest => (readDigits rest).map Int.ofNat

/-- The signed 64-bit number with this value, when there is one. -/
def fitInt64 (n : Int) : Option Int64 :=
  if -(Nat.pow 2 63 : Int) ≤ n ∧ n < Nat.pow 2 63 then some (Int64.ofInt n) else none

def readInt64 (text : String) : Option Int64 := (readWhole text.toList).bind fitInt64

/-- The digits of a number below `10 ^ width`, filled up with zeros in front. -/
def padded (width n : Nat) : String :=
  let text := digits n
  String.ofList (List.replicate (width - text.length) '0' ++ text)

end TagRelay.Decimal
