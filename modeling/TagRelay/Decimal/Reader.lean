import TagRelay.Decimal.Whole

/-!
# Reading floating-point numbers

A decimal text stands for the floating-point number nearest to it, ties to even.
Either side of the point may be empty but not both, an exponent may follow, and the
names of infinity and of the value that is no number are read in any letter case.
-/

namespace TagRelay.Decimal

/-- The digits at the front of a text, and the rest. -/
def spanDigits (text : List Char) : List Char × List Char := text.span Char.isDigit

/-- The whole number nearest to a quotient, of two equally near ones the even one. -/
def roundedQuotient (num den : Nat) : Nat :=
  let quotient := num / den
  let rest := 2 * (num % den)
  if rest < den then quotient
  else if den < rest then quotient + 1
  else quotient + quotient % 2

/-- How far to shift a quotient to the left so that its whole part has 53 bits.  The
smallest numbers of the type have fewer, since the shift stops at 1074. -/
def binaryShift (num den : Nat) : Int :=
  let shift : Int := 52 + den.log2 - num.log2
  let full : Bool :=
    if 0 ≤ shift then Nat.pow 2 52 * den ≤ num * Nat.pow 2 shift.toNat
    else Nat.pow 2 52 * den * Nat.pow 2 (-shift).toNat ≤ num
  min (if full then shift else shift + 1) 1074

/-- The floating-point number nearest to a positive quotient.  A carry out of the 53
bits goes into the exponent, and everything beyond the largest number is infinity. -/
def nearestQuotient (num den : Nat) : Float :=
  let shift := binaryShift num den
  let bits :=
    if 0 ≤ shift then roundedQuotient (num * Nat.pow 2 shift.toNat) den
    else roundedQuotient num (den * Nat.pow 2 (-shift).toNat)
  Float.ofBits (min ((1074 - shift).toNat * Nat.pow 2 52 + bits) (2047 * Nat.pow 2 52)).toUInt64

/-- The number `digits · 10 ^ exponent`.  No number of the type is near one whose
leading digit stands 400 places away from the point. -/
def nearest (digits : List Char) (exponent : Int) : Float :=
  let mantissa := Nat.ofDigitChars 10 digits 0
  let point := exponent + (Nat.toDigits 10 mantissa).length
  if mantissa = 0 then 0
  else if 400 < point then 1.0 / 0.0
  else if point < -400 then 0
  else if 0 ≤ exponent then nearestQuotient (mantissa * Nat.pow 10 exponent.toNat) 1
  else nearestQuotient mantissa (Nat.pow 10 (-exponent).toNat)

/-- An exponent after its letter: an optional sign and at least one digit. -/
def readExponent (text : List Char) : Option Int := readWhole text

/-- A number without sign. -/
def readMagnitude (text : List Char) : Option Float :=
  let (whole, rest) := spanDigits text
  let (fraction, rest) :=
    match rest with
    | '.' :: rest => spanDigits rest
    | rest => ([], rest)
  if whole.isEmpty ∧ fraction.isEmpty then none
  else
    match rest with
    | [] => some (nearest (whole ++ fraction) (-(fraction.length : Int)))
    | e :: rest =>
        if e = 'e' ∨ e = 'E' then
          (readExponent rest).map fun exponent =>
            nearest (whole ++ fraction) (exponent - fraction.length)
        else none

def readUnsigned (text : List Char) : Option Float :=
  match String.ofList (text.map Char.toLower) with
  | "inf" => some (1.0 / 0.0)
  | "infinity" => some (1.0 / 0.0)
  | "nan" => some (0.0 / 0.0)
  | _ => readMagnitude text

def readFloat (text : String) : Option Float :=
  match text.toList with
  | '-' :: rest => (readUnsigned rest).map fun x => -x
  | '+' :: rest => readUnsigned rest
  | rest => readUnsigned rest

end TagRelay.Decimal
