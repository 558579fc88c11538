import TagRelay.Decimal.Layout
import TagRelay.Decimal.Reader
import TagRelay.Json.Basic
import TagRelay.Text.Parts

/-!
# The words of JSON text

A text is a sequence of tokens with optional blanks between them.  Strings escape
only quotes, backslashes and control characters; escapes are read in all the forms
that the format allows, and two halves of a surrogate pair make one character.
-/

namespace TagRelay.Json

inductive Token where
  | openArray
  | closeArray
  | openObject
  | closeObject
  | comma
  | colon
  | null
  | bool (flag : Bool)
  | int (number : Int)
  | float (number : Float)
  | string (text : String)

def hexDigit (n : Nat) : Char := (Nat.digitChar (n % 16))

/-- A character inside a string. -/
def escaped (c : Char) : List Char :=
  if c = '"' then ['\\', '"']
  else if c = '\\' then ['\\', '\\']
  else if c.toNat = 0x08 then ['\\', 'b']
  else if c = '\t' then ['\\', 't']
  else if c = '\n' then ['\\', 'n']
  else if c.toNat = 0x0C then ['\\', 'f']
  else if c = '\r' then ['\\', 'r']
  else if c.toNat < 0x20 then
    ['\\', 'u', '0', '0', hexDigit (c.toNat / 16), hexDigit c.toNat]
  else [c]

def stringChars (text : String) : List Char :=
  ['"'] ++ text.toList.flatMap escaped ++ ['"']

def Token.chars : Token → List Char
  | .openArray => ['[']
  | .closeArray => [']']
  | .openObject => ['\x7b']
  | .closeObject => ['\x7d']
  | .comma => [',']
  | .colon => [':']
  | .null => ['n', 'u', 'l', 'l']
  | .bool true => ['t', 'r', 'u', 'e']
  | .bool false => ['f', 'a', 'l', 's', 'e']
  | .int number => (Decimal.wholeText number).toList
  | .float number => (Decimal.Layout.data.text number).toList
  | .string text => stringChars text

def hexQuad (a b c d : Char) : Option Nat := do
  let upper := (← Text.hexValue a) * 16 + (← Text.hexValue b)
  let lower := (← Text.hexValue c) * 16 + (← Text.hexValue d)
  return upper * 256 + lower

/-- The character that a letter after a backslash stands for. -/
def unescaped (c : Char) : Option Char :=
  if c = '"' ∨ c = '\\' ∨ c = '/' then some c
  else if c = 'b' then some (Char.ofNat 0x08)
  else if c = 'f' then some (Char.ofNat 0x0C)
  else if c = 'n' then some '\n'
  else if c = 'r' then some '\r'
  else if c = 't' then some '\t'
  else none

/-- The rest of a string after its opening quote, up to the closing one. -/
def readString : List Char → Option (List Char × List Char)
  | [] => none
  | '"' :: rest => some ([], rest)
  | '\\' :: 'u' :: a :: b :: c :: d :: '\\' :: 'u' :: e :: f :: g :: h :: rest => do
      let high ← hexQuad a b c d
      if 0xD800 ≤ high ∧ high < 0xDC00 then
        let low ← hexQuad e f g h
        if 0xDC00 ≤ low ∧ low < 0xE000 then
          let (text, after) ← readString rest
          return (Char.ofNat (0x10000 + (high - 0xD800) * 0x400 + (low - 0xDC00)) :: text, after)
        else none
      else if 0xDC00 ≤ high ∧ high < 0xE000 then none
      else
        let (text, after) ← readString ('\\' :: 'u' :: e :: f :: g :: h :: rest)
        return (Char.ofNat high :: text, after)
  | '\\' :: 'u' :: a :: b :: c :: d :: rest => do
      let unit ← hexQuad a b c d
      if 0xD800 ≤ unit ∧ unit < 0xE000 then none
      else
        let (text, after) ← readString rest
        return (Char.ofNat unit :: text, after)
  | '\\' :: letter :: rest => do
      let c ← unescaped letter
      let (text, after) ← readString rest
      return (c :: text, after)
  | c :: rest =>
      if c = '\\' ∨ c.toNat < 0x20 then none
      else do
        let (text, after) ← readString rest
        return (c :: text, after)

/-- Digits added to a number below `2 ^ 64` as long as they fit, and how many. -/
def gather : Nat → List Char → Nat × Nat
  | value, [] => (value, 0)
  | value, c :: rest =>
      let next := value * 10 + (c.toNat - '0'.toNat)
      if next < Nat.pow 2 64 then
        let (total, taken) := gather next rest
        (total, taken + 1)
      else (value, 0)

/-- Multiplies by a power of ten in floating-point arithmetic, in steps that the
type can hold; a result beyond its range is none. -/
def scale (x : Float) (exponent : Int) : Nat → Option Float
  | 0 => some 0
  | steps + 1 =>
      if exponent.natAbs ≤ 308 then
        let power := Decimal.nearest ['1'] exponent.natAbs
        if 0 ≤ exponent then
          let scaled := x * power
          if scaled.isInf then none else some scaled
        else some (x / power)
      else if x == 0 then some x
      else if 0 ≤ exponent then none
      else scale (x / Decimal.nearest ['1'] 308) (exponent + 308) steps

/-- The floating-point number with these digits before and after the point, scaled by
a power of ten.  Digits beyond 64 bits only shift the point. -/
def floatOf (negative : Bool) (whole fraction : List Char) (exponent : Int) : Option Float :=
  let (leading, taken) := gather 0 whole
  let (significand, added) := gather leading fraction
  let shift := exponent + (whole.length - taken : Nat) - added
  let magnitude :=
    if significand ≠ 0 then scale significand.toUInt64.toFloat shift 8 else some 0
  magnitude.map fun x => if negative then -x else x

/-- A number without fraction and exponent is whole when it fits 64 bits. -/
def wholeToken (negative : Bool) (whole : List Char) : Option Token :=
  let n := Nat.ofDigitChars 10 whole 0
  if negative then
    if 0 < n ∧ n ≤ Nat.pow 2 63 then some (.int (-(n : Int)))
    else (floatOf true whole [] 0).map .float
  else if n < Nat.pow 2 64 then some (.int n)
  else (floatOf false whole [] 0).map .float

/-- The exponent part of a number, when there is one. -/
def readExponentPart : List Char → Option (Option Int × List Char)
  | [] => some (none, [])
  | e :: rest =>
      if e = 'e' ∨ e = 'E' then
        let (negative, unsigned) :=
          match rest with
          | '-' :: tail => (true, tail)
          | '+' :: tail => (false, tail)
          | tail => (false, tail)
        let (figures, after) := Decimal.spanDigits unsigned
        if figures.isEmpty then none
        else
          let n : Int := Nat.ofDigitChars 10 figures 0
          some (some (if negative then -n else n), after)
      else some (none, e :: rest)

/-- A number without its sign. -/
def readNumber (negative : Bool) (text : List Char) : Option (Token × List Char) :=
  let (whole, rest) := Decimal.spanDigits text
  if whole.isEmpty ∨ (whole.length ≠ 1 ∧ whole.head? = some '0') then none
  else
    let fraction : Option (List Char × List Char × Bool) :=
      match rest with
      | '.' :: rest =>
          let (figures, after) := Decimal.spanDigits rest
          if figures.isEmpty then none else some (figures, after, true)
      | rest => some ([], rest, false)
    fraction.bind fun (figures, rest, pointed) =>
      (readExponentPart rest).bind fun (exponent, after) =>
        match exponent, pointed with
        | none, false => (wholeToken negative whole).map fun token => (token, after)
        | exponent, _ =>
            (floatOf negative whole figures (exponent.getD 0)).map fun x => (.float x, after)

/-- The token at the front of a text that does not begin with a blank. -/
def readToken : List Char → Option (Token × List Char)
  | '[' :: rest => some (.openArray, rest)
  | ']' :: rest => some (.closeArray, rest)
  | '\x7b' :: rest => some (.openObject, rest)
  | '\x7d' :: rest => some (.closeObject, rest)
  | ',' :: rest => some (.comma, rest)
  | ':' :: rest => some (.colon, rest)
  | 'n' :: 'u' :: 'l' :: 'l' :: rest => some (.null, rest)
  | 't' :: 'r' :: 'u' :: 'e' :: rest => some (.bool true, rest)
  | 'f' :: 'a' :: 'l' :: 's' :: 'e' :: rest => some (.bool false, rest)
  | '"' :: rest => (readString rest).map fun (text, after) => (.string (String.ofList text), after)
  | '-' :: rest => readNumber true rest
  | rest => readNumber false rest

def isSpace (c : Char) : Bool := c = ' ' || c = '\t' || c = '\n' || c = '\r'

/-- The tokens of a text; each takes at least one character, so the length of the
text bounds their number. -/
def readTokens : Nat → List Char → Option (List Token)
  | 0, _ => none
  | steps + 1, text =>
      match text.dropWhile isSpace with
      | [] => some []
      | rest =>
          (readToken rest).bind fun (token, after) =>
            (readTokens steps after).map fun tokens => token :: tokens

def tokens? (text : List Char) : Option (List Token) := readTokens (text.length + 1) text

end TagRelay.Json
