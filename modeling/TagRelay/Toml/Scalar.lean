import TagRelay.Calendar.Date
import TagRelay.Decimal.Reader
import TagRelay.Decimal.Whole
import TagRelay.Json.Basic
import TagRelay.Toml.Text

/-!
# Numbers and times in configuration files

Whole numbers have 64 bits and may be written in base 16, 8 or 2; underscores may
separate digits.  A fraction or an exponent makes a number a floating-point one.  Dates
and times are checked and kept as text under a name that no other value uses.
-/

namespace TagRelay.Toml

open Text (exactly)

/-- Digits with single underscores between them, without these. -/
def separated (isDigit : Char → Bool) : Nat → List Char → Parse (List Char)
  | 0, _ => none
  | _, [] => none
  | bound + 1, c :: rest =>
      if isDigit c then
        let next :=
          match rest with
          | '_' :: after => some after
          | after => if (after.head?.map isDigit).getD false then some after else none
        match next with
        | some after =>
            (separated isDigit bound after).map fun (figures, after) => (c :: figures, after)
        | none => some ([c], rest)
      else none

def digitRun (isDigit : Char → Bool) (text : List Char) : Parse (List Char) :=
  separated isDigit (text.length + 1) text

/-- An optional sign. -/
def signed : List Char → Option Char × List Char
  | '-' :: rest => (some '-', rest)
  | '+' :: rest => (some '+', rest)
  | rest => (none, rest)

/-- Decimal digits without a zero in front. -/
def decimalRun : List Char → Parse (List Char)
  | '0' :: rest => some (['0'], rest)
  | text => digitRun Char.isDigit text

def valueIn (base : Nat) (figures : List Char) : Nat :=
  figures.foldl (fun n c => n * base + (Text.hexValue c).getD 0) 0

/-- A whole number that fits 64 bits. -/
def wholeJson (n : Int) : Option Json := (Decimal.fitInt64 n).map fun n => .int n.toInt

def basedNumber (base : Nat) (isDigit : Char → Bool) (text : List Char) : Parse Json :=
  (digitRun isDigit text).bind fun (figures, rest) =>
    (wholeJson (valueIn base figures)).map fun json => (json, rest)

/-- An exponent with its letter, as it stands. -/
def exponentPart : List Char → Option (List Char × List Char)
  | [] => some ([], [])
  | e :: rest =>
      if e = 'e' ∨ e = 'E' then
        let (sign, rest) := signed rest
        (digitRun Char.isDigit rest).map fun (figures, after) =>
          (['e'] ++ sign.toList ++ figures, after)
      else some ([], e :: rest)

/-- A fraction with its point, as it stands. -/
def fractionPart : List Char → Option (List Char × List Char)
  | '.' :: rest => (digitRun Char.isDigit rest).map fun (figures, after) => ('.' :: figures, after)
  | rest => some ([], rest)

/-- A number too large for the type is refused, unless it is negative. -/
def floatJson (text : List Char) : Option Json :=
  (Decimal.readFloat (String.ofList text)).bind fun x =>
    if x.isInf ∧ 0 < x then none else some (.float x)

def namedNumber (x : Float) (sign : Option Char) : Json :=
  .float (if sign = some '-' then -x else x)

def decimalNumber (text : List Char) : Parse Json :=
  let (sign, rest) := signed text
  match rest with
  | 'i' :: 'n' :: 'f' :: rest => some (namedNumber (1.0 / 0.0) sign, rest)
  | 'n' :: 'a' :: 'n' :: rest => some (namedNumber (0.0 / 0.0) sign, rest)
  | rest =>
      (decimalRun rest).bind fun (whole, rest) =>
        (fractionPart rest).bind fun (fraction, rest) =>
          (exponentPart rest).bind fun (exponent, rest) =>
            let figures := sign.toList ++ whole
            let json :=
              if fraction.isEmpty ∧ exponent.isEmpty then
                (Decimal.readWhole figures).bind wholeJson
              else floatJson (figures ++ fraction ++ exponent)
            json.map fun json => (json, rest)

def number : List Char → Parse Json
  | '0' :: 'x' :: rest => basedNumber 16 (fun c => (Text.hexValue c).isSome) rest
  | '0' :: 'o' :: rest => basedNumber 8 (fun c => '0' ≤ c && c ≤ '7') rest
  | '0' :: 'b' :: rest => basedNumber 2 (fun c => c = '0' || c = '1') rest
  | text => decimalNumber text

/-! ## Dates and times -/

/-- Exactly so many digits, with a value between two bounds. -/
def digitsIn (width least most : Nat) (text : List Char) : Parse Nat :=
  let figures := text.take width
  let n := Nat.ofDigitChars 10 figures 0
  if figures.length = width ∧ figures.all Char.isDigit ∧ least ≤ n ∧ n ≤ most then
    some (n, text.drop width)
  else none

def two (n : Nat) : String := Decimal.padded 2 n

/-- A date, as it is written. -/
def date (text : List Char) : Option (String × List Char) := do
  let (year, rest) ← digitsIn 4 0 9999 text
  let rest ← exactly '-' rest
  let (month, rest) ← digitsIn 2 1 12 rest
  let rest ← exactly '-' rest
  let (day, rest) ← digitsIn 2 1 31 rest
  if (day : Int) ≤ Calendar.daysInMonth year month then
    return (Decimal.padded 4 year ++ "-" ++ two month ++ "-" ++ two day, rest)
  else none

/-- A fraction of a second is kept to nine places, without zeros at its end. -/
def secondFraction : List Char → Parse String
  | '.' :: rest =>
      let figures := rest.takeWhile Char.isDigit
      if figures.isEmpty then none
      else
        let kept := ((figures.take 9).reverse.dropWhile (· == '0')).reverse
        let text := if kept.isEmpty then "" else String.ofList ('.' :: kept)
        some (text, rest.drop figures.length)
  | rest => some ("", rest)

/-- A time of the day. -/
def time (text : List Char) : Option (String × List Char) := do
  let (hour, rest) ← digitsIn 2 0 23 text
  let rest ← exactly ':' rest
  let (minute, rest) ← digitsIn 2 0 59 rest
  let rest ← exactly ':' rest
  let (second, rest) ← digitsIn 2 0 60 rest
  let (fraction, rest) ← secondFraction rest
  return (two hour ++ ":" ++ two minute ++ ":" ++ two second ++ fraction, rest)

/-- Hours and minutes of an offset; none at all is written with a plus sign. -/
def offsetAmount (sign : String) (text : List Char) : Option (String × List Char) := do
  let (hour, rest) ← digitsIn 2 0 23 text
  let rest ← exactly ':' rest
  let (minute, rest) ← digitsIn 2 0 59 rest
  let sign := if hour + minute = 0 then "+" else sign
  return (sign ++ two hour ++ ":" ++ two minute, rest)

/-- An offset from UTC, if there is one. -/
def offset : List Char → Parse String
  | 'Z' :: rest => some ("Z", rest)
  | 'z' :: rest => some ("Z", rest)
  | '+' :: rest => offsetAmount "+" rest
  | '-' :: rest => offsetAmount "-" rest
  | rest => some ("", rest)

/-- The time after a date and its separator, when a time begins there. -/
def timeAfterDate : List Char → Option (String × List Char)
  | separator :: rest =>
      let begins := (digitsIn 2 0 23 rest).bind fun (_, after) => exactly ':' after
      if (separator = 'T' ∨ separator = 't' ∨ separator = ' ') ∧ begins.isSome then do
        let (clock, rest) ← time rest
        let (zone, rest) ← offset rest
        return ("T" ++ clock ++ zone, rest)
      else some ("", separator :: rest)
  | [] => some ("", [])

/-- A date, a time of the day, or both with or without an offset. -/
def dateOrTime (text : List Char) : Parse String :=
  match date text with
  | some (day, rest) => (timeAfterDate rest).map fun (clock, rest) => (day ++ clock, rest)
  | none => time text

/-- The name under which dates and times are kept. -/
def timeKey : String := "$__toml_private_datetime"

def timeJson (text : String) : Json := .object [(timeKey, .string text)]

/-- A text that begins like a date or a time has to be one. -/
def looksTimed (text : List Char) : Bool :=
  let after := fun (count : Nat) (mark : Char) =>
    (text.take count).all Char.isDigit && (text.drop count).head? = some mark
  after 4 '-' || after 2 ':'

/-- A number, a date or a time. -/
def numeral (text : List Char) : Parse Json :=
  if looksTimed text then (dateOrTime text).map fun (t, rest) => (timeJson t, rest)
  else number text

end TagRelay.Toml
