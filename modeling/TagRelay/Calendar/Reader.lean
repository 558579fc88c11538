import TagRelay.Calendar.Instant
import TagRelay.Text.Blank
import TagRelay.Text.Parts

/-!
# Reading dates and times

Two kinds of text are read.  The internet form names its offset from UTC and has
fixed widths.  The local forms are given by patterns, name no offset and are taken
as UTC; blanks may stand before any of their numbers, and a year with a sign may
have any number of digits.  Second 60 is accepted as a leap second everywhere.
-/

namespace TagRelay.Calendar

open Text (exactly)

/-- What a text has told so far. -/
structure Fields where
  year : Int := 0
  month : Nat := 0
  day : Nat := 0
  hour : Nat := 0
  minute : Nat := 0
  second : Nat := 0
  nanos : Nat := 0

/-- At least `least` and at most `most` digits. -/
def number (least most : Nat) (text : List Char) : Option (Nat × List Char) :=
  let figures := (text.takeWhile Char.isDigit).take most
  if figures.length < least then none
  else some (Nat.ofDigitChars 10 figures 0, text.drop figures.length)

/-- The digits after a point; those beyond the ninth are read and dropped. -/
def fraction (text : List Char) : Option (Nat × List Char) :=
  let figures := text.takeWhile Char.isDigit
  let kept := figures.take 9
  if kept.isEmpty then none
  else
    some (Nat.ofDigitChars 10 kept 0 * Nat.pow 10 (9 - kept.length), text.drop figures.length)

/-- The instant of a local time that is `offset` seconds ahead of UTC. -/
def Fields.instant (f : Fields) (offset : Int) : Option Instant :=
  let date : Date := ⟨f.year, f.month, f.day⟩
  if date.isValid ∧ f.hour < 24 ∧ f.minute < 60 ∧ f.second ≤ 60 then
    let leap := f.second / 60
    let clock : Nat := f.hour * 3600 + f.minute * 60 + (f.second - leap)
    some ⟨date.toDays * 86400 + clock - offset, (f.nanos + leap * 1000000000) % 2000000000,
      by omega⟩
  else none

/-- `Z`, or a sign with hours and minutes; below one day. -/
def offset : List Char → Option (Int × List Char)
  | [] => none
  | sign :: rest =>
      if sign = 'Z' ∨ sign = 'z' then some (0, rest)
      else if sign = '+' ∨ sign = '-' ∨ sign = '−' then do
        let (hours, rest) ← number 2 2 rest
        let rest ← exactly ':' rest
        let (minutes, rest) ← number 2 2 rest
        if hours < 24 ∧ minutes < 60 then
          let seconds : Int := (hours * 3600 + minutes * 60 : Nat)
          return (if sign = '+' then seconds else -seconds, rest)
        else none
      else none

/-- The optional digits after a second. -/
def optionalFraction : List Char → Option (Nat × List Char)
  | '.' :: rest => fraction rest
  | rest => some (0, rest)

/-- The internet form: a date, `T` or a blank, a time and an offset. -/
def readInternet (text : List Char) : Option Instant := do
  let (year, rest) ← number 4 4 text
  let rest ← exactly '-' rest
  let (month, rest) ← number 2 2 rest
  let rest ← exactly '-' rest
  let (day, rest) ← number 2 2 rest
  let rest ← (exactly 'T' rest).or ((exactly 't' rest).or (exactly ' ' rest))
  let (hour, rest) ← number 2 2 rest
  let rest ← exactly ':' rest
  let (minute, rest) ← number 2 2 rest
  let rest ← exactly ':' rest
  let (second, rest) ← number 2 2 rest
  let (nanos, rest) ← optionalFraction rest
  let (ahead, rest) ← offset rest
  if rest.isEmpty then
    Fields.instant ⟨year, month, day, hour, minute, second, nanos⟩ ahead
  else none

/-- The parts of a pattern. -/
inductive Item where
  | year
  /-- Two digits: 70 to 99 belong to the last century, the others to this one. -/
  | shortYear
  | month
  | day
  | hour
  | minute
  | second
  /-- A point and digits, or nothing. -/
  | fraction
  | mark (c : Char)
  /-- Any number of blanks. -/
  | blank

def signedYear : List Char → Option (Int × List Char)
  | '-' :: rest => (number 1 rest.length rest).map fun (n, rest) => (-(n : Int), rest)
  | '+' :: rest => (number 1 rest.length rest).map fun (n, rest) => ((n : Int), rest)
  | rest => (number 1 4 rest).map fun (n, rest) => ((n : Int), rest)

/-- Reads one part; the number must be one that this part can have. -/
def Item.read (f : Fields) (text : List Char) : Item → Option (Fields × List Char)
  | .year => (signedYear (Text.dropBlank text)).map fun (n, rest) =>
      ({ f with year := n }, rest)
  | .shortYear => (number 1 2 (Text.dropBlank text)).map fun (n, rest) =>
      ({ f with year := if n < 70 then 2000 + n else 1900 + n }, rest)
  | .month => (number 1 2 (Text.dropBlank text)).map fun (n, rest) =>
      ({ f with month := n }, rest)
  | .day => (number 1 2 (Text.dropBlank text)).map fun (n, rest) =>
      ({ f with day := n }, rest)
  | .hour => (number 1 2 (Text.dropBlank text)).map fun (n, rest) =>
      ({ f with hour := n }, rest)
  | .minute => (number 1 2 (Text.dropBlank text)).map fun (n, rest) =>
      ({ f with minute := n }, rest)
  | .second => (number 1 2 (Text.dropBlank text)).map fun (n, rest) =>
      ({ f with second := n }, rest)
  | .fraction => (optionalFraction text).map fun (n, rest) => ({ f with nanos := n }, rest)
  | .mark c => (exactly c text).map fun rest => (f, rest)
  | .blank => some (f, Text.dropBlank text)

/-- Reads all parts of a pattern; the text must end with the last one. -/
def readPattern : List Item → Fields → List Char → Option Instant
  | [], f, text => if text.isEmpty then f.instant 0 else none
  | item :: items, f, text =>
      (item.read f text).bind fun (f, rest) => readPattern items f rest

def clockItems : List Item := [.hour, .mark ':', .minute, .mark ':', .second]

def dateItems : List Item := [.year, .mark '-', .month, .mark '-', .day]

/-- The local forms, in the order in which they are tried. -/
def patterns : List (List Item) :=
  [dateItems ++ [.blank] ++ clockItems ++ [.fraction],
    dateItems ++ [.mark 'T'] ++ clockItems ++ [.fraction],
    [.month, .mark '/', .day, .mark '/', .shortYear, .blank] ++ clockItems,
    [.month, .mark '/', .day, .mark '/', .year, .blank] ++ clockItems]

/-- The instant that a text names, blanks around it aside. -/
def readInstant (text : String) : Option Instant :=
  let chars := Text.trimList text.toList
  match readInternet chars with
  | some t => some t
  | none => patterns.findSome? fun items => readPattern items {} chars

end TagRelay.Calendar
