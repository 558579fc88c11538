import TagRelay.Toml.Document
import TagRelay.Toml.Scalar

/-!
# Reading configuration text

A text is a sequence of lines, each blank, a comment, a header or a key with its value.
Values are texts, numbers, truth values, dates and times, arrays, which may go on over
several lines, and inline tables, which may not.
-/

namespace TagRelay.Toml

open Text (exactly)

/-- A quoted text as a value. -/
def textValue (text : List Char) : Parse Json :=
  (quotedText text).map fun (content, rest) => (.string (String.ofList content), rest)

/-- Texts, truth values and everything that begins like a number. -/
def simpleValue : List Char → Parse Json
  | 't' :: 'r' :: 'u' :: 'e' :: rest => some (.bool true, rest)
  | 'f' :: 'a' :: 'l' :: 's' :: 'e' :: rest => some (.bool false, rest)
  | '"' :: rest => textValue ('"' :: rest)
  | '\'' :: rest => textValue ('\'' :: rest)
  | rest => numeral rest

mutual

/-- A value at a depth of nesting.  Every call uses up one unit of `bound`, and no two
calls follow on each other without a character being read. -/
def value (depth : Nat) : Nat → List Char → Parse Json
  | 0, _ => none
  | bound + 1, '[' :: rest => if depth < maxDepth then items (depth + 1) [] bound rest else none
  | bound + 1, '\x7b' :: rest =>
      if depth < maxDepth then
        match skipGaps rest with
        | '\x7d' :: rest => some (.object [], rest)
        | rest => pairs (depth + 1) [] bound rest
      else none
  | _ + 1, text => simpleValue text

/-- The rest of an array after the items in `done`, which stand in reverse. -/
def items (depth : Nat) (done : List Json) : Nat → List Char → Parse Json
  | 0, _ => none
  | bound + 1, text =>
      match skipBetween text with
      | ']' :: rest => some (.array done.reverse, rest)
      | text =>
          match value depth bound text with
          | none => none
          | some (item, rest) =>
              match skipBetween rest with
              | ',' :: rest => items depth (item :: done) bound rest
              | ']' :: rest => some (.array (item :: done).reverse, rest)
              | _ => none

/-- The rest of an inline table after the pairs in `done`. -/
def pairs (depth : Nat) (done : Entries) : Nat → List Char → Parse Json
  | 0, _ => none
  | bound + 1, text =>
      match key text with
      | some (steps, '=' :: rest) =>
          match value depth bound (skipGaps rest) with
          | none => none
          | some (content, rest) =>
              match Entries.addKey steps content done, skipGaps rest with
              | some done, ',' :: rest => pairs depth done bound rest
              | some done, '\x7d' :: rest => some (done.toJson, rest)
              | _, _ => none
      | _ => none

end

/-- A key and its value, in one line. -/
def keyLine (d : Document) (text : List Char) : Option (Document × List Char) :=
  match key text with
  | some (steps, '=' :: rest) => do
      let (content, rest) ← value 0 (2 * rest.length + 2) (skipGaps rest)
      let rest ← restOfLine rest
      return (← d.add steps content, rest)
  | _ => none

/-- A header after its opening brackets, in one line. -/
def headerLine (d : Document) (inArray : Bool) (text : List Char) :
    Option (Document × List Char) := do
  let (steps, rest) ← key text
  let rest ← exactly ']' rest
  let rest ← if inArray then exactly ']' rest else some rest
  return (← d.open? inArray steps, ← restOfLine rest)

/-- One line that does not begin with a blank. -/
def line (d : Document) : List Char → Option (Document × List Char)
  | '[' :: '[' :: rest => headerLine d true rest
  | '[' :: rest => headerLine d false rest
  | '#' :: rest => (restOfLine ('#' :: rest)).map fun rest => (d, rest)
  | text =>
      match lineEnd text with
      | some rest => some (d, rest)
      | none => keyLine d text

/-- All lines; each has at least one character. -/
def lines : Nat → Document → List Char → Option Document
  | 0, _, _ => none
  | bound + 1, d, text =>
      match skipGaps text with
      | [] => some d
      | text => (line d text).bind fun (d, rest) => lines bound d rest

/-- A mark of the byte order in front is dropped. -/
def dropMark : List Char → List Char
  | c :: rest => if c.toNat = 0xFEFF then rest else c :: rest
  | [] => []

/-- The table that a text describes. -/
def read? (text : String) : Option Json :=
  let chars := dropMark text.toList
  (lines (chars.length + 1) {} chars).map Document.toJson

end TagRelay.Toml
