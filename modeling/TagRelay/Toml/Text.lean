import TagRelay.Text.Parts

/-!
# Texts and blanks in configuration files

Texts stand between quotes, in one line or in several, with escapes or without.  Only
tabs and visible characters may stand in them and in comments.  Lines end with a line
feed, before which there may be a carriage return.
-/

namespace TagRelay.Toml

abbrev Parse (α : Type) := Option (α × List Char)

def isGap (c : Char) : Bool := c = ' ' || c = '\t'

def skipGaps (text : List Char) : List Char := text.dropWhile isGap

/-- Characters that may stand in texts and comments. -/
def isPlain (c : Char) : Bool := c = '\t' || (0x20 ≤ c.toNat && c.toNat ≠ 0x7F)

/-- The rest after one line end. -/
def lineEnd : List Char → Option (List Char)
  | '\n' :: rest => some rest
  | '\r' :: '\n' :: rest => some rest
  | _ => none

/-- Drops a comment, up to the end of its line. -/
def skipComment : List Char → List Char
  | '#' :: rest => rest.dropWhile isPlain
  | rest => rest

/-- What may follow a statement in its line, with the end of the line or of the text. -/
def restOfLine (text : List Char) : Option (List Char) :=
  match skipComment (skipGaps text) with
  | [] => some []
  | rest => lineEnd rest

/-- Drops blanks and line ends. -/
def skipLines : List Char → List Char
  | '\n' :: rest => skipLines rest
  | '\r' :: '\n' :: rest => skipLines rest
  | ' ' :: rest => skipLines rest
  | '\t' :: rest => skipLines rest
  | rest => rest

/-- Drops blanks, line ends and comments; each round drops at least one character. -/
def skipAll : Nat → List Char → List Char
  | 0, text => text
  | rounds + 1, text =>
      match skipLines text with
      | '#' :: rest => skipAll rounds (rest.dropWhile isPlain)
      | rest => rest

def skipBetween (text : List Char) : List Char := skipAll (text.length + 1) text

/-- The character with a number in hexadecimal digits. -/
def numbered (figures : List Char) : Option Char := do
  let values ← figures.mapM Text.hexValue
  let n := values.foldl (fun n digit => n * 16 + digit) 0
  if n < 0xD800 ∨ (0xE000 ≤ n ∧ n < 0x110000) then some (Char.ofNat n) else none

/-- The character of an escape, after its backslash. -/
def escape : List Char → Parse Char
  | 'b' :: rest => some (Char.ofNat 0x08, rest)
  | 't' :: rest => some ('\t', rest)
  | 'n' :: rest => some ('\n', rest)
  | 'f' :: rest => some (Char.ofNat 0x0C, rest)
  | 'r' :: rest => some ('\r', rest)
  | '"' :: rest => some ('"', rest)
  | '\\' :: rest => some ('\\', rest)
  | 'u' :: rest =>
      if rest.length < 4 then none else (numbered (rest.take 4)).map fun c => (c, rest.drop 4)
  | 'U' :: rest =>
      if rest.length < 8 then none else (numbered (rest.take 8)).map fun c => (c, rest.drop 8)
  | _ => none

/-- A text in one line with escapes, after its opening quote. -/
def basicText : Nat → List Char → Parse (List Char)
  | 0, _ => none
  | _, [] => none
  | _ + 1, '"' :: rest => some ([], rest)
  | bound + 1, '\\' :: rest =>
      (escape rest).bind fun (c, after) =>
        (basicText bound after).map fun (text, after) => (c :: text, after)
  | bound + 1, c :: rest =>
      if isPlain c then (basicText bound rest).map fun (text, after) => (c :: text, after)
      else none

/-- A text in one line without escapes, after its opening quote. -/
def literalText (text : List Char) : Parse (List Char) :=
  let plain := fun c => isPlain c && c ≠ '\''
  match text.dropWhile plain with
  | '\'' :: rest => some (text.takeWhile plain, rest)
  | _ => none

/-- How many quotes stand at the front. -/
def quoteCount (quote : Char) (text : List Char) : Nat := (text.takeWhile (· == quote)).length

/-- The rest of a text of several lines; a backslash at the end of a line takes away the
line end and the blanks that follow.  Up to two quotes belong to the text, also right
before the three that end it. -/
def longText (quote : Char) (escapes : Bool) : Nat → List Char → Parse (List Char)
  | 0, _ => none
  | _, [] => none
  | bound + 1, c :: rest =>
      let more := fun (kept : List Char) (after : List Char) =>
        (longText quote escapes bound after).map fun (text, after) => (kept ++ text, after)
      if c = quote then
        let count := quoteCount quote (c :: rest)
        if count < 3 then more [c] rest
        else if count ≤ 5 then
          some (List.replicate (count - 3) quote, (c :: rest).drop count)
        else some ([quote, quote], (c :: rest).drop 5)
      else if escapes ∧ c = '\\' then
        match lineEnd (skipGaps rest) with
        | some after => more [] (skipLines after)
        | none => (escape rest).bind fun (e, after) => more [e] after
      else
        match lineEnd (c :: rest) with
        | some after => more ['\n'] after
        | none => if isPlain c then more [c] rest else none

/-- A line end right after the opening quotes does not belong to the text. -/
def skipFirstLineEnd (text : List Char) : List Char := (lineEnd text).getD text

/-- A text of any kind. -/
def quotedText : List Char → Parse (List Char)
  | '"' :: '"' :: '"' :: rest =>
      let text := skipFirstLineEnd rest
      longText '"' true (text.length + 1) text
  | '\'' :: '\'' :: '\'' :: rest =>
      let text := skipFirstLineEnd rest
      longText '\'' false (text.length + 1) text
  | '"' :: rest => basicText (rest.length + 1) rest
  | '\'' :: rest => literalText rest
  | _ => none

def isBare (c : Char) : Bool := c.isAlphanum || c = '-' || c = '_'

/-- One step of a key: bare, or a text in one line. -/
def keyStep : List Char → Parse String
  | '"' :: rest =>
      (basicText (rest.length + 1) rest).map fun (text, after) => (String.ofList text, after)
  | '\'' :: rest => (literalText rest).map fun (text, after) => (String.ofList text, after)
  | text =>
      let name := text.takeWhile isBare
      if name.isEmpty then none else some (String.ofList name, text.dropWhile isBare)

/-- The steps of a key with points between them, and the blanks after it. -/
def keySteps : Nat → List Char → Parse (List String)
  | 0, _ => none
  | bound + 1, text =>
      (keyStep (skipGaps text)).bind fun (step, rest) =>
        match skipGaps rest with
        | '.' :: rest => (keySteps bound rest).map fun (steps, after) => (step :: steps, after)
        | after => some ([step], after)

/-- How deep keys and values may be nested. -/
def maxDepth : Nat := 79

def key (text : List Char) : Parse (List String) := keySteps maxDepth text

end TagRelay.Toml
