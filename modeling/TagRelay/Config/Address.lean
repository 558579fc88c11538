import TagRelay.Decimal.Whole
import TagRelay.Text.Parts

/-!
# Listen addresses

An address is an internet address of version 4 or 6 with a port.  Version 6 has many
spellings of one address; it is written in the one that leaves out the longest run
of zero groups, the first of several.
-/

namespace TagRelay.Config

inductive Address where
  | v4 (octets : List Nat) (port : Nat)
  | v6 (groups : List Nat) (zone port : Nat)
  deriving Repr, DecidableEq

namespace Address

open Text (exactly)

def digitIn (base : Nat) (c : Char) : Option Nat :=
  (Text.hexValue c).filter fun value => value < base

/-- The number at the front of a text: all digits that follow, at least one and at
most `most` of them, and below `limit`. -/
def number (base most limit : Nat) (leadingZeros : Bool) (text : List Char) :
    Option (Nat × List Char) :=
  let figures := text.takeWhile fun c => (digitIn base c).isSome
  let value := figures.foldl (fun n c => n * base + (digitIn base c).getD 0) 0
  if figures.isEmpty ∨ most < figures.length ∨ limit ≤ value then none
  else if ¬leadingZeros ∧ 1 < figures.length ∧ figures.head? = some '0' then none
  else some (value, text.drop figures.length)

/-- Four numbers with points between them. -/
def octets (text : List Char) : Option (List Nat × List Char) := do
  let octet := number 10 3 256 false
  let (a, rest) ← octet text
  let (b, rest) ← octet (← exactly '.' rest)
  let (c, rest) ← octet (← exactly '.' rest)
  let (d, rest) ← octet (← exactly '.' rest)
  return ([a, b, c, d], rest)

/-- At most `room` groups with colons between them, the last two perhaps written as an
address of version 4, which the flag tells. -/
def groups : (room : Nat) → (first : Bool) → List Char → List Nat × Bool × List Char
  | 0, _, text => ([], false, text)
  | room + 1, first, text =>
      let start := if first then some text else exactly ':' text
      match start with
      | none => ([], false, text)
      | some start =>
          match if 0 < room then octets start else none with
          | some ([a, b, c, d], rest) => ([a * 256 + b, c * 256 + d], true, rest)
          | _ =>
              match number 16 4 65536 true start with
              | some (group, rest) =>
                  let (more, embedded, rest) := groups room false rest
                  (group :: more, embedded, rest)
              | none => ([], false, text)

/-- Eight groups, or fewer with a double colon in place of at least one zero group. -/
def sixteenBytes (text : List Char) : Option (List Nat × List Char) := do
  let (head, embedded, rest) := groups 8 true text
  if head.length = 8 then return (head, rest)
  if embedded then none
  let rest ← exactly ':' (← exactly ':' rest)
  let (tail, _, rest) := groups (8 - (head.length + 1)) true rest
  return (head ++ List.replicate (8 - head.length - tail.length) 0 ++ tail, rest)

def portAfterColon (text : List Char) : Option (Nat × List Char) := do
  let rest ← exactly ':' text
  number 10 rest.length 65536 true rest

def read4 (text : List Char) : Option Address := do
  let (parts, rest) ← octets text
  let (port, rest) ← portAfterColon rest
  if rest.isEmpty then some (.v4 parts port) else none

def read6 (text : List Char) : Option Address := do
  let (parts, rest) ← sixteenBytes (← exactly '[' text)
  let (zone, rest) ←
    match rest with
    | '%' :: rest => number 10 rest.length (Nat.pow 2 32) true rest
    | rest => some (0, rest)
  let (port, rest) ← portAfterColon (← exactly ']' rest)
  if rest.isEmpty then some (.v6 parts zone port) else none

def read (text : String) : Option Address := (read4 text.toList).or (read6 text.toList)

def decimal (n : Nat) : String := Decimal.wholeText n

def octetsText : List Nat → String
  | [] => ""
  | [a] => decimal a
  | a :: rest => decimal a ++ "." ++ octetsText rest

def groupsText : List Nat → String
  | [] => ""
  | [a] => String.ofList (Nat.toDigits 16 a)
  | a :: rest => String.ofList (Nat.toDigits 16 a) ++ ":" ++ groupsText rest

/-- Where the longest run of zeros begins and how long it is; the first of several. -/
def longestZeros : Nat → List Nat → Nat × Nat
  | _, [] => (0, 0)
  | index, 0 :: rest =>
      let run := (0 :: rest).takeWhile (· == 0)
      let later := longestZeros (index + 1) rest
      if later.2 ≤ run.length then (index, run.length) else later
  | index, _ :: rest => longestZeros (index + 1) rest

def sixteenBytesText (parts : List Nat) : String :=
  match parts with
  | [0, 0, 0, 0, 0, 0xFFFF, a, b] =>
      "::ffff:" ++ octetsText [a / 256, a % 256, b / 256, b % 256]
  | parts =>
      let (start, length) := longestZeros 0 parts
      if 1 < length then
        groupsText (parts.take start) ++ "::" ++ groupsText (parts.drop (start + length))
      else groupsText parts

def text : Address → String
  | .v4 parts port => octetsText parts ++ ":" ++ decimal port
  | .v6 parts zone port =>
      "[" ++ sixteenBytesText parts ++ (if zone = 0 then "" else "%" ++ decimal zone) ++
        "]:" ++ decimal port

end Address

end TagRelay.Config
