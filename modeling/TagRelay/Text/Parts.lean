/-!
# Parts of text

Texts are taken apart as lists of characters: at separators, behind a lead-in, and one
character at a time.  The parts of a text between separators, put together with the
separator again, are the text.
-/

namespace TagRelay.Text

/-- The parts of a text between the separators, at least one. -/
def pieces (separator : Char) : List Char → List (List Char)
  | [] => [[]]
  | c :: rest =>
      if c = separator then [] :: pieces separator rest
      else
        match pieces separator rest with
        | [] => [[c]]
        | head :: tail => (c :: head) :: tail

/-- The text before and after the first separator. -/
def splitFirst (separator : Char) : List Char → Option (List Char × List Char)
  | [] => none
  | c :: rest =>
      if c = separator then some ([], rest)
      else (splitFirst separator rest).map fun (left, right) => (c :: left, right)

/-- What follows `lead` in a text that begins with it. -/
def afterPrefix : List Char → List Char → Option (List Char)
  | [], text => some text
  | _ :: _, [] => none
  | a :: lead, b :: text => if a = b then afterPrefix lead text else none

/-- What follows one character in a text that begins with it. -/
def exactly (c : Char) : List Char → Option (List Char)
  | [] => none
  | a :: rest => if a = c then some rest else none

/-- The value of a hexadecimal digit, in either letter case. -/
def hexValue (c : Char) : Option Nat :=
  if '0' ≤ c ∧ c ≤ '9' then some (c.toNat - '0'.toNat)
  else if 'a' ≤ c ∧ c ≤ 'f' then some (c.toNat - 'a'.toNat + 10)
  else if 'A' ≤ c ∧ c ≤ 'F' then some (c.toNat - 'A'.toNat + 10)
  else none

/-- Items one after the other with a separator between neighbours. -/
def join (separator : String) : List String → String
  | [] => ""
  | [item] => item
  | item :: rest => item ++ separator ++ join separator rest

end TagRelay.Text
