import TagRelay.Json.Token

/-!
# Writing JSON

The compact text of a value is its tokens without any blank.  The pretty text gives
every item a line of its own, two spaces further in than the line that opens it.
-/

namespace TagRelay.Json

mutual

def tokens : Json → List Token
  | .null => [.null]
  | .bool flag => [.bool flag]
  | .int number => [.int number]
  | .float number => [.float number]
  | .string text => [.string text]
  | .array [] => [.openArray, .closeArray]
  | .array (item :: rest) => .openArray :: (item.tokens ++ moreItems rest)
  | .object [] => [.openObject, .closeObject]
  | .object ((key, value) :: rest) =>
      .openObject :: .string key :: .colon :: (value.tokens ++ moreFields rest)

/-- The items after the first, and the end of the array. -/
def moreItems : List Json → List Token
  | [] => [.closeArray]
  | item :: rest => .comma :: (item.tokens ++ moreItems rest)

/-- The fields after the first, and the end of the object. -/
def moreFields : List (String × Json) → List Token
  | [] => [.closeObject]
  | (key, value) :: rest =>
      .comma :: .string key :: .colon :: (value.tokens ++ moreFields rest)

end

/-- The text of a value without blanks between its tokens. -/
def compact (value : Json) : String := String.ofList (value.tokens.flatMap Token.chars)

def newLine (depth : Nat) : List Char := '\n' :: List.replicate (2 * depth) ' '

mutual

def prettyChars (depth : Nat) : Json → List Char
  | .array [] => ['[', ']']
  | .array (item :: rest) =>
      ['['] ++ newLine (depth + 1) ++ prettyChars (depth + 1) item ++ prettyItems depth rest
  | .object [] => ['\x7b', '\x7d']
  | .object ((key, value) :: rest) =>
      ['\x7b'] ++ newLine (depth + 1) ++ stringChars key ++ [':', ' '] ++
        prettyChars (depth + 1) value ++ prettyFields depth rest
  | .null => Token.chars .null
  | .bool flag => Token.chars (.bool flag)
  | .int number => Token.chars (.int number)
  | .float number => Token.chars (.float number)
  | .string text => Token.chars (.string text)

def prettyItems (depth : Nat) : List Json → List Char
  | [] => newLine depth ++ [']']
  | item :: rest =>
      [','] ++ newLine (depth + 1) ++ prettyChars (depth + 1) item ++ prettyItems depth rest

def prettyFields (depth : Nat) : List (String × Json) → List Char
  | [] => newLine depth ++ ['\x7d']
  | (key, value) :: rest =>
      [','] ++ newLine (depth + 1) ++ stringChars key ++ [':', ' '] ++
        prettyChars (depth + 1) value ++ prettyFields depth rest

end

def pretty (value : Json) : String := String.ofList (prettyChars 0 value)

end TagRelay.Json
