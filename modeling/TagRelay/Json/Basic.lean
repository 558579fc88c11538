/-!
# JSON values

Whole numbers and floating-point numbers are kept apart: `1` and `1.0` are two
values.  Objects list their fields in the order in which they are written;
`Json.sorted` and `Json.insert` keep them by key, one field per key.
-/

namespace TagRelay

inductive Json where
  | null
  | bool (flag : Bool)
  | int (number : Int)
  | float (number : Float)
  | string (text : String)
  | array (items : List Json)
  | object (fields : List (String × Json))
  deriving Inhabited

namespace Json

/-- Adds a field at the place of its key; an earlier field of that key is replaced. -/
def insert (key : String) (value : Json) : List (String × Json) → List (String × Json)
  | [] => [(key, value)]
  | (name, old) :: rest =>
      if key < name then (key, value) :: (name, old) :: rest
      else if key = name then (key, value) :: rest
      else (name, old) :: insert key value rest

/-- The object with these fields in the order of their keys; of two fields with the
same key the later one stays. -/
def sorted (fields : List (String × Json)) : Json :=
  .object (fields.foldl (fun done (key, value) => insert key value done) [])

/-- The first field of this key. -/
def lookup (key : String) : List (String × Json) → Option Json
  | [] => none
  | (name, value) :: rest => if name = key then some value else lookup key rest

def field? (key : String) : Json → Option Json
  | .object fields => lookup key fields
  | _ => none

def isNull : Json → Bool
  | .null => true
  | _ => false

def string? : Json → Option String
  | .string text => some text
  | _ => none

/-- A value that may be missing, with `null` in its place. -/
def ofOption {α : Type} (encode : α → Json) : Option α → Json
  | none => .null
  | some a => encode a

def strings (texts : List String) : Json := .array (texts.map .string)

end Json

end TagRelay
