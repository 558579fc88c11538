import TagRelay.Calendar.Instant
import TagRelay.Decimal.Layout
import TagRelay.Json.Printer
import TagRelay.Text.Base64
import TagRelay.Text.Blank
import TagRelay.Text.Parts

/-!
# Tag values

A tag holds a null, a truth value, a signed 64-bit number, a floating-point number or
a text, which are the primitive values, or an instant, a byte string, an array or a
value of a type that is known only by its text.  In JSON the primitive values keep
their form, as far as JSON has it, and so do the items of an array; everything else
becomes text.
-/

namespace TagRelay

inductive TagValue where
  | null
  | bool (flag : Bool)
  | int (number : Int64)
  | float (number : Float)
  | text (text : String)
  | timestamp (instant : Calendar.Instant)
  | binary (bytes : List UInt8)
  | array (items : List TagValue)
  /-- A value of a type without a counterpart here. -/
  | foreign (text : String)
  deriving Inhabited

namespace TagValue

def isPrimitive : TagValue → Bool
  | .null | .bool _ | .int _ | .float _ | .text _ => true
  | _ => false

mutual

/-- The plain text of a value. -/
def display : TagValue → String
  | .null => "null"
  | .bool flag => if flag then "true" else "false"
  | .int number => Decimal.wholeText number.toInt
  | .float number => Decimal.Layout.plain.text number
  | .text s => s
  | .timestamp instant => instant.text
  | .binary bytes => Base64.encode bytes
  | .array items => "[" ++ Text.join ", " (displayItems items) ++ "]"
  | .foreign s => s

def displayItems : List TagValue → List String
  | [] => []
  | item :: rest => item.display :: displayItems rest

end

/-- The JSON form of a value that is no array, or of an item of an array. -/
def itemJson : TagValue → Json
  | .null => .null
  | .bool flag => .bool flag
  | .int number => .int number.toInt
  | .float number => if number.isFinite then .float number else .string (display (.float number))
  | .text s => .string s
  | other => .string other.display

def toJson : TagValue → Json
  | .array items => .array (items.map itemJson)
  | other => other.itemJson

mutual

/-- The value that a JSON payload stands for.  Numbers that are whole and fit are
whole; an object is kept as its text. -/
def ofJson : Json → TagValue
  | .null => .null
  | .bool flag => .bool flag
  | .int number =>
      match Decimal.fitInt64 number with
      | some n => .int n
      | none => .float (Float.ofInt number)
  | .float number => .float number
  | .string s => .text s
  | .array items => .array (ofJsonItems items)
  | .object fields => .text (Json.compact (.object fields))

def ofJsonItems : List Json → List TagValue
  | [] => []
  | item :: rest => ofJson item :: ofJsonItems rest

end

mutual

/-- Equality of contents, in which a float that is no number differs from itself and
both zeros are equal. -/
def same : TagValue → TagValue → Bool
  | .null, .null => true
  | .bool a, .bool b => a == b
  | .int a, .int b => a == b
  | .float a, .float b => a == b
  | .text a, .text b => a == b
  | .timestamp a, .timestamp b => decide (a = b)
  | .binary a, .binary b => a == b
  | .array a, .array b => sameItems a b
  | .foreign a, .foreign b => a == b
  | _, _ => false

def sameItems : List TagValue → List TagValue → Bool
  | [], [] => true
  | a :: as, b :: bs => same a b && sameItems as bs
  | _, _ => false

end

end TagValue

end TagRelay
