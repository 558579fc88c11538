import TagRelay.Config.Basic
import TagRelay.Decimal.Reader
import TagRelay.Tag.Value

/-!
# Coercion

A tag may declare the type of its values.  `coerce` brings a value to this type where
there is a reasonable way and fails otherwise; numbers are cut to whole ones toward
zero and stay within 64 bits.
-/

namespace TagRelay.TagValue

/-- The whole part of a finite number, within the range of the type. -/
def wholePart (x : Float) : Option Int64 := if x.isFinite then some x.toInt64 else none

def toInt? : TagValue → Option Int64
  | .int number => some number
  | .float number => wholePart number
  | .bool flag => some (if flag then 1 else 0)
  | .text s =>
      match Decimal.readInt64 (Text.trim s) with
      | some number => some number
      | none => (Decimal.readFloat (Text.trim s)).bind wholePart
  | _ => none

def toFloat? : TagValue → Option Float
  | .int number => some (Float.ofInt number.toInt)
  | .float number => some number
  | .bool flag => some (if flag then 1.0 else 0.0)
  | .text s => Decimal.readFloat (Text.trim s)
  | _ => none

def toText? : TagValue → Option String
  | .null => none
  | other => some other.display

/-- The texts for true and for false, in small letters. -/
def flagWords : List (String × Bool) :=
  [("true", true), ("1", true), ("on", true), ("false", false), ("0", false), ("off", false)]

def toBool? : TagValue → Option Bool
  | .bool flag => some flag
  | .int number => some (number != 0)
  | .float number => some (number != 0.0)
  | .text s => flagWords.lookup (Text.lower (Text.trim s))
  | _ => none

/-- The value as one of the declared type. -/
def coerce (type : Config.ValueType) (v : TagValue) : Option TagValue :=
  match type with
  | .int => v.toInt?.map .int
  | .double | .float => v.toFloat?.map .float
  | .string => v.toText?.map .text
  | .bool => v.toBool?.map .bool

end TagRelay.TagValue
