import TagRelay.Json.Token

/-!
# Reading JSON

The reader goes through the tokens once and keeps the arrays and objects that are
still open on a stack.  At most 127 of them may be open at a time.  Objects keep
their fields by key, and a repeated key takes the later value.

One key has a meaning of its own where it comes first: the object has no other field,
and stands for the value whose text is in that field.
-/

namespace TagRelay.Json

/-- An open array or object: what is complete of it, and the key that waits for its
value.  Items stand in reverse. -/
inductive Frame where
  | array (items : List Json)
  | object (fields : List (String × Json)) (key : String)
  /-- An object that stands for the value in a text. -/
  | embedded

/-- The first key of an object that stands for the value in a text. -/
def embeddedKey : String := "$serde_json::private::RawValue"

/-- The frame for the value of a key. -/
def Frame.ofKey (fields : List (String × Json)) (key : String) (isFirst : Bool) : Frame :=
  if isFirst && key == embeddedKey then .embedded else .object fields key

/-- What the reader expects next. -/
inductive Reader where
  /-- A value must follow. -/
  | value (frames : List Frame)
  /-- An array has just begun. -/
  | begun (frames : List Frame)
  /-- A key must follow, or the end of the object where it may close. -/
  | key (frames : List Frame) (fields : List (String × Json)) (mayClose : Bool)
  /-- A colon must follow the key; the value then belongs to `frame`. -/
  | colon (frames : List Frame) (frame : Frame)
  /-- A value is complete. -/
  | complete (frames : List Frame) (value : Json)

def maxDepth : Nat := 127

def Reader.start (frames : List Frame) : Token → Option Reader
  | .null => some (.complete frames .null)
  | .bool flag => some (.complete frames (.bool flag))
  | .int number => some (.complete frames (.int number))
  | .float number => some (.complete frames (.float number))
  | .string text => some (.complete frames (.string text))
  | .openArray => if frames.length < maxDepth then some (.begun frames) else none
  | .openObject => if frames.length < maxDepth then some (.key frames [] true) else none
  | _ => none

/-- One token further; `embedded` reads the texts that stand for values. -/
def Reader.step (embedded : String → Option Json) : Reader → Token → Option Reader
  | .value frames, token => Reader.start frames token
  | .begun frames, .closeArray => some (.complete frames (.array []))
  | .begun frames, token => Reader.start (.array [] :: frames) token
  | .key frames fields true, .closeObject => some (.complete frames (.object fields))
  | .key frames fields isFirst, .string name =>
      some (.colon frames (.ofKey fields name isFirst))
  | .colon frames frame, .colon => some (.value (frame :: frames))
  | .complete (.array items :: frames) item, .comma =>
      some (.value (.array (item :: items) :: frames))
  | .complete (.array items :: frames) item, .closeArray =>
      some (.complete frames (.array (item :: items).reverse))
  | .complete (.object fields name :: frames) item, .comma =>
      some (.key frames (insert name item fields) false)
  | .complete (.object fields name :: frames) item, .closeObject =>
      some (.complete frames (.object (insert name item fields)))
  | .complete (.embedded :: frames) (.string text), .closeObject =>
      (embedded text).map fun value => .complete frames value
  | _, _ => none

def Reader.run (embedded : String → Option Json) : Reader → List Token → Option Reader
  | reader, [] => some reader
  | reader, token :: rest =>
      (reader.step embedded token).bind fun next => next.run embedded rest

/-- The value whose tokens these are. -/
def ofTokens? (embedded : String → Option Json) (tokens : List Token) : Option Json :=
  match (Reader.value []).run embedded tokens with
  | some (.complete [] value) => some value
  | _ => none

/-- Reads a text in which at most `depth` texts stand inside of each other. -/
def parseNested : Nat → String → Option Json
  | 0, _ => none
  | depth + 1, text => (tokens? text.toList).bind (ofTokens? (parseNested depth))

/-- Reads a text.  A text inside of it is shorter, so the depth is never used up. -/
def parse? (text : String) : Option Json := parseNested (text.length + 1) text

end TagRelay.Json
