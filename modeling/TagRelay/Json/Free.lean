import TagRelay.Json.Parser
import TagRelay.Json.Record

/-!
# Free values

A free value may have any form.  In a configuration file it is settled: a number that
JSON cannot write becomes null, fields are put in the order of their keys, and a table
whose first key announces an embedded text stands for the value in that text.
-/

namespace TagRelay.Json

mutual

/-- The value that a value from a file stands for. -/
def settle : Json → Decode Json
  | .float x => .ok (if x.isFinite then .float x else .null)
  | .array items => (settleItems items).map .array
  | .object fields =>
      match fields with
      | (key, value) :: rest =>
          if key = embeddedKey then
            match value with
            | .string text =>
                match parse? text with
                | some inner => .ok inner
                | none => .error .wrongType
            | _ => .error .wrongType
          else do
            let value ← settle value
            return sorted ((key, value) :: (← settleFields rest))
      | [] => .ok (.object [])
  | other => .ok other

def settleItems : List Json → Decode (List Json)
  | [] => .ok []
  | item :: rest => do
      let item ← settle item
      return item :: (← settleItems rest)

def settleFields : List (String × Json) → Decode (List (String × Json))
  | [] => .ok []
  | (key, value) :: rest => do
      let value ← settle value
      return (key, value) :: (← settleFields rest)

end

/-- A free value, which is settled already unless it comes from a file. -/
def asFree : Source → Json → Decode Json
  | .json, value => .ok value
  | .file, value => settle value

end TagRelay.Json
