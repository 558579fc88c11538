import TagRelay.Json.Parser
import TagRelay.Remote.Request

/-!
# Targets of reads and writes

The parameters of a call say which tag is meant, as an object or as a text of
`name=value` pairs with semicolons between them, and for a write the value.
-/

namespace TagRelay.Remote

/-- Which tag is meant. -/
inductive Target where
  | key (key : String)
  | path (path : String)
  /-- A key where there is such a key, otherwise a path. -/
  | either (name : String)
  deriving Repr, DecidableEq

/-- The pairs of a text, with names in small letters; of two pairs with the same name
the later one counts, so they stand in reverse order. -/
def pairs (text : String) : List (String × String) :=
  let trimmed := fun (part : List Char) => String.ofList (Text.trimList part)
  ((Text.pieces ';' text.toList).filterMap fun piece =>
    (Text.splitFirst '=' piece).map fun (name, value) =>
      (Text.lower (trimmed name), trimmed value)).reverse

namespace Target

/-- The text under one of these names, the earlier name first. -/
def textUnder (names : List String) (fields : List (String × Json)) : Option String :=
  names.findSome? fun name => (Json.lookup name fields).bind Json.string?

def ofObject (fields : List (String × Json)) : Except Failure Target :=
  match textUnder ["tag", "tagPath"] fields with
  | some named => .ok (.path named)
  | none =>
      match textUnder ["key"] fields with
      | some named => .ok (.key named)
      | none => .error (.invalidParams "expected `tag` or `key` in params")

def ofPairs (text : String) : Except Failure Target :=
  match (pairs text).lookup "tag" with
  | some name => .ok (.either name)
  | none => .error (.invalidParams ("no tag in `" ++ text ++ "`"))

/-- The target of a read. -/
def ofReadParams : Json → Except Failure Target
  | .string text =>
      if text.toList.contains '=' then ofPairs text
      else if Text.isMissing text then .error (.invalidParams "read needs a tag")
      else .ok (.either (Text.trim text))
  | .object fields => ofObject fields
  | _ => .error (.invalidParams "read needs a tag")

/-- The value that a text stands for: a JSON value, or else the text itself. -/
def writtenValue (text : String) : Json := (Json.parse? text).getD (.string text)

/-- The target of a write, and the value. -/
def ofWriteParams : Json → Except Failure (Target × Json)
  | .string text => do
      let target ← ofPairs text
      match (pairs text).lookup "value" with
      | some value => .ok (target, writtenValue value)
      | none => .error (.invalidParams ("no value in `" ++ text ++ "`"))
  | .object fields =>
      match Json.lookup "value" fields with
      | some value => (ofObject fields).map fun target => (target, value)
      | none => .error (.invalidParams "write needs a value")
  | _ =>
      .error (.invalidParams
        "write needs `\x7btag|key, value\x7d` or `tag=..;value=..`")

end Target

end TagRelay.Remote
