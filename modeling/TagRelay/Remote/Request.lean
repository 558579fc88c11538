import TagRelay.Json.Record
import TagRelay.Remote.Reply
import TagRelay.Text.Blank
import TagRelay.Text.Parts

/-!
# Calls from the platform

A request names a device, a method and parameters.  Method names may carry the type of
the connector and an underscore in front; what remains is a read, a write or a method
of the device.  An update changes shared attributes of a device.
-/

namespace TagRelay.Remote

structure Request where
  device : String
  id : Option Json := none
  method : String
  params : Json := .null

namespace Request

def toJson (r : Request) : Json :=
  .object
    [("device", .string r.device),
      ("data", .object
        (Reply.presentField "id" (fun json => json) r.id ++
          [("method", .string r.method), ("params", r.params)]))]

def ofJson (value : Json) : Json.Decode Request := do
  let fields ← Json.asRecord .json ["device", "data"] value
  let device ← Json.required ["device"] Json.asString fields
  let data ← Json.required ["data"] .ok fields
  let inner ← Json.asRecord .json ["id", "method", "params"] data
  let id ← Json.optional ["id"] .ok inner
  let method ← Json.required ["method"] Json.asString inner
  let params ← Json.withDefault ["params"] .null .ok inner
  return { device, id, method, params }

end Request

/-- New values of shared attributes, in the order of their keys. -/
structure Update where
  device : String
  data : List (String × Json)

def Update.ofJson (value : Json) : Json.Decode Update := do
  let fields ← Json.asRecord .json ["device", "data"] value
  let device ← Json.required ["device"] Json.asString fields
  let data ← Json.required ["data"] .ok fields
  match data with
  | .object entries => return { device, data := entries }
  | _ => .error .wrongType

/-- What a method name asks for. -/
inductive Method where
  | read
  | write
  /-- A method that the device has to declare. -/
  | declared (name : String)
  deriving Repr, DecidableEq

namespace Method

/-- The built-in methods, in small letters. -/
def builtIn : List (String × Method) :=
  [("get", .read), ("read", .read), ("set", .write), ("write", .write)]

/-- What may stand in front of method names for a type of connector. -/
def leadIn (type : String) : List Char := (Text.lower type ++ "_").toList

/-- The name without the lead-in, which may be in any letter case. -/
def strip (type : String) (name : List Char) : List Char :=
  match Text.afterPrefix (leadIn type) (name.map Char.toLower) with
  | some rest => name.drop (name.length - rest.length)
  | none => name

def ofText (type text : String) : Method :=
  let name := String.ofList (strip type (Text.trimList text.toList))
  (builtIn.lookup (Text.lower name)).getD (.declared name)

def name : Method → String
  | .read => "read"
  | .write => "write"
  | .declared name => name

end Method

end TagRelay.Remote
