import TagRelay.Decimal.Whole
import TagRelay.Error
import TagRelay.Json.Record

/-!
# Replies to calls

A call from the platform is always answered.  The reply says whether it succeeded,
with the value or the error, and a code: 200, or 400, 404, 500, 503 or 504 by the
cause of the failure.
-/

namespace TagRelay.Remote

inductive Failure where
  | deviceNotFound (device : String)
  | keyNotMapped (device key : String)
  | methodNotFound (method : String)
  | invalidParams (reason : String)
  | notConnected
  | session (cause : SessionError)
  deriving Repr, DecidableEq

namespace Failure

def message : Failure → String
  | .deviceNotFound device => "device `" ++ device ++ "` not found"
  | .keyNotMapped device key =>
      "key `" ++ key ++ "` is not mapped to a tag on device `" ++ device ++ "`"
  | .methodNotFound method => "method `" ++ method ++ "` not found"
  | .invalidParams reason => "invalid params: " ++ reason
  | .notConnected => "session is not connected"
  | .session cause => cause.message

def code : Failure → Nat
  | .deviceNotFound _ | .keyNotMapped _ _ | .methodNotFound _ => 404
  | .invalidParams _ => 400
  | .notConnected => 503
  | .session (.timeout _) => 504
  | .session _ => 500

end Failure

structure Reply where
  success : Bool
  value : Option Json := none
  error : Option String := none
  code : Nat

namespace Reply

def ok (value : Json) : Reply := { success := true, value := some value, code := 200 }

def ofFailure (failure : Failure) : Reply :=
  { success := false, error := some failure.message, code := failure.code }

def ofResult : Except Failure Json → Reply
  | .ok value => ok value
  | .error failure => ofFailure failure

/-- A field for what is present. -/
def presentField {α : Type} (name : String) (encode : α → Json) :
    Option α → List (String × Json)
  | none => []
  | some a => [(name, encode a)]

def toJson (r : Reply) : Json :=
  .object
    ([("success", .bool r.success)] ++ presentField "value" id r.value ++
      presentField "error" .string r.error ++ [("code", .int r.code)])

def ofJson (value : Json) : Json.Decode Reply := do
  let fields ← Json.asRecord .json ["success", "value", "error", "code"] value
  let success ← Json.required ["success"] Json.asBool fields
  let value ← Json.optional ["value"] .ok fields
  let error ← Json.optional ["error"] Json.asString fields
  let code ← Json.required ["code"] (Json.asNat (Nat.pow 2 16)) fields
  return { success, value, error, code }

end Reply

end TagRelay.Remote
