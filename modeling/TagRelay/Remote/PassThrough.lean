import TagRelay.Device
import TagRelay.Link
import TagRelay.Remote.Target

/-!
# Pass-through of calls

Calls from the platform go straight to the session, next to the poll loop and through
the same link.  A call is resolved first, without the session, to a read or a write of
one tag or to a failure; then it needs a connected link, and makes one call of the
session.  Failures go back to the caller and never change the state of the link.
-/

namespace TagRelay.Remote

/-- What calls are resolved against. -/
structure PassThrough where
  devices : Roster Device
  /-- The type of the connector. -/
  type : String

/-- A resolved call. -/
inductive Plan where
  | read (path : String)
  /-- A write, and the value to answer when it succeeds. -/
  | write (path : String) (value answer : Json)

/-- Reads one tag. -/
def readOne (path : String) : Link.Program (Except SessionError Reading) := do
  match ← Link.act (.call (.read [path])) with
  | .error cause => return .error cause
  | .ok readings =>
      match readings.find? fun reading => reading.path = path with
      | some reading => return .ok reading
      | none => return .error (.other ("no reading returned for " ++ path))

/-- The answer to a read. -/
def readAnswer (path : String) (reading : Reading) : Json :=
  .object
    [("quality", .int reading.quality.code.toNat), ("tag", .string path),
      ("value", reading.value.toJson)]

namespace Plan

/-- The session call of a plan, over a connected link. -/
def performConnected : Plan → Link.Program (Except Failure Json)
  | .read path => do
      match ← readOne path with
      | .ok reading => return .ok (readAnswer path reading)
      | .error cause => return .error (.session cause)
  | .write path value answer => do
      match ← Link.act (.call (.write path (TagValue.ofJson value))) with
      | .ok () => return .ok answer
      | .error cause => return .error (.session cause)

def perform (plan : Plan) : Link.Program (Except Failure Json) := do
  let state ← Link.act .look
  if state = .connected then plan.performConnected else return .error .notConnected

end Plan

/-- The path of a target on a device. -/
def Target.resolve (device : Device) : Target → Except Failure String
  | .path named => .ok named
  | .key named =>
      match device.callPath? named with
      | some found => .ok found
      | none => .error (.keyNotMapped device.name named)
  | .either name => .ok ((device.callPath? name).getD name)

namespace PassThrough

def device (p : PassThrough) (name : String) : Except Failure Device :=
  match p.devices.find? name with
  | some device => .ok device
  | none => .error (.deviceNotFound name)

/-- The plan for a method that the device declares, called by a name. -/
def planDeclared (device : Device) (name called : String) (params : Json) :
    Except Failure Plan :=
  match device.method? name with
  | none => .error (.methodNotFound called)
  | some method =>
      if params.isNull then
        match method.value with
        | some value => .ok (.write method.path value (.string "success"))
        | none => .error (.invalidParams ("method `" ++ name ++ "` needs a value"))
      else .ok (.write method.path params (.string "success"))

/-- Resolves a request. -/
def plan (p : PassThrough) (request : Request) : Except Failure Plan := do
  let device ← p.device request.device
  match Method.ofText p.type request.method with
  | .read =>
      let target ← Target.ofReadParams request.params
      let path ← target.resolve device
      return .read path
  | .write =>
      let (target, value) ← Target.ofWriteParams request.params
      let path ← target.resolve device
      return .write path value value
  | .declared name => planDeclared device name request.method request.params

/-- The name under which a request is counted; methods that the device does not
declare share one. -/
def countedName (p : PassThrough) (request : Request) : String :=
  match Method.ofText p.type request.method with
  | .declared name =>
      match (p.devices.find? request.device).bind fun device => device.method? name with
      | some method => method.name
      | none => "unknown"
  | builtIn => builtIn.name

/-- Answers a request and counts it. -/
def answer (p : PassThrough) (request : Request) : Link.Program Reply := do
  let result ←
    match p.plan request with
    | .ok plan => plan.perform
    | .error failure => pure (.error failure)
  let reply := Reply.ofResult result
  Link.act (.count (.call (p.countedName request) reply.code))
  return reply

/-- The name under which the keys of updates are counted. -/
def updateName : String := "attribute_update"

/-- Writes one changed attribute. -/
def writeAttribute (device : Device) (key : String) (value : Json) :
    Link.Program (Except Failure Json) :=
  match device.updatePath? key with
  | some path => (Plan.write path value value).perform
  | none => pure (.error (.keyNotMapped device.name key))

/-- Writes changed attributes one after the other, whatever happens to any of them. -/
def writeAttributes (device : Device) :
    List (String × Json) → Link.Program (List (String × Reply))
  | [] => pure []
  | (key, value) :: rest => do
      let reply := Reply.ofResult (← writeAttribute device key value)
      Link.act (.count (.call updateName reply.code))
      return (key, reply) :: (← writeAttributes device rest)

/-- Applies an update and answers for each of its keys. -/
def update (p : PassThrough) (u : Update) :
    Link.Program (Except Failure (List (String × Reply))) := do
  match p.device u.device with
  | .error failure =>
      Link.act (.count (.call updateName failure.code))
      return .error failure
  | .ok device => return .ok (← writeAttributes device u.data)

end PassThrough

end TagRelay.Remote
