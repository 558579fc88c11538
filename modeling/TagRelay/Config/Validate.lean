import TagRelay.Config.Basic
import TagRelay.Text.Blank

/-!
# Validation of configuration

A configuration is checked in a fixed order: the server, that there is a device, and
then device by device.  `violations` lists everything that is wrong in this order,
and the first of it is what `validate` reports.
-/

namespace TagRelay

/-- The part of a record to which a tag belongs. -/
inductive Section where
  | attributes
  | timeseries
  deriving Repr, DecidableEq

def Section.word : Section → String
  | .attributes => "attributes"
  | .timeseries => "timeseries"

namespace Config

inductive Violation where
  | serverName
  | pollPeriod
  | idleTick
  | reconnectDelay
  | queueCapacity
  | noDevices
  | deviceName
  | missingKey (device : String) (place : Section)
  | missingPath (device key : String) (place : Section)
  | repeatedKey (device key : String) (place : Section)
  | updateWithoutPath (device key : String)
  | incompleteMethod (device : String)
  | repeatedDevice (device : String)
  deriving Repr, DecidableEq

def Violation.message : Violation → String
  | .serverName => "server name must not be empty"
  | .pollPeriod => "poll period must be greater than zero"
  | .idleTick => "idle tick must be greater than zero"
  | .reconnectDelay => "reconnect delay must be greater than zero"
  | .queueCapacity => "queue capacity must be greater than zero"
  | .noDevices => "connector must declare at least one device"
  | .deviceName => "device name must not be empty"
  | .missingKey device place =>
      "device '" ++ device ++ "' has a " ++ place.word ++ " entry without a key"
  | .missingPath device key place =>
      "device '" ++ device ++ "' key '" ++ key ++ "' in " ++ place.word ++ " has no tag path"
  | .repeatedKey device key place =>
      "device '" ++ device ++ "' declares key '" ++ key ++ "' twice in " ++ place.word
  | .updateWithoutPath device key =>
      "device '" ++ device ++ "' attribute update '" ++ key ++ "' has no tag path"
  | .incompleteMethod device =>
      "device '" ++ device ++ "' declares an rpc method without name or tag"
  | .repeatedDevice device => "device '" ++ device ++ "' is declared more than once"

/-- One violation when the condition holds. -/
def violated (condition : Bool) (violation : Violation) : List Violation :=
  if condition then [violation] else []

def Server.violations (s : Server) : List Violation :=
  violated (Text.isMissing s.name) .serverName ++
    violated (s.pollPeriod == 0) .pollPeriod ++
    violated (s.idleTick == 0) .idleTick ++
    violated (s.reconnectDelay == 0) .reconnectDelay ++
    violated (s.queueCapacity == 0) .queueCapacity

/-- The tags of one section, after those with the keys `seen`. -/
def tagViolations (device : String) (place : Section) : List String → List Tag → List Violation
  | _, [] => []
  | seen, tag :: rest =>
      violated (Text.isMissing tag.key) (.missingKey device place) ++
        violated (Text.isMissing tag.path) (.missingPath device tag.key place) ++
        violated (seen.contains tag.key) (.repeatedKey device tag.key place) ++
        tagViolations device place (tag.key :: seen) rest

def Device.violations (d : Device) : List Violation :=
  violated (Text.isMissing d.name) .deviceName ++
    tagViolations d.name .attributes [] d.attributes ++
    tagViolations d.name .timeseries [] d.timeseries ++
    d.attributeUpdates.flatMap (fun update =>
      violated (Text.isMissing update.path) (.updateWithoutPath d.name update.key)) ++
    d.methods.flatMap (fun method =>
      violated (Text.isMissing method.name || Text.isMissing method.path)
        (.incompleteMethod d.name))

/-- The devices after those with the names `seen`. -/
def deviceViolations : List String → List Device → List Violation
  | _, [] => []
  | seen, device :: rest =>
      device.violations ++ violated (seen.contains device.name) (.repeatedDevice device.name) ++
        deviceViolations (device.name :: seen) rest

def Connector.violations (c : Connector) : List Violation :=
  c.server.violations ++ violated c.devices.isEmpty .noDevices ++ deviceViolations [] c.devices

/-- The first of a list of violations is reported. -/
def firstViolation : List Violation → Except Violation Unit
  | [] => .ok ()
  | violation :: _ => .error violation

def Device.validate (d : Device) : Except Violation Unit := firstViolation d.violations

def Connector.validate (c : Connector) : Except Violation Unit := firstViolation c.violations

end Config

end TagRelay
