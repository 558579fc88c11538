import TagRelay.Pipeline.Poll
import TagRelay.Remote.PassThrough

/-!
# Connectors

A connector is assembled from its configuration.  Its devices are built in the order of
their declaration, and the first that cannot be built makes the whole assembly fail.  A
strategy of the connector that does not pass its check counts as not declared.
-/

namespace TagRelay

structure Connector where
  name : String
  id : String
  server : Config.Server
  devices : Roster Device
  /-- The type of the connector, which method names may carry. -/
  type : String

namespace Connector

/-- The devices of a list of declarations, all of them or none. -/
def buildDevices (strategy : Option ReportStrategy) (registry : Registry) :
    List Config.Device → Except ConnectorError (List Device)
  | [] => .ok []
  | declared :: rest => do
      let device ← Device.ofConfig declared strategy registry
      return device :: (← buildDevices strategy registry rest)

/-- Devices by name; a later device takes the place of an earlier one of its name. -/
def rosterOf (devices : List Device) : Roster Device :=
  Roster.ofList (devices.map fun device => (device.name, device))

def build (declared : Config.Connector) (registry : Registry) :
    Except ConnectorError Connector := do
  let strategy := declared.strategy.bind ReportStrategy.ofConfig?
  let devices ← buildDevices strategy registry declared.devices
  return {
    name := declared.name
    id := declared.id
    server := declared.server
    devices := rosterOf devices
    type := declared.type }

def passThrough (c : Connector) : Remote.PassThrough := ⟨c.devices, c.type⟩

def pollSettings (c : Connector) : Poll.Settings where
  target := ⟨c.server.name, c.server.host⟩
  pollPeriod := c.server.pollPeriod
  reconnectDelay := c.server.reconnectDelay
  idleTick := c.server.idleTick
  devices := c.devices.items

end Connector

/-- A look at a connector from outside. -/
structure Status where
  name : String
  state : Link.State
  devices : Nat
  pollCycles : Nat
  received : Nat
  sent : Nat
  deriving Repr, DecidableEq

namespace Status

def of (c : Connector) (state : Link.State) (metrics : Metrics) : Status where
  name := c.name
  state := state
  devices := c.devices.length
  pollCycles := metrics.pollCycles
  received := metrics.received
  sent := metrics.sent

def toJson (s : Status) : Json :=
  .object
    [("name", .string s.name), ("state", .string s.state.word), ("devices", .int s.devices),
      ("poll_cycles", .int s.pollCycles), ("messages_received", .int s.received),
      ("messages_sent", .int s.sent)]

end Status

end TagRelay
