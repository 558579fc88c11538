import TagRelay.Config.Address
import TagRelay.Json.Basic

/-!
# Configuration

What a configuration file declares: the connector with its server and devices, the
log, and the metrics endpoint.  Durations are whole milliseconds.
-/

namespace TagRelay.Config

/-- When values of a key are to be reported. -/
inductive ReportKind where
  | onReportPeriod
  | onChange
  | onChangeOrReportPeriod
  | onReceived
  deriving Repr, DecidableEq

namespace ReportKind

def requiresPeriod : ReportKind → Bool
  | .onReportPeriod | .onChangeOrReportPeriod => true
  | _ => false

/-- The name in diagnostics. -/
def name : ReportKind → String
  | .onReportPeriod => "OnReportPeriod"
  | .onChange => "OnChange"
  | .onChangeOrReportPeriod => "OnChangeOrReportPeriod"
  | .onReceived => "OnReceived"

end ReportKind

structure Strategy where
  kind : ReportKind
  period : Option Nat := none
  deriving Repr, DecidableEq

/-- The type to which good values of a tag are converted. -/
inductive ValueType where
  | int
  | double
  | float
  | string
  | bool
  deriving Repr, DecidableEq

/-- Where the timestamp of a timeseries entry comes from. -/
inductive TimestampLocation where
  | gateway
  | source
  deriving Repr, DecidableEq

/-- One polled tag: the key under which it is reported and its path in the source. -/
structure Tag where
  key : String
  path : String
  valueType : Option ValueType := none
  timestampLocation : TimestampLocation := .gateway
  strategy : Option Strategy := none
  deriving Repr, DecidableEq

/-- A shared attribute and the tag to which its changes are written. -/
structure AttributeUpdate where
  key : String
  path : String
  deriving Repr, DecidableEq

/-- A method that writes one tag, and the value it writes when a call brings none. -/
structure Method where
  name : String
  path : String
  value : Option Json := none

structure Device where
  name : String
  profile : String := "default"
  converter : Option String := none
  strategy : Option Strategy := none
  attributes : List Tag := []
  timeseries : List Tag := []
  attributeUpdates : List AttributeUpdate := []
  methods : List Method := []

/-- The kind of session behind the connector. -/
inductive SessionKind where
  | simulated
  | memory
  deriving Repr, DecidableEq

structure Server where
  name : String := "Matrikon.OPC.Simulation.1"
  host : String := "localhost"
  pollPeriod : Nat := 5000
  timeout : Nat := 5000
  reconnectDelay : Nat := 10000
  /-- The longest single sleep of the poll loop between two cycles. -/
  idleTick : Nat := 200
  stopTimeout : Nat := 5000
  /-- How many readings may wait for conversion. -/
  queueCapacity : Nat := 1024
  session : SessionKind := .simulated
  deriving Repr, DecidableEq

structure Connector where
  name : String := "OPC-DA Connector"
  id : String := "opcda"
  /-- With an underscore, the lead-in that method names may have. -/
  type : String := "opcda"
  server : Server := {}
  strategy : Option Strategy := none
  devices : List Device := []

/-- The first device of this name. -/
def Connector.device? (c : Connector) (name : String) : Option Device :=
  c.devices.find? fun device => device.name = name

inductive LogFormat where
  | structuredJson
  | pretty
  deriving Repr, DecidableEq

structure Logging where
  directory : String := "target/logs"
  format : LogFormat := .structuredJson
  filePrefix : Option String := none
  deriving Repr, DecidableEq

structure Metrics where
  enabled : Bool := false
  listen : Address := .v4 [0, 0, 0, 0] 9899
  deriving Repr, DecidableEq

structure App where
  connector : Connector := {}
  logging : Logging := {}
  metrics : Metrics := {}

end TagRelay.Config
