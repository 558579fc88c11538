import TagRelay.Config.Basic

/-!
# Writing configuration

Every field is written under its first name, and a value that is absent as null.
-/

namespace TagRelay.Config

def ReportKind.word : ReportKind → String
  | .onReportPeriod => "ON_REPORT_PERIOD"
  | .onChange => "ON_CHANGE"
  | .onChangeOrReportPeriod => "ON_CHANGE_OR_REPORT_PERIOD"
  | .onReceived => "ON_RECEIVED"

def ValueType.word : ValueType → String
  | .int => "int"
  | .double => "double"
  | .float => "float"
  | .string => "string"
  | .bool => "bool"

def TimestampLocation.word : TimestampLocation → String
  | .gateway => "gateway"
  | .source => "source"

def SessionKind.word : SessionKind → String
  | .simulated => "simulated"
  | .memory => "memory"

def LogFormat.word : LogFormat → String
  | .structuredJson => "structured-json"
  | .pretty => "pretty"

def natJson (n : Nat) : Json := .int n

def Strategy.toJson (s : Strategy) : Json :=
  .object [("type", .string s.kind.word), ("report_period_ms", .ofOption natJson s.period)]

def Tag.toJson (t : Tag) : Json :=
  .object
    [("key", .string t.key), ("tag", .string t.path),
      ("type", .ofOption (fun v => .string v.word) t.valueType),
      ("timestamp_location", .string t.timestampLocation.word),
      ("report_strategy", .ofOption Strategy.toJson t.strategy)]

def AttributeUpdate.toJson (u : AttributeUpdate) : Json :=
  .object [("key", .string u.key), ("tag", .string u.path)]

def Method.toJson (m : Method) : Json :=
  .object
    [("method", .string m.name), ("tag", .string m.path), ("value", .ofOption id m.value)]

def Device.toJson (d : Device) : Json :=
  .object
    [("name", .string d.name), ("profile", .string d.profile),
      ("converter", .ofOption .string d.converter),
      ("report_strategy", .ofOption Strategy.toJson d.strategy),
      ("attributes", .array (d.attributes.map Tag.toJson)),
      ("timeseries", .array (d.timeseries.map Tag.toJson)),
      ("attributes_updates", .array (d.attributeUpdates.map AttributeUpdate.toJson)),
      ("rpc_methods", .array (d.methods.map Method.toJson))]

def Server.toJson (s : Server) : Json :=
  .object
    [("name", .string s.name), ("host", .string s.host),
      ("poll_period_ms", natJson s.pollPeriod), ("timeout_ms", natJson s.timeout),
      ("reconnect_delay_ms", natJson s.reconnectDelay),
      ("idle_tick_ms", natJson s.idleTick), ("stop_timeout_ms", natJson s.stopTimeout),
      ("queue_capacity", natJson s.queueCapacity), ("session", .string s.session.word)]

def Connector.toJson (c : Connector) : Json :=
  .object
    [("name", .string c.name), ("id", .string c.id), ("type", .string c.type),
      ("server", c.server.toJson), ("report_strategy", .ofOption Strategy.toJson c.strategy),
      ("devices", .array (c.devices.map Device.toJson))]

def Logging.toJson (l : Logging) : Json :=
  .object
    [("directory", .string l.directory), ("format", .string l.format.word),
      ("file_prefix", .ofOption .string l.filePrefix)]

def Metrics.toJson (m : Metrics) : Json :=
  .object [("enabled", .bool m.enabled), ("listen", .string m.listen.text)]

def App.toJson (a : App) : Json :=
  .object
    [("connector", a.connector.toJson), ("logging", a.logging.toJson),
      ("metrics", a.metrics.toJson)]

end TagRelay.Config
