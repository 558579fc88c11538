import TagRelay.Config.Encode
import TagRelay.Json.Free

/-!
# Reading configuration

Each field is read under its first name or under an older one, and takes its default
when it is absent.
-/

namespace TagRelay.Config

open Json (Decode Source asString asBool asNat64 asList asWord asRecord required withDefault
  optional)

def wordsOf {α : Type} (word : α → String) (all : List α) : List (String × α) :=
  all.map fun a => (word a, a)

def ReportKind.words : List (String × ReportKind) :=
  wordsOf word [.onReportPeriod, .onChange, .onChangeOrReportPeriod, .onReceived]

def ValueType.words : List (String × ValueType) :=
  wordsOf word [.int, .double, .float, .string, .bool] ++
    [("integer", .int), ("boolean", .bool)]

def TimestampLocation.words : List (String × TimestampLocation) :=
  wordsOf word [.gateway, .source]

def SessionKind.words : List (String × SessionKind) := wordsOf word [.simulated, .memory]

def LogFormat.words : List (String × LogFormat) := wordsOf word [.structuredJson, .pretty]

def asAddress (value : Json) : Decode Address := do
  let text ← asString value
  match Address.read text with
  | some address => .ok address
  | none => .error .wrongType

def Strategy.ofJson (source : Source) (value : Json) : Decode Strategy := do
  let fields ← asRecord source ["type", "report_period_ms"] value
  let kind ← required ["type"] (asWord source ReportKind.words) fields
  let period ← optional ["report_period_ms", "reportPeriod"] asNat64 fields
  return { kind, period }

def strategyField (source : Source) (fields : List (String × Json)) :
    Decode (Option Strategy) :=
  optional ["report_strategy", "reportStrategy"] (Strategy.ofJson source) fields

def Tag.ofJson (source : Source) (value : Json) : Decode Tag := do
  let fields ←
    asRecord source ["key", "tag", "type", "timestamp_location", "report_strategy"] value
  let key ← required ["key"] asString fields
  let path ← required ["tag", "tagPath"] asString fields
  let valueType ← optional ["type"] (asWord source ValueType.words) fields
  let timestampLocation ←
    withDefault ["timestamp_location", "timestampLocation"] .gateway
      (asWord source TimestampLocation.words) fields
  let strategy ← strategyField source fields
  return { key, path, valueType, timestampLocation, strategy }

def AttributeUpdate.ofJson (source : Source) (value : Json) : Decode AttributeUpdate := do
  let fields ← asRecord source ["key", "tag"] value
  let key ← required ["key", "attributeOnThingsBoard"] asString fields
  let path ← required ["tag", "attributeOnDevice", "tagPath"] asString fields
  return { key, path }

def Method.ofJson (source : Source) (value : Json) : Decode Method := do
  let fields ← asRecord source ["method", "tag", "value"] value
  let name ← required ["method"] asString fields
  let path ← required ["tag"] asString fields
  let value ← optional ["value"] (Json.asFree source) fields
  return { name, path, value }

def Device.ofJson (source : Source) (value : Json) : Decode Device := do
  let fields ←
    asRecord source
      ["name", "profile", "converter", "report_strategy", "attributes", "timeseries",
        "attributes_updates", "rpc_methods"] value
  let name ← required ["name", "deviceNamePattern"] asString fields
  let profile ← withDefault ["profile", "deviceTypePattern"] "default" asString fields
  let converter ← optional ["converter"] asString fields
  let strategy ← strategyField source fields
  let attributes ← withDefault ["attributes"] [] (asList (Tag.ofJson source)) fields
  let timeseries ← withDefault ["timeseries"] [] (asList (Tag.ofJson source)) fields
  let attributeUpdates ←
    withDefault ["attributes_updates", "attributeUpdates"] []
      (asList (AttributeUpdate.ofJson source)) fields
  let methods ←
    withDefault ["rpc_methods", "rpcMethods"] [] (asList (Method.ofJson source)) fields
  return { name, profile, converter, strategy, attributes, timeseries, attributeUpdates, methods }

def Server.ofJson (source : Source) (value : Json) : Decode Server := do
  let fields ←
    asRecord source
      ["name", "host", "poll_period_ms", "timeout_ms", "reconnect_delay_ms", "idle_tick_ms",
        "stop_timeout_ms", "queue_capacity", "session"] value
  let standard : Server := {}
  let name ← withDefault ["name"] standard.name asString fields
  let host ← withDefault ["host"] standard.host asString fields
  let pollPeriod ←
    withDefault ["poll_period_ms", "pollPeriodInMillis"] standard.pollPeriod asNat64 fields
  let timeout ← withDefault ["timeout_ms", "timeoutMs"] standard.timeout asNat64 fields
  let reconnectDelay ←
    withDefault ["reconnect_delay_ms", "reconnectDelayMs"] standard.reconnectDelay asNat64 fields
  let idleTick ← withDefault ["idle_tick_ms"] standard.idleTick asNat64 fields
  let stopTimeout ← withDefault ["stop_timeout_ms"] standard.stopTimeout asNat64 fields
  let queueCapacity ← withDefault ["queue_capacity"] standard.queueCapacity asNat64 fields
  let session ←
    withDefault ["session"] standard.session (asWord source SessionKind.words) fields
  return { name, host, pollPeriod, timeout, reconnectDelay, idleTick, stopTimeout,
           queueCapacity, session }

def Connector.ofJson (source : Source) (value : Json) : Decode Connector := do
  let fields ←
    asRecord source ["name", "id", "type", "server", "report_strategy", "devices"] value
  let standard : Connector := {}
  let name ← withDefault ["name"] standard.name asString fields
  let id ← withDefault ["id"] standard.id asString fields
  let type ← withDefault ["type"] standard.type asString fields
  let server ← withDefault ["server"] {} (Server.ofJson source) fields
  let strategy ← strategyField source fields
  let devices ← withDefault ["devices", "mapping"] [] (asList (Device.ofJson source)) fields
  return { name, id, type, server, strategy, devices }

def Logging.ofJson (source : Source) (value : Json) : Decode Logging := do
  let fields ← asRecord source ["directory", "format", "file_prefix"] value
  let standard : Logging := {}
  let directory ← withDefault ["directory"] standard.directory asString fields
  let format ← withDefault ["format"] standard.format (asWord source LogFormat.words) fields
  let filePrefix ← optional ["file_prefix"] asString fields
  return { directory, format, filePrefix }

def Metrics.ofJson (source : Source) (value : Json) : Decode Metrics := do
  let fields ← asRecord source ["enabled", "listen"] value
  let standard : Metrics := {}
  let enabled ← withDefault ["enabled"] standard.enabled asBool fields
  let listen ← withDefault ["listen"] standard.listen asAddress fields
  return { enabled, listen }

def App.ofJson (source : Source) (value : Json) : Decode App := do
  let fields ← asRecord source ["connector", "logging", "metrics"] value
  let connector ← withDefault ["connector"] {} (Connector.ofJson source) fields
  let logging ← withDefault ["logging"] {} (Logging.ofJson source) fields
  let metrics ← withDefault ["metrics"] {} (Metrics.ofJson source) fields
  return { connector, logging, metrics }

end TagRelay.Config
