import TagRelay.Json.Basic

/-!
# Records

A record is what a connector sends for one device and one poll cycle: attribute
entries, and telemetry entries with a timestamp in Unix milliseconds.  Every entry
holds one key with its value.
-/

namespace TagRelay

structure Telemetry where
  timestamp : Int
  key : String
  value : Json

structure Record where
  device : String
  profile : String
  attributes : List (String × Json) := []
  telemetry : List Telemetry := []

namespace Record

/-- The value of the first attribute entry with this key. -/
def attribute? (r : Record) (key : String) : Option Json := Json.lookup key r.attributes

/-- Timestamp and value of the first telemetry entry with this key. -/
def telemetry? (r : Record) (key : String) : Option (Int × Json) :=
  (r.telemetry.find? fun entry => entry.key = key).map fun entry =>
    (entry.timestamp, entry.value)

def isEmpty (r : Record) : Bool := r.attributes.isEmpty && r.telemetry.isEmpty

def toJson (r : Record) : Json :=
  .object
    [("deviceName", .string r.device), ("deviceType", .string r.profile),
      ("attributes", .array (r.attributes.map fun entry => .object [entry])),
      ("telemetry", .array (r.telemetry.map fun entry =>
        .object [("ts", .int entry.timestamp), ("values", .object [(entry.key, entry.value)])]))]

end Record

end TagRelay
