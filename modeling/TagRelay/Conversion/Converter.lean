import TagRelay.Conversion.Coercion
import TagRelay.Conversion.Uplink
import TagRelay.Error
import TagRelay.Record

/-!
# Conversion

A converter turns one acquisition of a device into a record.  The standard one gives
every tag that has a reading one entry and counts the other tags as failures.  A
reading that is not trusted is reported as a diagnostic text in place of its value.
-/

namespace TagRelay

/-- A record, and how many tags were tried and how many of them had no reading. -/
structure Conversion where
  record : Record
  attempts : Nat
  failures : Nat

structure Converter where
  /-- How the converter shows itself in diagnostics. -/
  description : String
  convert : Uplink → Acquisition → Except ConnectorError Conversion

/-- The record that holds nothing but the identity of its device. -/
def Record.identity (u : Uplink) : Record := { device := u.name, profile := u.profile }

namespace Conversion

/-- The reading at the position of the tag if it has the right path, otherwise the
first reading with this path. -/
def readingFor (readings : List Reading) (index : Nat) (path : String) : Option Reading :=
  match readings[index]? with
  | some reading =>
      if reading.path = path then some reading
      else readings.find? fun reading => reading.path = path
  | none => readings.find? fun reading => reading.path = path

/-- A trusted value in its declared type, or as it is where it has no such form. -/
def trustedValue (tag : Tag) (value : TagValue) : TagValue :=
  match tag.valueType with
  | some type => (value.coerce type).getD value
  | none => value

def reportedValue (tag : Tag) (reading : Reading) : Json :=
  if reading.quality.isGood then (trustedValue tag reading.value).toJson
  else .string reading.quality.diagnostic

/-- The timestamp of the source where it is wanted and usable, else the time of the
acquisition. -/
def reportedTime (tag : Tag) (reading : Reading) (acquiredAt : Int) : Int :=
  match tag.timestampLocation with
  | .source => (reading.timestamp.bind SourceTimestamp.toMillis).getD acquiredAt
  | .gateway => acquiredAt

/-- The key that the strategy gives, or the declared key. -/
def reportedKey (u : Uplink) (tag : Tag) : String :=
  match u.strategyFor tag with
  | some strategy => ((strategy.resolveKey u.name tag.key).toOption).getD tag.key
  | none => tag.key

/-- The entry of a tag. -/
def entry (u : Uplink) (tag : Tag) (reading : Reading) (acquiredAt : Int) : Telemetry :=
  ⟨reportedTime tag reading acquiredAt, reportedKey u tag, reportedValue tag reading⟩

/-- The tags from position `index` on, each with the reading chosen for it. -/
def matched (readings : List Reading) : (index : Nat) → List Tag → List (Tag × Option Reading)
  | _, [] => []
  | index, tag :: rest =>
      (tag, readingFor readings index tag.path) :: matched readings (index + 1) rest

/-- The entries of one section in order. -/
def entries (u : Uplink) (unit : Acquisition) (place : Section) : List Telemetry :=
  (matched unit.readings 0 u.tags).filterMap fun (tag, reading) =>
    if tag.place = place then reading.map fun r => entry u tag r unit.acquiredAt else none

/-- How many tags have no reading. -/
def missing (u : Uplink) (unit : Acquisition) : Nat :=
  (matched unit.readings 0 u.tags).countP fun (_, reading) => reading.isNone

/-- A reply without any reading to a device with tags is an error. -/
def standard (u : Uplink) (unit : Acquisition) : Except ConnectorError Conversion :=
  if u.hasTags ∧ unit.readings.isEmpty then
    .error (.conversion u.name "reply carries no readings")
  else
    .ok {
      record := { Record.identity u with
        attributes := (entries u unit .attributes).map fun e => (e.key, e.value)
        telemetry := entries u unit .timeseries }
      attempts := u.tags.length
      failures := missing u unit }

end Conversion

def Converter.standard : Converter := ⟨"OpcDaUplinkConverter", Conversion.standard⟩

end TagRelay
