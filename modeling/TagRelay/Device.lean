import TagRelay.Conversion.Registry

/-!
# Devices

A device is built once from its declaration: its uplink, the tags to which attribute
updates and methods write, and its converter.  A strategy that does not pass its check
counts as not declared, so the next one in the order tag, device, connector applies.
-/

namespace TagRelay

structure Device extends Uplink where
  /-- Paths by the keys of attribute updates. -/
  updates : Roster String
  methods : Roster Config.Method
  converter : Converter

namespace Device

def tagOfConfig (place : Section) (declared : Config.Tag) : Tag where
  key := declared.key
  path := declared.path
  place := place
  timestampLocation := declared.timestampLocation
  valueType := declared.valueType
  strategy := declared.strategy.bind ReportStrategy.ofConfig?

/-- The uplink of a declaration, with a strategy for devices that have none. -/
def uplinkOfConfig (declared : Config.Device) (fallback : Option ReportStrategy) : Uplink where
  name := declared.name
  profile := declared.profile
  tags :=
    declared.attributes.map (tagOfConfig .attributes) ++
      declared.timeseries.map (tagOfConfig .timeseries)
  strategy := (declared.strategy.bind ReportStrategy.ofConfig?).or fallback

def ofConfig (declared : Config.Device) (fallback : Option ReportStrategy)
    (registry : Registry) : Except ConnectorError Device :=
  match declared.validate with
  | .error violation => .error (.invalidDevice declared.name violation.message)
  | .ok () =>
      match registry.resolve declared.converter with
      | .error cause => .error cause
      | .ok converter =>
          .ok { uplinkOfConfig declared fallback with
            updates := Roster.ofList (declared.attributeUpdates.map fun u => (u.key, u.path))
            methods := Roster.ofList (declared.methods.map fun m => (m.name, m))
            converter := converter }

/-- The tag to which changes of a shared attribute are written. -/
def updatePath? (d : Device) (key : String) : Option String := d.updates.find? key

/-- The tag that a key means in a call: an attribute update first, then a polled tag. -/
def callPath? (d : Device) (key : String) : Option String :=
  (d.updatePath? key).or ((d.tag? key).map Tag.path)

def method? (d : Device) (name : String) : Option Config.Method := d.methods.find? name

end Device

/-- The reply to one batched read, on its way to the converter of its device. -/
structure Unconverted where
  device : Device
  unit : Acquisition

end TagRelay
