import TagRelay.Config.Validate
import TagRelay.Strategy
import TagRelay.Tag.Reading

/-!
# Uplinks

The uplink of a device is what is polled of it and how it is reported.  Its tags are
those of the attributes followed by those of the timeseries, and a batched read asks
for their paths in this order.
-/

namespace TagRelay

/-- One polled tag. -/
structure Tag where
  key : String
  path : String
  place : Section
  timestampLocation : Config.TimestampLocation
  valueType : Option Config.ValueType
  /-- A strategy for this tag alone. -/
  strategy : Option ReportStrategy

structure Uplink where
  name : String
  profile : String
  tags : List Tag
  strategy : Option ReportStrategy

namespace Uplink

def tagPaths (u : Uplink) : List String := u.tags.map Tag.path

def hasTags (u : Uplink) : Bool := !u.tags.isEmpty

/-- The first tag with this key. -/
def tag? (u : Uplink) (key : String) : Option Tag := u.tags.find? fun tag => tag.key = key

/-- A strategy of the tag comes before the one of the device. -/
def strategyFor (u : Uplink) (tag : Tag) : Option ReportStrategy := tag.strategy.or u.strategy

end Uplink

/-- The reply to one batched read, and when it came in, in Unix milliseconds. -/
structure Acquisition where
  readings : List Reading
  acquiredAt : Int

end TagRelay
