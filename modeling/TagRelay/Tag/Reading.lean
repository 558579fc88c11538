import TagRelay.Calendar.Reader
import TagRelay.Tag.Quality
import TagRelay.Tag.Value

/-!
# Readings

A reading is what a source says about one tag: its path, value, quality and perhaps
a timestamp.  A timestamp is usable when it names an instant: instants always do,
milliseconds when they are positive, texts when they can be read.
-/

namespace TagRelay

inductive SourceTimestamp where
  | instant (t : Calendar.Instant)
  | millis (n : Int)
  | text (s : String)

/-- The Unix milliseconds of a usable timestamp. -/
def SourceTimestamp.toMillis : SourceTimestamp → Option Int
  | .instant t => some t.millis
  | .millis n => if 0 < n then some n else none
  | .text s => (Calendar.readInstant s).map Calendar.Instant.millis

structure Reading where
  path : String
  value : TagValue
  quality : Quality
  timestamp : Option SourceTimestamp := none

/-- The reading of a tag that the source does not know. -/
def Reading.unknown (path : String) : Reading := ⟨path, .null, .bad, none⟩

end TagRelay
