import TagRelay.Decimal.Whole
import TagRelay.Roster
import TagRelay.Session.Basic

/-!
# Simulated sessions

A stand-in for a simulation server.  The tags of its catalogue have generators, which
give a new value at every read; a tag that was written has the written value until the
session is closed.  Random numbers and the time come from outside.
-/

namespace TagRelay

/-- How the values of a simulated tag come about.  Periods are in milliseconds. -/
inductive Generator where
  | randomInt (least greatest : Int)
  | randomReal (low high : Float)
  | randomText
  | randomBool
  | now
  | randomInts
  | triangle (period : Nat) (offset amplitude : Float)
  | sawTooth (period : Nat) (scale : Float)
  | square (period : Nat) (high low : Float)
  | squareBool (period : Nat)

def Generator.catalogue : List (String × Generator) :=
  [("Bucket.Brigade.Boolean", .randomBool),
    ("Bucket.Brigade.Int4", .randomInt 0 10000),
    ("Bucket.Brigade.Real8", .randomReal (-50) 150),
    ("Bucket.Brigade.Time", .now),
    ("Random.ArrayInt2", .randomInts),
    ("Random.Boolean", .randomBool),
    ("Random.Int1", .randomInt 0 255),
    ("Random.Int2", .randomInt (-32768) 32767),
    ("Random.Int4", .randomInt 0 100),
    ("Random.Real4", .randomReal 0 100),
    ("Random.Real8", .randomReal 0 100),
    ("Random.String", .randomText),
    ("Random.Time", .now),
    ("Saw-toothed Waves.Int4", .sawTooth 20000 100),
    ("Saw-toothed Waves.Real8", .sawTooth 30000 100),
    ("Square Waves.Boolean", .squareBool 5000),
    ("Square Waves.Int4", .square 20000 100 0),
    ("Triangle Waves.Int4", .triangle 20000 50 50),
    ("Triangle Waves.Real8", .triangle 30000 50 50)]

structure Simulated where
  /-- The next random number, and for each number the one that comes after it. -/
  random : Nat
  following : Nat → Nat
  /-- The time, in Unix milliseconds. -/
  clock : Nat := 0
  /-- Where the session is connected to and since when, while it is open. -/
  opened : Option (Endpoint × Nat) := none
  written : Roster TagValue := []

namespace Simulated

/-- A step of a linear congruential generator with 64 bits. -/
def scramble (n : Nat) : Nat := (n * 6364136223846793005 + 1442695040888963407) % Nat.pow 2 64

def ofSeed (seed : Nat) : Simulated := { random := scramble seed, following := scramble }

/-- The seed of a session for which none is chosen. -/
def defaultSeed : Nat := 0x0DA5EED

/-- The paths of the catalogue in the order of their characters. -/
def tagPaths : List String := Generator.catalogue.map Prod.fst

/-- A number below `bound`, from the upper half of a random number. -/
def draw (bound : Nat) (s : Simulated) : Nat × Simulated :=
  (s.random / Nat.pow 2 32 % bound, { s with random := s.following s.random })

def drawInt (least greatest : Int) (s : Simulated) : Int × Simulated :=
  let (n, s) := s.draw (greatest - least + 1).toNat
  (least + n, s)

def drawInts (count : Nat) (least greatest : Int) (s : Simulated) : List TagValue × Simulated :=
  match count with
  | 0 => ([], s)
  | count + 1 =>
      let (n, s) := s.drawInt least greatest
      let (rest, s) := s.drawInts count least greatest
      (.int (Int64.ofInt n) :: rest, s)

/-- Milliseconds since the session was opened. -/
def elapsed (s : Simulated) : Nat :=
  match s.opened with
  | some (_, since) => s.clock - since
  | none => 0

/-- How much of its period a wave has gone through, from zero to below one. -/
def phase (s : Simulated) (period : Nat) : Float :=
  Float.ofNat (s.elapsed % period) / Float.ofNat period

def now (s : Simulated) : Calendar.Instant := .ofMillis s.clock 0

def generate (s : Simulated) : Generator → TagValue × Simulated
  | .randomInt least greatest =>
      let (n, s) := s.drawInt least greatest
      (.int (Int64.ofInt n), s)
  | .randomReal low high =>
      let (n, s) := s.draw (Nat.pow 2 32)
      (.float (low + (high - low) * (Float.ofNat n / 4294967296.0)), s)
  | .randomText =>
      let (n, s) := s.drawInt 1 100
      (.text ("Value_" ++ Decimal.wholeText n), s)
  | .randomBool =>
      let (n, s) := s.draw 2
      (.bool (n == 1), s)
  | .now => (.timestamp s.now, s)
  | .randomInts =>
      let (items, s) := s.drawInts 5 0 100
      (.array items, s)
  | .triangle period offset amplitude =>
      (.float (offset + amplitude * Float.sin (2.0 * 3.141592653589793 * s.phase period)), s)
  | .sawTooth period scale => (.float (scale * s.phase period), s)
  | .square period high low =>
      (.float (if 2 * (s.elapsed % period) < period then high else low), s)
  | .squareBool period => (.bool (2 * (s.elapsed % period) < period), s)

/-- A written value hides the generator of its path. -/
def valueOf (s : Simulated) (path : String) : (TagValue × Quality) × Simulated :=
  match s.written.find? path with
  | some value => ((value, .good), s)
  | none =>
      match Generator.catalogue.lookup path with
      | some generator =>
          let (value, s) := s.generate generator
          ((value, .good), s)
      | none => ((.null, .bad), s)

def readings (s : Simulated) : List String → List Reading × Simulated
  | [] => ([], s)
  | path :: rest =>
      let ((value, quality), after) := s.valueOf path
      let (more, after) := after.readings rest
      (⟨path, value, quality, some (.instant s.now)⟩ :: more, after)

def connect (s : Simulated) (target : Endpoint) : Except SessionError Unit × Simulated :=
  if s.opened.isSome then (.error (.other "already connected"), s)
  else (.ok (), { s with opened := some (target, s.clock) })

def close (s : Simulated) : Except SessionError Unit × Simulated :=
  (.ok (), { s with opened := none, written := [] })

def read (s : Simulated) (paths : List String) :
    Except SessionError (List Reading) × Simulated :=
  if s.opened.isSome then
    let (replies, s) := s.readings paths
    (.ok replies, s)
  else (.error .notConnected, s)

def write (s : Simulated) (path : String) (value : TagValue) :
    Except SessionError Unit × Simulated :=
  if s.opened.isSome then (.ok (), { s with written := s.written.enter path value })
  else (.error .notConnected, s)

/-- Seconds with two places, the nearest to a number of milliseconds. -/
def secondsText (millis : Nat) : String :=
  let hundredths := (millis + 5) / 10
  Decimal.wholeText (hundredths / 100 : Nat) ++ "." ++ Decimal.padded 2 (hundredths % 100)

def info (s : Simulated) : Except SessionError (List (String × String)) × Simulated :=
  match s.opened with
  | none => (.error .notConnected, s)
  | some (target, _) =>
      (.ok [("Server Name", target.server), ("Host", target.host),
          ("Version", "3.0 (Simulated)"), ("Vendor", "R-EMS"), ("Status", "Running"),
          ("Uptime (seconds)", secondsText s.elapsed)], s)

def call (s : Simulated) : (c : Session.Call) → c.Result × Simulated
  | .connect target => s.connect target
  | .close => s.close
  | .read paths => s.read paths
  | .write path value => s.write path value
  | .info => s.info

instance : TagSession Simulated where
  call c s := s.call c
  delay _ _ := 0

end Simulated

namespace Generator

/-- Every item is a whole number in a range. -/
def allInRange (least greatest : Int) : List TagValue → Bool
  | [] => true
  | .int n :: rest =>
      least ≤ n.toInt && n.toInt ≤ greatest && allInRange least greatest rest
  | _ :: _ => false

/-- The texts `Value_1` to `Value_100`. -/
def texts : List String :=
  (List.range 100).map fun n => "Value_" ++ Decimal.wholeText (n + 1 : Nat)

/-- The value is one that the generator can give. -/
def admits : Generator → TagValue → Bool
  | .randomInt least greatest, .int n => least ≤ n.toInt && n.toInt ≤ greatest
  | .randomReal low high, .float x => low ≤ x && x < high
  | .randomText, .text s => texts.contains s
  | .randomBool, .bool _ => true
  | .now, .timestamp _ => true
  | .randomInts, .array items => items.length == 5 && allInRange 0 100 items
  | .triangle _ offset amplitude, .float x =>
      offset - amplitude ≤ x && x ≤ offset + amplitude
  | .sawTooth _ scale, .float x => 0 ≤ x && x ≤ scale
  | .square _ high low, .float x => x == high || x == low
  | .squareBool _, .bool _ => true
  | _, _ => false

end Generator

end TagRelay
