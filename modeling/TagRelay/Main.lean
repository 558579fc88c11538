import Std.Time.DateTime.Timestamp
import TagRelay.Daemon.Check
import TagRelay.Pipeline.Running
import TagRelay.Session.Kind

/-!
# The program

Reads the files that a configuration may be in, does what the arguments say, and prints
what comes of it.  A connector that is run goes on until it is interrupted: at every
tick it catches up with the time that has passed and prints the records that it sent.
-/

namespace TagRelay.Main

def fileError : IO.Error → FileError
  | .inappropriateType _ code _ => if code = 21 then .isDirectory else .notDirectory
  | .invalidArgument _ _ _ => .nameTooLong
  | .permissionDenied _ _ _ => .denied
  | .userError _ => .noText
  | _ => .notFound

def readFile (path : String) : IO (Except FileError String) := do
  try
    return .ok (← IO.FS.readFile path)
  catch cause => return .error (fileError cause)

/-- Something stands where there is a text, and where it is known why there is none. -/
def isThere : Except FileError String → Bool
  | .ok _ => true
  | .error cause => cause = .isDirectory || cause = .denied || cause = .noText

/-- The files at some paths; nothing else is looked at. -/
def readFiles (paths : List String) : IO Files := do
  let contents ← paths.mapM fun path => do return (path, ← readFile path)
  let found (path : String) := (contents.lookup path).getD (.error .notFound)
  return { contains := fun path => isThere (found path), read := found }

/-- The paths at which a configuration may be. -/
def paths (environment : Option String) (arguments : List String) : List String :=
  match CommandLine.ofArguments arguments with
  | .command _ options => environment.toList ++ Daemon.candidates options
  | _ => []

/-- Milliseconds between two looks at the clock. -/
def tick : Nat := 100

def unixMillis : IO Int := do
  let now ← Std.Time.Timestamp.now
  return now.toMillisecondsSinceUnixEpoch.val

/-- Catches up with the clock, prints what was sent and goes on. -/
partial def serve (running : Running ChosenSession Outlet) : IO Unit := do
  let passed := (← unixMillis) - running.epoch - running.clock
  let session := running.link.session.setClock (running.epoch + running.clock).toNat
  let running := { running with link.session := session }
  let running := running.advance passed.toNat
  let (sent, sink) := running.sink.take
  for dispatch in sent do
    IO.println dispatch.text
  (← IO.getStdout).flush
  IO.sleep tick.toUInt32
  serve { running with sink }

def run (arguments : List String) : IO UInt32 := do
  let environment ← IO.getEnv Config.pathVariable
  let files ← readFiles (paths environment arguments)
  match Daemon.start files environment arguments with
  | .ended outcome =>
      IO.print outcome.output
      IO.eprint outcome.errors
      return outcome.code.toUInt32
  | .run app connector =>
      let session := ChosenSession.ofKind app.connector.server.session
      serve (.start connector session (.journal {}) (← unixMillis))
      return 0

end TagRelay.Main

def main (arguments : List String) : IO UInt32 := TagRelay.Main.run arguments
