import TagRelay.Config.Decode
import TagRelay.Config.Validate
import TagRelay.Files.Tree
import TagRelay.Toml.Reader

/-!
# Loading configuration

One file is selected, and it has to be readable, well formed and valid.  The file that
the environment names comes first, then the first candidate that exists; a file that
was selected is never passed over for another one.
-/

namespace TagRelay.Config

inductive LoadError where
  | noneFound (inspected : List String)
  | unreadable (path : String) (cause : FileError)
  /-- The text is not well formed, or does not describe a configuration. -/
  | malformed (path : Option String)
  | invalid (path : Option String) (violation : Violation)
  deriving Repr, DecidableEq

namespace LoadError

def message : LoadError → String
  | .noneFound inspected =>
      "no configuration files found. inspected: " ++ Text.join ", " inspected
  | .unreadable path _ => "unable to read config file " ++ path
  | .malformed none => "failed to parse configuration"
  | .malformed (some path) => "failed to parse config file " ++ path
  | .invalid none violation => violation.message
  | .invalid (some path) _ => "invalid configuration in " ++ path

/-- What lies behind an error, where this is more than its message says. -/
def causes : LoadError → List String
  | .unreadable _ cause => [cause.message]
  | .invalid (some _) violation => [violation.message]
  | _ => []

end LoadError

def App.validate (a : App) : Except Violation Unit := a.connector.validate

/-- The configuration in a text, which may be the content of a file. -/
def App.ofText (path : Option String) (text : String) : Except LoadError App :=
  match (Toml.read? text).map (App.ofJson .file) with
  | some (.ok app) =>
      match app.validate with
      | .ok () => .ok app
      | .error violation => .error (.invalid path violation)
  | _ => .error (.malformed path)

/-- A configuration and the path from which it was loaded. -/
structure Loaded where
  app : App
  path : String

/-- The path in the environment, unless it is blank, or the first that exists. -/
def select (files : Files) (environment : Option String) (candidates : List String) :
    Option String :=
  match environment.filter fun path => !Text.isMissing path with
  | some path => some path
  | none => candidates.find? files.contains

def loadFile (files : Files) (path : String) : Except LoadError Loaded :=
  match files.read path with
  | .error cause => .error (.unreadable path cause)
  | .ok text => (App.ofText (some path) text).map fun app => ⟨app, path⟩

def load (files : Files) (environment : Option String) (candidates : List String) :
    Except LoadError Loaded :=
  match select files environment candidates with
  | some path => loadFile files path
  | none => .error (.noneFound candidates)

/-- The environment variable that names a configuration file. -/
def pathVariable : String := "R_EMS_OPCDA_CONFIG"

end TagRelay.Config
