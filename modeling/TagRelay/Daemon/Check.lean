import TagRelay.Config.Load
import TagRelay.Daemon.CommandLine
import TagRelay.Json.Printer
import TagRelay.Pipeline.Connector

/-!
# Checking a configuration

The check loads the configuration and builds the connector, as a run would, and prints
a summary of what would be polled.  It ends with code 0 when both succeed, with code 1
and the reason otherwise, and with code 2 when the arguments make no sense.
-/

namespace TagRelay.Daemon

/-- What a command leaves behind when it ends. -/
structure Outcome where
  code : Nat
  output : String := ""
  errors : String := ""
  deriving Repr, DecidableEq

/-- Why a command fails. -/
inductive Failure where
  | load (cause : Config.LoadError)
  | build (cause : ConnectorError)
  deriving Repr, DecidableEq

namespace Failure

def message : Failure → String
  | .load cause => cause.message
  | .build cause => cause.message

def causes : Failure → List String
  | .load cause => cause.causes
  | .build _ => []

/-- Lines after the first of a cause are moved in like the first. -/
def indented (cause : String) : String :=
  "    " ++ Text.join "\n    " ((Text.pieces '\n' cause.toList).map String.ofList)

/-- The report of a failure.  There is never more than one cause. -/
def report (f : Failure) : String :=
  match f.causes with
  | [] => "Error: " ++ f.message ++ "\n"
  | cause :: _ => "Error: " ++ f.message ++ "\n\nCaused by:\n" ++ indented cause ++ "\n"

def outcome (f : Failure) : Outcome := { code := 1, errors := f.report }

end Failure

/-- Where the configuration is looked for: a path from the command line goes first. -/
def candidates (options : CommandLine.Options) : List String :=
  options.config.toList ++ ["configs/opcda.toml", "configs/opcda.example.toml"]

def deviceSummary (d : Device) : Json :=
  .object
    [("name", .string d.name), ("profile", .string d.profile), ("tags", Json.strings d.tagPaths)]

/-- What the configuration makes of the connector, by name. -/
def summary (path : String) (c : Connector) : Json :=
  .object
    [("connector", .string c.name), ("devices", .array (c.devices.items.map deviceSummary)),
      ("host", .string c.server.host), ("poll_period_ms", .int c.server.pollPeriod),
      ("server", .string c.server.name), ("source", .string path)]

/-- Loads the configuration that a command is to use.  A log format from the command
line takes the place of the configured one. -/
def load (files : Files) (environment : Option String) (options : CommandLine.Options) :
    Except Failure Config.Loaded :=
  match Config.load files environment (candidates options) with
  | .error cause => .error (.load cause)
  | .ok loaded =>
      let format :=
        match options.format with
        | some .json => .structuredJson
        | some .pretty => .pretty
        | none => loaded.app.logging.format
      .ok { loaded with app.logging.format := format }

def build (loaded : Config.Loaded) : Except Failure Connector :=
  match Connector.build loaded.app.connector .standard with
  | .ok connector => .ok connector
  | .error cause => .error (.build cause)

def check (files : Files) (environment : Option String) (options : CommandLine.Options) :
    Outcome :=
  let built := do
    let loaded ← load files environment options
    return (loaded.path, ← build loaded)
  match built with
  | .ok (path, connector) => { code := 0, output := (summary path connector).pretty ++ "\n" }
  | .error failure => failure.outcome

def versionText : String := "r-ems-opcdad R-EMS OPC-DA connector 0.1.0\n"

def helpText : Option CommandLine.Command → String
  | none =>
      "R-EMS OPC-DA connector daemon\n\nUsage: r-ems-opcdad [OPTIONS] [COMMAND]\n\n" ++
        "Commands:\n" ++
        "  run           Run the connector until interrupted\n" ++
        "  check-config  Validate the configuration and print the device summary\n" ++
        "  help          Print this message or the help of the given subcommand(s)\n\n" ++
        "Options:\n" ++
        "      --config <FILE>            Path to configuration file\n" ++
        "      --log-format <LOG_FORMAT>  Override the configured log format " ++
        "[possible values: json, pretty]\n" ++
        "  -h, --help                     Print help\n" ++
        "  -V, --version                  Print version\n"
  | some .run =>
      "Run the connector until interrupted\n\nUsage: r-ems-opcdad run\n\n" ++
        "Options:\n  -h, --help  Print help\n"
  | some .checkConfig =>
      "Validate the configuration and print the device summary\n\n" ++
        "Usage: r-ems-opcdad check-config\n\nOptions:\n  -h, --help  Print help\n"

def usageText : String :=
  "error: invalid arguments\n\nUsage: r-ems-opcdad [OPTIONS] [COMMAND]\n\n" ++
    "For more information, try '--help'.\n"

/-- What the arguments lead to: a command that ends at once, or a connector to run. -/
inductive Start where
  | ended (outcome : Outcome)
  | run (app : Config.App) (connector : Connector)

def start (files : Files) (environment : Option String) (arguments : List String) : Start :=
  match CommandLine.ofArguments arguments with
  | .version => .ended { code := 0, output := versionText }
  | .help topic => .ended { code := 0, output := helpText topic }
  | .mistake => .ended { code := 2, errors := usageText }
  | .command .checkConfig options => .ended (check files environment options)
  | .command .run options =>
      match load files environment options with
      | .error failure => .ended failure.outcome
      | .ok loaded =>
          match build loaded with
          | .error failure => .ended failure.outcome
          | .ok connector => .run loaded.app connector

end TagRelay.Daemon
