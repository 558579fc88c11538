/-!
# The command line

Options come before the command, each at most once.  Without a command the connector is
run.  Asking for the version or for help ends the reading at once, and so does the first
mistake.
-/

namespace TagRelay.CommandLine

inductive Command where
  | run
  | checkConfig
  deriving Repr, DecidableEq

/-- Log formats by the names that they have on the command line. -/
inductive Format where
  | json
  | pretty
  deriving Repr, DecidableEq

structure Options where
  config : Option String := none
  format : Option Format := none
  deriving Repr, DecidableEq

inductive Request where
  | command (command : Command) (options : Options)
  | version
  /-- Help, perhaps on one command. -/
  | help (topic : Option Command)
  /-- The arguments make no sense. -/
  | mistake
  deriving Repr, DecidableEq

def commands : List (String × Command) := [("run", .run), ("check-config", .checkConfig)]

def formats : List (String × Format) := [("json", .json), ("pretty", .pretty)]

/-- Sets the path of the configuration file, which must not be empty. -/
def Options.setConfig (o : Options) (value : String) : Option Options :=
  if o.config.isSome ∨ value.isEmpty then none else some { o with config := some value }

def Options.setFormat (o : Options) (value : String) : Option Options :=
  if o.format.isSome then none
  else (formats.lookup value).map fun format => { o with format := some format }

/-- The options that take a value. -/
inductive Flag where
  | config
  | format
  deriving Repr, DecidableEq

def flags : List (String × Flag) := [("--config", .config), ("--log-format", .format)]

def Options.set (o : Options) (flag : Flag) (value : String) : Option Options :=
  match flag with
  | .config => o.setConfig value
  | .format => o.setFormat value

/-- An argument of the form `--flag=value`. -/
def attached (argument : String) : Option (Flag × String) :=
  flags.findSome? fun (name, flag) =>
    if (name ++ "=").toList.isPrefixOf argument.toList then
      some (flag, String.ofList (argument.toList.drop (name.length + 1)))
    else none

/-- An argument that cannot be the value of an option. -/
def isDashed (argument : String) : Bool :=
  argument.toList.head? = some '-' && argument ≠ "-"

/-- What a single argument asks for that ends the reading. -/
def immediate (argument : String) : Option Request :=
  if argument = "--version" then some .version
  else if argument = "--help" then some (.help none)
  else
    match argument.toList with
    | '-' :: 'V' :: _ => some .version
    | '-' :: 'h' :: _ => some (.help none)
    | _ => none

/-- The arguments after a command, which takes none. -/
def afterCommand (command : Command) (options : Options) : List String → Request
  | [] => .command command options
  | ["--"] => .command command options
  | "--help" :: _ => .help (some command)
  | argument :: _ =>
      match argument.toList with
      | '-' :: 'h' :: _ => .help (some command)
      | _ => .mistake

/-- The arguments after `help`. -/
def afterHelp : List String → Request
  | [] => .help none
  | ["help"] => .help none
  | [topic] =>
      match commands.lookup topic with
      | some command => .help (some command)
      | none => .mistake
  | _ => .mistake

def read (options : Options) : List String → Request
  | [] => .command .run options
  | ["--"] => .command .run options
  | argument :: rest =>
      match immediate argument with
      | some request => request
      | none =>
          match commands.lookup argument with
          | some command => afterCommand command options rest
          | none =>
              if argument = "help" then afterHelp rest
              else
                match attached argument with
                | some (flag, value) =>
                    match options.set flag value with
                    | some options => read options rest
                    | none => .mistake
                | none =>
                    match flags.lookup argument, rest with
                    | some flag, value :: rest =>
                        match if isDashed value then none else options.set flag value with
                        | some options => read options rest
                        | none => .mistake
                    | _, _ => .mistake

/-- The request that a list of arguments makes. -/
def ofArguments (arguments : List String) : Request := read {} arguments

end TagRelay.CommandLine
