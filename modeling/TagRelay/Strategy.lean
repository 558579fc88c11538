import TagRelay.Config.Basic
import TagRelay.Duration
import TagRelay.Text.Quoted

/-!
# Report strategies

A report strategy decides under which key a value is reported, and may fail to do so.
One that is declared in the configuration is checked first: a kind that reports
periodically needs a period, and not an empty one.  It leaves every key as it is.
-/

namespace TagRelay

inductive StrategyError where
  | missingPeriod (kind : Config.ReportKind)
  | zeroPeriod
  | unresolvable (device key reason : String)
  deriving Repr, DecidableEq

def StrategyError.message : StrategyError → String
  | .missingPeriod kind => "report strategy " ++ kind.name ++ " requires a report period"
  | .zeroPeriod => "report period must be greater than zero"
  | .unresolvable device key reason =>
      "key `" ++ key ++ "` of device `" ++ device ++ "` cannot be resolved: " ++ reason

structure ReportStrategy where
  /-- How the strategy shows itself in diagnostics. -/
  description : String
  /-- The key under which a value of this device and key is reported. -/
  resolveKey : (device key : String) → Except StrategyError String

namespace ReportStrategy

/-- The period in diagnostics, given in milliseconds. -/
def periodText : Option Nat → String
  | none => "None"
  | some millis => "Some(" ++ (Duration.ofMillis millis).text ++ ")"

/-- A checked declaration. -/
def configured (declared : Config.Strategy) : ReportStrategy where
  description :=
    "ConfiguredReportStrategy \x7b kind: " ++ declared.kind.name ++ ", report_period: " ++
      periodText declared.period ++ " \x7d"
  resolveKey _ key := .ok key

def ofConfig (declared : Config.Strategy) : Except StrategyError ReportStrategy :=
  if declared.kind.requiresPeriod then
    match declared.period with
    | none => .error (.missingPeriod declared.kind)
    | some 0 => .error .zeroPeriod
    | some _ => .ok (configured declared)
  else .ok (configured declared)

/-- The strategy of a declaration that passes the check. -/
def ofConfig? (declared : Config.Strategy) : Option ReportStrategy :=
  (ofConfig declared).toOption

end ReportStrategy

end TagRelay
