import TagRelay.Decimal.Whole
import TagRelay.Metrics.Tally

/-!
# Metrics

What a connector counts while it runs, and the state of its link as a number.  For a
reader the counts are grouped into families with a name and a help text; a family with
labels has one series for every fingerprint of label values.
-/

namespace TagRelay

structure Metrics where
  pollCycles : Nat := 0
  received : Nat := 0
  sent : Nat := 0
  /-- Failed batched reads, by device. -/
  readFailures : Tally String := []
  /-- Failed conversions, by device. -/
  conversionFailures : Tally String := []
  /-- Calls, by method and reply code. -/
  calls : Tally (String × Nat) := []
  linkState : Nat := 0

namespace Metrics

/-- Something to be counted. -/
inductive Event where
  | pollCycle
  | received
  | sent
  | readFailure (device : String)
  | conversionFailures (device : String) (count : Nat)
  | call (method : String) (code : Nat)
  deriving Repr, DecidableEq

/-- Counts an event.  No conversion failures at all leave no trace. -/
def record (m : Metrics) : Event → Metrics
  | .pollCycle => { m with pollCycles := m.pollCycles + 1 }
  | .received => { m with received := m.received + 1 }
  | .sent => { m with sent := m.sent + 1 }
  | .readFailure device => { m with readFailures := m.readFailures.add device 1 }
  | .conversionFailures _ 0 => m
  | .conversionFailures device count =>
      { m with conversionFailures := m.conversionFailures.add device count }
  | .call method code => { m with calls := m.calls.add (method, code) 1 }

/-! ## Families -/

inductive Kind where
  | counter
  | gauge
  deriving Repr, DecidableEq

def Kind.word : Kind → String
  | .counter => "counter"
  | .gauge => "gauge"

/-- One count with its labels in the order of their names. -/
structure Series where
  labels : List (String × String) := []
  value : Nat
  deriving Repr, DecidableEq

structure Family where
  name : String
  help : String
  kind : Kind := .counter
  series : List Series
  deriving Repr, DecidableEq

/-- Series are listed in the order of their label values. -/
def Series.before (a b : Series) : Bool :=
  !decide (b.labels.map Prod.snd < a.labels.map Prod.snd)

def labelled {κ : Type} (labels : κ → List (String × String)) (tally : Tally κ) :
    List Series :=
  (tally.map fun (key, value) => (⟨labels key, value⟩ : Series)).mergeSort Series.before

def byDevice (tally : Tally String) : List Series :=
  labelled (fun device => [("device", device)]) tally

/-- All families in the order of their names. -/
def allFamilies (m : Metrics) : List Family :=
  [{ name := "r_ems_opcda_connection_state"
     help := "0 disconnected, 1 connecting, 2 connected, 3 stopped"
     kind := .gauge
     series := [{ value := m.linkState }] },
    { name := "r_ems_opcda_conversion_failures_total"
      help := "Tag or record conversions that failed, per device"
      series := byDevice m.conversionFailures },
    { name := "r_ems_opcda_messages_received_total"
      help := "Acquisition units handed to the conversion worker"
      series := [{ value := m.received }] },
    { name := "r_ems_opcda_messages_sent_total"
      help := "Converted records accepted by the sink"
      series := [{ value := m.sent }] },
    { name := "r_ems_opcda_poll_cycles_total"
      help := "Number of completed poll cycles"
      series := [{ value := m.pollCycles }] },
    { name := "r_ems_opcda_read_failures_total"
      help := "Batched reads that failed, per device"
      series := byDevice m.readFailures },
    { name := "r_ems_opcda_rpc_calls_total"
      help := "RPC and attribute update calls by method and reply code"
      series := labelled (fun (method, code) =>
        [("code", Decimal.wholeText (code : Int)), ("method", method)]) m.calls }]

/-- The families that have a series. -/
def families (m : Metrics) : List Family :=
  m.allFamilies.filter fun family => !family.series.isEmpty

/-- What happens to the second set of metrics in one place: its names are taken. -/
def alreadyRegistered : String := "Duplicate metrics collector registration attempted"

end Metrics

end TagRelay
