import TagRelay.Pipeline.Running
import TagRelay.Proofs.Link.Effects

/-!
# Connectors whose parties take turns in any order

A running connector is its poll loop, its worker, the host that shuts it down and any
number of calls from the platform.  Here their actions fall between each other in any
order: there is no clock, so a wait may end at any moment, early or late, and a deadline
may pass or not.  Every call of the session and every action on the link is one step.

Where a party may find that it was asked to stop and that it could go on as well, both
are possible.  So what holds of all runs does not depend on which of the two goes first.
-/

namespace TagRelay

abbrev Poll.Event := Routine.Event Poll.Action.Answer
abbrev Worker.Event := Routine.Event Worker.Action.Answer
abbrev Host.Event := Routine.Event Host.Action.Answer

namespace Interleaved

/-- What somebody does in a run. -/
inductive Event where
  | loop (event : Poll.Event)
  | worker (event : Worker.Event)
  | host (event : Host.Event)
  | remote (event : Link.Event)

/-- Where the host is with shutting down. -/
inductive HostStage where
  | away
  | turn (rest : Host.Program Bool)
  | ended (joined : Bool)

end Interleaved

open Running (LoopStage WorkerStage) in
open Interleaved (HostStage) in
/-- A running connector without time. -/
structure Interleaved (σ κ : Type) where
  link : Link σ
  sink : κ
  stopAsked : Bool := false
  /-- Replies that wait for conversion. -/
  queue : List Unconverted := []
  loop : LoopStage
  worker : WorkerStage
  host : HostStage := .away
  /-- What is left of the calls from the platform. -/
  remote : List (Link.Program Unit) := []

/-! ## Stages -/

namespace Running

/-- The next action of the loop. -/
def LoopStage.acting? : LoopStage → Option ((action : Poll.Action) × (action.Answer → LoopStage))
  | .turn (.act action next) => some ⟨action, fun answer => .turn (next answer)⟩
  | .finish (.act action next) => some ⟨action, fun answer => .finish (next answer)⟩
  | _ => none

/-- The stage of the loop after one that is done. -/
def LoopStage.following? (settings : Poll.Settings) : LoopStage → Option LoopStage
  | .turn (.done (some nextPoll)) => some (.turn (Poll.turn settings nextPoll))
  | .turn (.done none) => some (.finish Poll.finish)
  | .finish (.done ()) => some .ended
  | _ => none

def WorkerStage.acting? :
    WorkerStage → Option ((action : Worker.Action) × (action.Answer → WorkerStage))
  | .turn (.act action next) => some ⟨action, fun answer => .turn (next answer)⟩
  | _ => none

def WorkerStage.following? : WorkerStage → Option WorkerStage
  | .turn (.done true) => some (.turn Worker.turn)
  | .turn (.done false) => some .ended
  | _ => none

theorem LoopStage.eq_ended {stage : LoopStage} (hended : stage.hasEnded = true) :
    stage = .ended := by
  cases stage with
  | ended => rfl
  | turn | finish => simp [hasEnded] at hended

theorem WorkerStage.eq_ended {stage : WorkerStage} (hended : stage.hasEnded = true) :
    stage = .ended := by
  cases stage with
  | ended => rfl
  | turn => simp [hasEnded] at hended

end Running

namespace Interleaved

def HostStage.acting? :
    HostStage → Option ((action : Host.Action) × (action.Answer → HostStage))
  | .turn (.act action next) => some ⟨action, fun answer => .turn (next answer)⟩
  | _ => none

def HostStage.following? (limit : Nat) : HostStage → Option HostStage
  | .away => some (.turn (Host.shutdown limit))
  | .turn (.done joined) => some (.ended joined)
  | _ => none

variable {σ κ : Type}

/-- A connector that has just been started. -/
def start (c : Connector) (session : σ) (sink : κ) : Interleaved σ κ where
  link := { session }
  sink := sink
  loop := .turn (Poll.turn c.pollSettings 0)
  worker := .turn Worker.turn

/-- A call from the platform. -/
inductive IsRemote (c : Connector) : Link.Program Unit → Prop
  | answer (request : Remote.Request) :
      IsRemote c (do let _ ← c.passThrough.answer request)
  | update (u : Remote.Update) : IsRemote c (do let _ ← c.passThrough.update u)

/-! ## Effects

Whether an action may get an answer now, and what comes of it. -/

section Effects

variable [TagSession σ]

def linkEffect (action : Link.Action) (answer : action.Answer) (p q : Interleaved σ κ) : Prop :=
  answer = (p.link.perform action).1 ∧ q = { p with link := (p.link.perform action).2 }

def loopEffect (c : Connector) :
    (action : Poll.Action) → action.Answer → Interleaved σ κ → Interleaved σ κ → Prop
  | .link action, answer, p, q => linkEffect action answer p q
  | .now, _, p, q => q = p
  | .wallClock, _, p, q => q = p
  | .stopAsked, answer, p, q => answer = p.stopAsked ∧ q = p
  | .pause _, answer, p, q => (answer = true → p.stopAsked = true) ∧ q = p
  | .deliver reply, true, p, q =>
      p.queue.length < c.server.queueCapacity ∧ p.worker.hasEnded = false ∧
        q = { p with queue := p.queue ++ [reply] }
  | .deliver _, false, p, q => (p.stopAsked = true ∨ p.worker.hasEnded = true) ∧ q = p

def workerEffect [RecordSink κ] (c : Connector) :
    (action : Worker.Action) → action.Answer → Interleaved σ κ → Interleaved σ κ → Prop
  | .receive, some reply, p, q => p.queue = reply :: q.queue ∧ q = { p with queue := q.queue }
  | .receive, none, p, q =>
      (p.stopAsked = true ∨ p.queue = [] ∧ p.loop.hasEnded = true) ∧ q = p
  | .count event, _, p, q => q = { p with link := p.link.count event }
  | .send record, answer, p, q =>
      answer = (RecordSink.send ⟨c.name, c.id, record⟩ p.sink).1 ∧
        q = { p with sink := (RecordSink.send ⟨c.name, c.id, record⟩ p.sink).2 }

def hostEffect : (action : Host.Action) → action.Answer → Interleaved σ κ →
    Interleaved σ κ → Prop
  | .link action, answer, p, q => linkEffect action answer p q
  | .now, _, p, q => q = p
  | .rest _, _, p, q => q = p
  | .signalStop, _, p, q => q = { p with stopAsked := true }
  | .join _, answer, p, q =>
      (answer = true → p.loop.hasEnded = true ∧ p.worker.hasEnded = true) ∧ q = p
  | .closeBefore _, true, p, q => q = { p with link := (p.link.perform (.call .close)).2 }
  | .closeBefore _, false, p, q => q = p

end Effects

/-! ## Steps and runs -/

section Runs

variable [TagSession σ] [RecordSink κ]

/-- Somebody performs an action, or goes on where a routine is done. -/
inductive Step (c : Connector) (p : Interleaved σ κ) : List Event → Interleaved σ κ → Prop
  | loopActs {action : Poll.Action} {next : action.Answer → Running.LoopStage}
      {answer : action.Answer} {q : Interleaved σ κ}
      (hacting : p.loop.acting? = some ⟨action, next⟩)
      (heffect : loopEffect c action answer p q) :
      Step c p [.loop ⟨action, answer⟩] { q with loop := next answer }
  | loopGoesOn {stage : Running.LoopStage}
      (hstage : p.loop.following? c.pollSettings = some stage) :
      Step c p [] { p with loop := stage }
  | workerActs {action : Worker.Action} {next : action.Answer → Running.WorkerStage}
      {answer : action.Answer} {q : Interleaved σ κ}
      (hacting : p.worker.acting? = some ⟨action, next⟩)
      (heffect : workerEffect c action answer p q) :
      Step c p [.worker ⟨action, answer⟩] { q with worker := next answer }
  | workerGoesOn {stage : Running.WorkerStage} (hstage : p.worker.following? = some stage) :
      Step c p [] { p with worker := stage }
  | hostActs {action : Host.Action} {next : action.Answer → HostStage}
      {answer : action.Answer} {q : Interleaved σ κ}
      (hacting : p.host.acting? = some ⟨action, next⟩)
      (heffect : hostEffect action answer p q) :
      Step c p [.host ⟨action, answer⟩] { q with host := next answer }
  | hostGoesOn {stage : HostStage}
      (hstage : p.host.following? c.server.stopTimeout = some stage) :
      Step c p [] { p with host := stage }
  | remoteBegins {program : Link.Program Unit} (hremote : IsRemote c program) :
      Step c p [] { p with remote := p.remote ++ [program] }
  | remoteActs {index : Nat} {action : Link.Action} {next : action.Answer → Link.Program Unit}
      {answer : action.Answer} {q : Interleaved σ κ}
      (hacting : p.remote[index]? = some (.act action next))
      (heffect : linkEffect action answer p q) :
      Step c p [.remote ⟨action, answer⟩] { q with remote := q.remote.set index (next answer) }

/-- Steps one after the other, with all that was done. -/
inductive Run (c : Connector) (p : Interleaved σ κ) : List Event → Interleaved σ κ → Prop
  | refl : Run c p [] p
  | tail {events new : List Event} {q r : Interleaved σ κ} (hrun : Run c p events q)
      (hstep : Step c q new r) : Run c p (events ++ new) r

theorem Run.trans {c : Connector} {p q r : Interleaved σ κ} {events later : List Event}
    (hrun : Run c p events q) (hlater : Run c q later r) : Run c p (events ++ later) r := by
  induction hlater with
  | refl => simpa using hrun
  | tail _ hstep ih => simpa [List.append_assoc] using ih.tail hstep

end Runs

/-! ## Who has done what -/

def Event.loop? : Event → Option Poll.Event
  | .loop event => some event
  | _ => none

def Event.worker? : Event → Option Worker.Event
  | .worker event => some event
  | _ => none

def loopEvents (events : List Event) : List Poll.Event := events.filterMap Event.loop?

def workerEvents (events : List Event) : List Worker.Event := events.filterMap Event.worker?

@[simp]
theorem loopEvents_append (events later : List Event) :
    loopEvents (events ++ later) = loopEvents events ++ loopEvents later :=
  List.filterMap_append

@[simp]
theorem workerEvents_append (events later : List Event) :
    workerEvents (events ++ later) = workerEvents events ++ workerEvents later :=
  List.filterMap_append

end Interleaved

end TagRelay
