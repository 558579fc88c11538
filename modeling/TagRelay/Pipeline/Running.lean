import TagRelay.Pipeline.Connector
import TagRelay.Pipeline.Host
import TagRelay.Pipeline.Worker

/-!
# Running connectors

A running connector is the poll loop, the conversion worker and the host on one link.
The session lets one of them through at a time, in the order in which they came, and
replies wait for conversion in a queue of limited length.

Time passes only when nobody can go on: then the clock moves to the earliest moment for
which somebody waits, and the host looks first whether its waiting is over.
-/

namespace TagRelay

namespace Running

/-- Those who use the session. -/
inductive User where
  | loop
  | host
  deriving Repr, DecidableEq

/-- How far somebody has got with an action. -/
inductive Progress where
  | fresh
  /-- In the line before the session. -/
  | queued
  /-- Waiting for a moment, with the session in use if the action is a call. -/
  | until (time : Nat)
  deriving Repr, DecidableEq

/-- Where the poll loop is. -/
inductive LoopStage where
  | turn (rest : Poll.Program (Option Nat))
  | finish (rest : Poll.Program Unit)
  | ended

/-- Where the worker is. -/
inductive WorkerStage where
  | turn (rest : Worker.Program Bool)
  | ended

def LoopStage.hasEnded : LoopStage → Bool
  | .ended => true
  | _ => false

def WorkerStage.hasEnded : WorkerStage → Bool
  | .ended => true
  | _ => false

end Running

open Running in
structure Running (σ κ : Type) where
  connector : Connector
  link : Link σ
  sink : κ
  /-- The time of the day when the clock stood at zero, in Unix milliseconds. -/
  epoch : Int := 0
  clock : Nat := 0
  stopAsked : Bool := false
  /-- Replies that wait for conversion. -/
  queue : List Unconverted := []
  /-- Who has the session. -/
  user : Option User := none
  /-- Who waits for the session, the first in front. -/
  line : List User := []
  loop : LoopStage
  loopProgress : Progress := .fresh
  worker : WorkerStage

namespace Running

variable {σ κ : Type}

/-- A connector that has just been started. -/
def start (connector : Connector) (session : σ) (sink : κ) (epoch : Int) : Running σ κ where
  connector := connector
  link := { session }
  sink := sink
  epoch := epoch
  loop := .turn (Poll.turn connector.pollSettings 0)
  worker := .turn Worker.turn

def status (r : Running σ κ) : Status := .of r.connector r.link.state r.link.metrics

/-! ## Attempts

An action is attempted, and either answered or has to wait. -/

inductive Attempt (σ κ β : Type) where
  | answered (answer : β) (after : Running σ κ)
  | waits (progress : Progress) (after : Running σ κ)

/-- The session goes to the first in the line. -/
def release (r : Running σ κ) : Running σ κ :=
  match r.line with
  | [] => { r with user := none }
  | next :: rest => { r with user := some next, line := rest }

/-- A user who does not wait for the session any longer. -/
def leave (r : Running σ κ) (user : User) : Running σ κ :=
  if r.user = some user then r.release else { r with line := r.line.erase user }

section Sessions

variable [TagSession σ]

def completeCall (r : Running σ κ) (c : Session.Call) : Attempt σ κ c.Result :=
  let (result, link) := r.link.call c
  .answered result ({ r with link } : Running σ κ).release

def beginCall (r : Running σ κ) (user : User) (c : Session.Call) : Attempt σ κ c.Result :=
  let r := { r with user := some user }
  let delay := TagSession.delay c r.link.session
  if delay = 0 then r.completeCall c else .waits (.until (r.clock + delay)) r

/-- A call of the session, for which a user may have to stand in line. -/
def tryCall (r : Running σ κ) (user : User) (progress : Progress) (c : Session.Call) :
    Attempt σ κ c.Result :=
  match progress with
  | .fresh =>
      match r.user with
      | none => r.beginCall user c
      | some _ => .waits .queued { r with line := r.line ++ [user] }
  | .queued => if r.user = some user then r.beginCall user c else .waits .queued r
  | .until time => if time ≤ r.clock then r.completeCall c else .waits progress r

/-- An action on the link that needs no waiting. -/
def linkNow (r : Running σ κ) (action : Link.Action) : Attempt σ κ action.Answer :=
  let (answer, link) := r.link.perform action
  .answered answer { r with link }

def tryLink (r : Running σ κ) (user : User) (progress : Progress) :
    (action : Link.Action) → Attempt σ κ action.Answer
  | .call c => r.tryCall user progress c
  | .look => r.linkNow .look
  | .move next => r.linkNow (.move next)
  | .halt => r.linkNow .halt
  | .publish => r.linkNow .publish
  | .count event => r.linkNow (.count event)

/-! ## The poll loop -/

/-- A pause ends at its time, or earlier when the loop is asked to stop. -/
def tryPause (r : Running σ κ) (progress : Progress) (millis : Nat) : Attempt σ κ Bool :=
  let time :=
    match progress with
    | .until time => time
    | _ => r.clock + millis
  if r.stopAsked then .answered true r
  else if time ≤ r.clock then .answered false r
  else .waits (.until time) r

/-- Handing on a reply is given up when the loop is asked to stop or the worker has
ended; otherwise it needs room in the queue. -/
def tryDeliver (r : Running σ κ) (reply : Unconverted) : Attempt σ κ Bool :=
  if r.stopAsked ∨ r.worker.hasEnded then .answered false r
  else if r.queue.length < r.connector.server.queueCapacity then
    .answered true { r with queue := r.queue ++ [reply] }
  else .waits .fresh r

def tryPoll (r : Running σ κ) : (action : Poll.Action) → Attempt σ κ action.Answer
  | .link action => r.tryLink .loop r.loopProgress action
  | .now => .answered r.clock r
  | .wallClock => .answered (r.epoch + r.clock) r
  | .stopAsked => .answered r.stopAsked r
  | .pause millis => r.tryPause r.loopProgress millis
  | .deliver reply => r.tryDeliver reply

/-- Attempts an action of the loop and goes on to the stage that its answer leads to;
none when there is nothing to do but wait. -/
def stepPoll (r : Running σ κ) (action : Poll.Action) (next : action.Answer → LoopStage) :
    Option (Running σ κ) :=
  match r.tryPoll action with
  | .answered answer after => some { after with loop := next answer, loopProgress := .fresh }
  | .waits progress after =>
      if progress = r.loopProgress then none else some { after with loopProgress := progress }

def stepLoop (r : Running σ κ) : Option (Running σ κ) :=
  match r.loop with
  | .ended => none
  | .turn (.act action next) => r.stepPoll action fun answer => .turn (next answer)
  | .turn (.done (some nextPoll)) =>
      some { r with loop := .turn (Poll.turn r.connector.pollSettings nextPoll) }
  | .turn (.done none) => some { r with loop := .finish Poll.finish }
  | .finish (.act action next) => r.stepPoll action fun answer => .finish (next answer)
  | .finish (.done ()) => some { r with loop := .ended }

/-! ## The worker -/

/-- Being asked to stop goes before a reply that waits. -/
def tryReceive (r : Running σ κ) : Attempt σ κ (Option Unconverted) :=
  if r.stopAsked then .answered none r
  else
    match r.queue with
    | reply :: rest => .answered (some reply) { r with queue := rest }
    | [] => if r.loop.hasEnded then .answered none r else .waits .fresh r

def tryWorker [RecordSink κ] (r : Running σ κ) :
    (action : Worker.Action) → Attempt σ κ action.Answer
  | .receive => r.tryReceive
  | .count event => .answered () { r with link := r.link.count event }
  | .send record =>
      let (accepted, sink) := RecordSink.send ⟨r.connector.name, r.connector.id, record⟩ r.sink
      .answered accepted { r with sink }

def stepWorker [RecordSink κ] (r : Running σ κ) : Option (Running σ κ) :=
  match r.worker with
  | .ended => none
  | .turn (.act action next) =>
      match r.tryWorker action with
      | .answered answer after => some { after with worker := .turn (next answer) }
      | .waits _ _ => none
  | .turn (.done true) => some { r with worker := .turn Worker.turn }
  | .turn (.done false) => some { r with worker := .ended }

/-- Lets the loop and the worker go on until both have to wait.  The bound is for a
loop that polls without any pause and would never wait. -/
def settle [RecordSink κ] : Nat → Running σ κ → Running σ κ
  | 0, r => r
  | bound + 1, r =>
      match r.stepLoop with
      | some after => settle bound after
      | none =>
          match r.stepWorker with
          | some after => settle bound after
          | none => r

/-! ## The host -/

def tryRest (r : Running σ κ) (progress : Progress) (millis : Nat) : Attempt σ κ Unit :=
  let time :=
    match progress with
    | .until time => time
    | _ => r.clock + millis
  if time ≤ r.clock then .answered () r else .waits (.until time) r

def tryJoin (r : Running σ κ) (deadline : Nat) : Attempt σ κ Bool :=
  if r.loop.hasEnded ∧ r.worker.hasEnded then .answered true r
  else if deadline ≤ r.clock then .answered false r
  else .waits (.until deadline) r

def tryClose (r : Running σ κ) (progress : Progress) (deadline : Nat) : Attempt σ κ Bool :=
  match r.tryCall .host progress .close with
  | .answered _ after => .answered true after
  | .waits progress after =>
      if deadline ≤ after.clock then .answered false (after.leave .host)
      else .waits progress after

def tryHost (r : Running σ κ) (progress : Progress) :
    (action : Host.Action) → Attempt σ κ action.Answer
  | .link action => r.tryLink .host progress action
  | .now => .answered r.clock r
  | .rest millis => r.tryRest progress millis
  | .signalStop => .answered () { r with stopAsked := true }
  | .join deadline => r.tryJoin deadline
  | .closeBefore deadline => r.tryClose progress deadline

/-- The moment for which somebody waits with this progress. -/
def Progress.moment : Progress → List Nat
  | .until time => [time]
  | _ => []

/-- The moment after which the host does not wait for the session. -/
def patience : Host.Action → List Nat
  | .closeBefore deadline => [deadline]
  | _ => []

/-- The earliest of the moments that are still to come. -/
def earliest (clock : Nat) (moments : List Nat) : Option Nat :=
  (moments.filter fun time => clock < time).min?

/-- Moves the clock to the earliest moment for which the loop or the host waits. -/
def passTime (r : Running σ κ) (progress : Progress) (action : Host.Action) :
    Option (Running σ κ) :=
  (earliest r.clock (r.loopProgress.moment ++ progress.moment ++ patience action)).map
    fun time => { r with clock := time }

/-- How many steps the loop and the worker may take without any time passing. -/
def settleBound : Nat := 1000000

/-- Performs a routine of the host, while the loop and the worker go on whenever the
host waits; no result when it waits for ever or the bound is too low. -/
def host [RecordSink κ] {α : Type} :
    Nat → Host.Program α → Progress → Running σ κ → Option α × Running σ κ
  | 0, _, _, r => (none, r)
  | _ + 1, .done result, _, r => (some result, r)
  | bound + 1, .act action next, progress, r =>
      match r.tryHost progress action with
      | .answered answer after => host bound (next answer) .fresh after
      | .waits progress after =>
          let settled := after.settle settleBound
          match settled.tryHost progress action with
          | .answered answer after => host bound (next answer) .fresh after
          | .waits progress after =>
              match after.passTime progress action with
              | some later => host bound (.act action next) progress later
              | none => (none, after)

/-- How often the host may wait or act in one routine. -/
def hostBound : Nat := 1000000000

def runHost [RecordSink κ] {α : Type} (r : Running σ κ) (program : Host.Program α) :
    Option α × Running σ κ :=
  host hostBound program .fresh r

/-- Lets time pass. -/
def advance [RecordSink κ] (r : Running σ κ) (millis : Nat) : Running σ κ :=
  (r.runHost (Host.act (.rest millis))).2

/-- Answers a request from the platform. -/
def answer [RecordSink κ] (r : Running σ κ) (request : Remote.Request) :
    Option Remote.Reply × Running σ κ :=
  r.runHost (Host.onLink (r.connector.passThrough.answer request))

/-- Applies an update of shared attributes. -/
def update [RecordSink κ] (r : Running σ κ) (u : Remote.Update) :
    Option (Except Remote.Failure (List (String × Remote.Reply))) × Running σ κ :=
  r.runHost (Host.onLink (r.connector.passThrough.update u))

/-- Shuts the connector down; answers whether its tasks ended in time. -/
def shutdown [RecordSink κ] (r : Running σ κ) : Option Bool × Running σ κ :=
  r.runHost (Host.shutdown r.connector.server.stopTimeout)

end Sessions

end Running

end TagRelay
