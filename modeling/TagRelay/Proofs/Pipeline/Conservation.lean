import TagRelay.Proofs.Pipeline.PollLedger
import TagRelay.Proofs.Pipeline.Untimed
import TagRelay.Proofs.Pipeline.WorkerLedger

/-!
# Nothing is lost on the way

Between the loop and the worker replies wait in a queue.  The two ledgers and the queue
fit together in every run: what was handed on was taken or waits, in its order, and the
counts of the connector are those of the ledgers.
-/

namespace TagRelay

/-! ## Counts of the flow -/

/-- The counts that tell of replies are the same. -/
structure Metrics.SameFlow (m after : Metrics) : Prop where
  received : after.received = m.received
  sent : after.sent = m.sent
  readFailures : after.readFailures = m.readFailures

theorem Metrics.SameFlow.refl (m : Metrics) : SameFlow m m := ⟨rfl, rfl, rfl⟩

/-- Nothing but counting reaches the counts. -/
theorem Link.perform_sameFlow {σ : Type} [TagSession σ] {action : Link.Action}
    (haction : ∀ event, action ≠ .count event) (link : Link σ) :
    link.metrics.SameFlow (link.perform action).2.metrics := by
  cases action with
  | count event => exact absurd rfl (haction event)
  | move next =>
      simp only [Link.perform, Link.move]
      split <;> exact ⟨rfl, rfl, rfl⟩
  | look | halt | publish | call => exact ⟨rfl, rfl, rfl⟩

/-- What is counted of the platform's calls is none of them. -/
theorem Remote.May.sameFlow {σ : Type} [TagSession σ] {action : Link.Action}
    (hmay : Remote.May action) (link : Link σ) :
    link.metrics.SameFlow (link.perform action).2.metrics := by
  cases action with
  | count event => cases event <;> first | exact ⟨rfl, rfl, rfl⟩ | exact hmay.elim
  | look | move | halt | publish | call => exact Link.perform_sameFlow (by simp) link

namespace Interleaved

open Routine
open Poll (MayOwe batch delivered delivered? counted countsFailure wasStopped)
open Worker (MayHandle taken taken? wasDismissed)

variable {σ κ : Type} [TagSession σ] {c : Connector} {p q : Interleaved σ κ}
  {events new : List Event}

/-! ## Single steps -/

theorem hostEffect_sameFlow {action : Host.Action} {answer : action.Answer}
    (hmay : HostMay action) (heffect : hostEffect action answer p q) :
    p.link.metrics.SameFlow q.link.metrics := by
  cases action with
  | link action =>
      rw [heffect.2]
      refine Link.perform_sameFlow ?_ p.link
      rintro event rfl
      exact hmay.elim
  | now | rest | signalStop =>
      rw [heffect]
      exact Metrics.SameFlow.refl _
  | join =>
      rw [heffect.2]
      exact Metrics.SameFlow.refl _
  | closeBefore =>
      cases answer with
      | false =>
          rw [heffect]
          exact Metrics.SameFlow.refl _
      | true =>
          rw [heffect]
          exact Link.perform_sameFlow (by simp) p.link

theorem loopEffect_queue {action : Poll.Action} {answer : action.Answer}
    (heffect : loopEffect c action answer p q) :
    q.queue = p.queue ++ (delivered? ⟨action, answer⟩).toList ∧
      (p.queue.length ≤ c.server.queueCapacity → q.queue.length ≤ c.server.queueCapacity) := by
  cases action with
  | link | stopAsked | pause =>
      rw [heffect.2]
      simp [delivered?]
  | now | wallClock =>
      rw [heffect]
      simp [delivered?]
  | deliver reply =>
      cases answer with
      | false =>
          rw [heffect.2]
          simp [delivered?]
      | true =>
          obtain ⟨hroom, -, hq⟩ := heffect
          rw [hq]
          refine ⟨rfl, fun _ => ?_⟩
          rw [List.length_append, List.length_singleton]
          omega

/-- The loop counts failed reads alone, each for a device of its own. -/
theorem loopEffect_flow {devices : List Device} {past : List Poll.Event}
    {action : Poll.Action} {answer : action.Answer} (hmay : MayOwe devices action past)
    (heffect : loopEffect c action answer p q) :
    q.link.metrics.received = p.link.metrics.received ∧
      q.link.metrics.sent = p.link.metrics.sent ∧
      (countsFailure ⟨action, answer⟩ = false ∧
          q.link.metrics.readFailures = p.link.metrics.readFailures ∨
        countsFailure ⟨action, answer⟩ = true ∧ ∃ name ∈ devices.map fun device => device.name,
          q.link.metrics.readFailures = p.link.metrics.readFailures.add name 1) := by
  have hlink := loopEffect_link heffect
  cases action with
  | link action =>
      rw [hlink]
      by_cases hcount : ∃ event, action = .count event
      · obtain ⟨event, rfl⟩ := hcount
        cases event with
        | readFailure name => exact ⟨rfl, rfl, Or.inr ⟨rfl, name, hmay.2, rfl⟩⟩
        | pollCycle => exact ⟨rfl, rfl, Or.inl ⟨rfl, rfl⟩⟩
        | received | sent | conversionFailures | call => simp [MayOwe] at hmay
      · have hsame := Link.perform_sameFlow (fun event h => hcount ⟨event, h⟩) p.link
        refine ⟨hsame.received, hsame.sent, Or.inl ⟨?_, hsame.readFailures⟩⟩
        cases action with
        | count event => exact absurd ⟨event, rfl⟩ hcount
        | look | move | halt | publish | call => rfl
  | now | wallClock | stopAsked | pause | deliver =>
      rw [hlink]
      exact ⟨rfl, rfl, Or.inl ⟨rfl, rfl⟩⟩

omit [TagSession σ] in
theorem workerEffect_queue [RecordSink κ] {action : Worker.Action} {answer : action.Answer}
    (heffect : workerEffect c action answer p q) :
    p.queue = (taken? ⟨action, answer⟩).toList ++ q.queue := by
  cases action with
  | receive =>
      cases answer with
      | none =>
          rw [heffect.2]
          rfl
      | some reply => exact heffect.1
  | count event =>
      rw [heffect]
      rfl
  | send record =>
      rw [heffect.2]
      rfl

omit [TagSession σ] in
/-- The worker counts what it receives and sends, and no failed reads. -/
theorem workerEffect_flow [RecordSink κ] {past : List Worker.Event} {action : Worker.Action}
    {answer : action.Answer} (hmay : MayHandle action past)
    (heffect : workerEffect c action answer p q) :
    q.link.metrics.received = p.link.metrics.received +
        (Worker.counts Metrics.Event.isReceived ⟨action, answer⟩).toNat ∧
      q.link.metrics.sent = p.link.metrics.sent +
        (Worker.counts Metrics.Event.isSent ⟨action, answer⟩).toNat ∧
      q.link.metrics.readFailures = p.link.metrics.readFailures := by
  cases action with
  | receive =>
      cases answer with
      | none =>
          rw [heffect.2]
          exact ⟨rfl, rfl, rfl⟩
      | some reply =>
          rw [heffect.2]
          exact ⟨rfl, rfl, rfl⟩
  | count event =>
      rw [heffect]
      refine ⟨Metrics.record_received p.link.metrics event,
        Metrics.record_sent p.link.metrics event, ?_⟩
      cases event with
      | readFailure => exact hmay.elim
      | conversionFailures device count => cases count <;> rfl
      | pollCycle | received | sent | call => rfl
  | send record =>
      rw [heffect.2]
      exact ⟨rfl, rfl, rfl⟩

theorem stopAsked_of_wasStopped {action : Poll.Action} {answer : action.Answer}
    (heffect : loopEffect c action answer p q) (hstopped : wasStopped ⟨action, answer⟩ = true) :
    p.stopAsked = true ∨ p.worker.hasEnded = true := by
  cases action with
  | link | now | wallClock => simp [wasStopped] at hstopped
  | stopAsked => exact Or.inl (heffect.1.symm.trans hstopped)
  | pause => exact Or.inl (heffect.1 hstopped)
  | deliver reply =>
      cases answer with
      | false => exact heffect.1
      | true => simp [wasStopped] at hstopped

omit [TagSession σ] in
theorem stopAsked_of_wasDismissed [RecordSink κ] {action : Worker.Action}
    {answer : action.Answer} (heffect : workerEffect c action answer p q)
    (hdismissed : wasDismissed ⟨action, answer⟩ = true) :
    p.stopAsked = true ∨ p.loop.hasEnded = true := by
  cases action with
  | receive =>
      cases answer with
      | none => exact heffect.1.imp_right And.right
      | some reply => simp [wasDismissed] at hdismissed
  | count | send => simp [wasDismissed] at hdismissed

theorem hostEffect_stopAsked {action : Host.Action} {answer : action.Answer}
    (heffect : hostEffect action answer p q) (hasked : p.stopAsked = true) :
    q.stopAsked = true := by
  cases action with
  | link | join =>
      rw [heffect.2]
      exact hasked
  | now | rest =>
      rw [heffect]
      exact hasked
  | signalStop => rw [heffect]
  | closeBefore =>
      cases answer <;> rw [heffect] <;> exact hasked

/-! ## Accounts -/

/-- The ledgers, the queue and the counts fit together, and nobody has ended without
having been asked to. -/
structure Accounts (c : Connector) (events : List Event) (p : Interleaved σ κ) : Prop where
  loop : p.loop.Obeys (Poll.ledgerRules c.pollSettings.devices) Poll.Turned
    (fun past => ∃ e ∈ past, wasStopped e = true) (loopEvents events)
  worker : p.worker.Obeys Worker.ledgerRules Worker.Turned
    (fun past => ∃ e ∈ past, wasDismissed e = true) (workerEvents events)
  batches : Poll.Balanced (loopEvents events)
  records : Worker.Balanced (workerEvents events)
  queue : delivered (loopEvents events) = taken (workerEvents events) ++ p.queue
  bounded : p.queue.length ≤ c.server.queueCapacity
  received : p.link.metrics.received =
    (workerEvents events).countP (Worker.counts Metrics.Event.isReceived)
  sent : p.link.metrics.sent = (workerEvents events).countP (Worker.counts Metrics.Event.isSent)
  failures : p.link.metrics.readFailures.total = counted (loopEvents events)
  apart : Tally.Apart p.link.metrics.readFailures.keys
  names : ∀ name ∈ p.link.metrics.readFailures.keys,
    name ∈ c.pollSettings.devices.map fun device => device.name
  stopped : (∃ e ∈ loopEvents events, wasStopped e = true) → p.stopAsked = true
  dismissed : (∃ e ∈ workerEvents events, wasDismissed e = true) → p.stopAsked = true

omit [TagSession σ] in
theorem accounts_start (c : Connector) (session : σ) (sink : κ) :
    Accounts c [] (start c session sink) where
  loop := Poll.owes_turn c.pollSettings 0 rfl
  worker := Worker.handles_turn rfl
  batches := Poll.balanced_nil
  records := Worker.balanced_nil
  queue := rfl
  bounded := Nat.zero_le _
  received := rfl
  sent := rfl
  failures := rfl
  apart := List.Pairwise.nil
  names := by simp [start, Tally.keys]
  stopped := by simp [loopEvents]
  dismissed := by simp [workerEvents]

omit [TagSession σ] in
theorem Accounts.stopAsked_of_loop_ended (hp : Accounts c events p)
    (hended : p.loop.hasEnded = true) : p.stopAsked = true :=
  hp.stopped (hp.loop.ended hended)

omit [TagSession σ] in
theorem Accounts.stopAsked_of_worker_ended (hp : Accounts c events p)
    (hended : p.worker.hasEnded = true) : p.stopAsked = true :=
  hp.dismissed (hp.worker.ended hended)

/-! ## Runs -/

theorem Accounts.loopActs (hp : Accounts c events p) {action : Poll.Action}
    {next : action.Answer → Running.LoopStage} {answer : action.Answer}
    (hacting : p.loop.acting? = some ⟨action, next⟩)
    (heffect : loopEffect c action answer p q) :
    Accounts c (events ++ [.loop ⟨action, answer⟩]) { q with loop := next answer } := by
  have hloopEvents : loopEvents (events ++ [.loop ⟨action, answer⟩]) =
      loopEvents events ++ [⟨action, answer⟩] :=
    loopEvents_append events _
  have hworkerEvents : workerEvents (events ++ [.loop ⟨action, answer⟩]) = workerEvents events := by
    rw [workerEvents_append]
    exact List.append_nil _
  obtain ⟨hmay, hnext⟩ := hp.loop.acts hacting rfl
  obtain ⟨-, -, hworker, hstop, -⟩ := loopEffect_others heffect
  obtain ⟨hqueue, hbounded⟩ := loopEffect_queue heffect
  obtain ⟨hreceived, hsent, hfailures⟩ := loopEffect_flow hmay heffect
  constructor
  · rw [hloopEvents]
    exact hnext answer _ rfl
  · rw [hworkerEvents, hworker]
    exact hp.worker
  · rw [hloopEvents]
    exact hp.batches.append_one hmay answer
  · rw [hworkerEvents]
    exact hp.records
  · rw [hloopEvents, hworkerEvents]
    calc delivered (loopEvents events ++ [⟨action, answer⟩])
        = (taken (workerEvents events) ++ p.queue) ++ (delivered? ⟨action, answer⟩).toList := by
          rw [Poll.delivered_append_one, hp.queue]
      _ = taken (workerEvents events) ++ (p.queue ++ (delivered? ⟨action, answer⟩).toList) :=
          List.append_assoc _ _ _
      _ = taken (workerEvents events) ++ q.queue := by rw [hqueue]
  · exact hbounded hp.bounded
  · rw [hworkerEvents, ← hp.received]
    exact hreceived
  · rw [hworkerEvents, ← hp.sent]
    exact hsent
  · rw [hloopEvents, Poll.counted_append_one, ← hp.failures]
    rcases hfailures with ⟨hcounts, hsame⟩ | ⟨hcounts, name, -, hadd⟩
    · rw [hcounts]
      exact congrArg Tally.total hsame
    · rw [hcounts]
      exact (congrArg Tally.total hadd).trans (Tally.total_add name 1 _)
  · rcases hfailures with ⟨-, hsame⟩ | ⟨-, name, -, hadd⟩
    · rw [show q.link.metrics.readFailures = _ from hsame]
      exact hp.apart
    · rw [show q.link.metrics.readFailures = _ from hadd]
      exact hp.apart.add name 1
  · intro other hother
    rcases hfailures with ⟨-, hsame⟩ | ⟨-, name, hname, hadd⟩
    · rw [show q.link.metrics.readFailures = _ from hsame] at hother
      exact hp.names other hother
    · rw [show q.link.metrics.readFailures = _ from hadd] at hother
      rcases Tally.mem_keys_add hother with hother | rfl
      · exact hp.names other hother
      · exact hname
  · rw [hloopEvents]
    rintro ⟨e, he, hstopped⟩
    refine hstop.trans ?_
    rcases List.mem_append.mp he with he | he
    · exact hp.stopped ⟨e, he, hstopped⟩
    · obtain rfl := List.mem_singleton.mp he
      rcases stopAsked_of_wasStopped heffect hstopped with hasked | hended
      · exact hasked
      · exact hp.stopAsked_of_worker_ended hended
  · rw [hworkerEvents]
    exact fun hdismissed => hstop.trans (hp.dismissed hdismissed)

omit [TagSession σ] in
theorem Accounts.loopGoesOn (hp : Accounts c events p) {stage : Running.LoopStage}
    (hstage : p.loop.following? c.pollSettings = some stage) :
    Accounts c (events ++ []) { p with loop := stage } := by
  rw [List.append_nil]
  exact { hp with
    loop := hp.loop.goesOn hstage (fun nextPoll => Poll.owes_turn _ nextPoll) Poll.owes_finish }

omit [TagSession σ] in
theorem Accounts.workerGoesOn (hp : Accounts c events p) {stage : Running.WorkerStage}
    (hstage : p.worker.following? = some stage) :
    Accounts c (events ++ []) { p with worker := stage } := by
  rw [List.append_nil]
  exact { hp with worker := hp.worker.goesOn hstage Worker.handles_turn id }

omit [TagSession σ] in
theorem Accounts.workerActs [RecordSink κ] (hp : Accounts c events p) {action : Worker.Action}
    {next : action.Answer → Running.WorkerStage} {answer : action.Answer}
    (hacting : p.worker.acting? = some ⟨action, next⟩)
    (heffect : workerEffect c action answer p q) :
    Accounts c (events ++ [.worker ⟨action, answer⟩]) { q with worker := next answer } := by
  have hworkerEvents : workerEvents (events ++ [.worker ⟨action, answer⟩]) =
      workerEvents events ++ [⟨action, answer⟩] :=
    workerEvents_append events _
  have hloopEvents : loopEvents (events ++ [.worker ⟨action, answer⟩]) = loopEvents events := by
    rw [loopEvents_append]
    exact List.append_nil _
  obtain ⟨hmay, hnext⟩ := hp.worker.acts hacting rfl
  obtain ⟨-, -, hloop, hstop, -⟩ := workerEffect_others heffect
  have hqueue := workerEffect_queue heffect
  obtain ⟨hreceived, hsent, hfailures⟩ := workerEffect_flow hmay heffect
  constructor
  · rw [hloopEvents, hloop]
    exact hp.loop
  · rw [hworkerEvents]
    exact hnext answer _ rfl
  · rw [hloopEvents]
    exact hp.batches
  · rw [hworkerEvents]
    exact hp.records.append_one hmay answer
  · rw [hloopEvents, hworkerEvents]
    calc delivered (loopEvents events)
        = taken (workerEvents events) ++ ((taken? ⟨action, answer⟩).toList ++ q.queue) := by
          rw [hp.queue, hqueue]
      _ = taken (workerEvents events) ++ (taken? ⟨action, answer⟩).toList ++ q.queue :=
          (List.append_assoc _ _ _).symm
      _ = taken (workerEvents events ++ [⟨action, answer⟩]) ++ q.queue := by
          rw [Worker.taken_append_one]
  · have hbounded := hp.bounded
    rw [hqueue, List.length_append] at hbounded
    exact Nat.le_of_add_left_le hbounded
  · rw [hworkerEvents, Worker.countP_append_one, ← hp.received]
    exact hreceived
  · rw [hworkerEvents, Worker.countP_append_one, ← hp.sent]
    exact hsent
  · rw [hloopEvents, ← hp.failures]
    exact congrArg Tally.total hfailures
  · rw [show q.link.metrics.readFailures = _ from hfailures]
    exact hp.apart
  · rw [show q.link.metrics.readFailures = _ from hfailures]
    exact hp.names
  · rw [hloopEvents]
    exact fun hstopped => hstop.trans (hp.stopped hstopped)
  · rw [hworkerEvents]
    rintro ⟨e, he, hdismissed⟩
    refine hstop.trans ?_
    rcases List.mem_append.mp he with he | he
    · exact hp.dismissed ⟨e, he, hdismissed⟩
    · obtain rfl := List.mem_singleton.mp he
      rcases stopAsked_of_wasDismissed heffect hdismissed with hasked | hended
      · exact hasked
      · exact hp.stopAsked_of_loop_ended hended

omit [TagSession σ] in
/-- What others do that does not concern replies. -/
theorem Accounts.others (hp : Accounts c events p) (hloopEvents : loopEvents new = [])
    (hworkerEvents : workerEvents new = []) (hloop : q.loop = p.loop)
    (hworker : q.worker = p.worker) (hqueue : q.queue = p.queue)
    (hstop : p.stopAsked = true → q.stopAsked = true)
    (hflow : p.link.metrics.SameFlow q.link.metrics) : Accounts c (events ++ new) q := by
  have hloopEvents : loopEvents (events ++ new) = loopEvents events := by simp [hloopEvents]
  have hworkerEvents : workerEvents (events ++ new) = workerEvents events := by
    simp [hworkerEvents]
  constructor
  · rw [hloopEvents, hloop]
    exact hp.loop
  · rw [hworkerEvents, hworker]
    exact hp.worker
  · rw [hloopEvents]
    exact hp.batches
  · rw [hworkerEvents]
    exact hp.records
  · rw [hloopEvents, hworkerEvents, hqueue]
    exact hp.queue
  · rw [hqueue]
    exact hp.bounded
  · rw [hworkerEvents, hflow.received]
    exact hp.received
  · rw [hworkerEvents, hflow.sent]
    exact hp.sent
  · rw [hloopEvents, hflow.readFailures]
    exact hp.failures
  · rw [hflow.readFailures]
    exact hp.apart
  · rw [hflow.readFailures]
    exact hp.names
  · rw [hloopEvents]
    exact fun hstopped => hstop (hp.stopped hstopped)
  · rw [hworkerEvents]
    exact fun hdismissed => hstop (hp.dismissed hdismissed)

theorem Accounts.step [RecordSink κ] (hp : Accounts c events p) (hmannered : Mannered p)
    (hstep : Step c p new q) : Accounts c (events ++ new) q := by
  cases hstep with
  | loopActs hacting heffect => exact hp.loopActs hacting heffect
  | loopGoesOn hstage => exact hp.loopGoesOn hstage
  | workerActs hacting heffect => exact hp.workerActs hacting heffect
  | workerGoesOn hstage => exact hp.workerGoesOn hstage
  | hostActs hacting heffect =>
      obtain ⟨hloop, hworker, -, hqueue, -⟩ := hostEffect_others heffect
      have hstop := hostEffect_stopAsked heffect
      have hflow := hostEffect_sameFlow (hmannered.host.acts hacting).1 heffect
      exact hp.others rfl rfl hloop hworker hqueue hstop hflow
  | hostGoesOn => exact hp.others rfl rfl rfl rfl rfl id (Metrics.SameFlow.refl _)
  | remoteBegins => exact hp.others rfl rfl rfl rfl rfl id (Metrics.SameFlow.refl _)
  | remoteActs hacting heffect =>
      obtain ⟨-, rfl⟩ := heffect
      have hbehaves := hmannered.remote _ (List.mem_of_getElem? hacting)
      have hmay := ((obeys_ofActions_act _ _ _ _ _).mp hbehaves).1
      exact hp.others rfl rfl rfl rfl rfl id (hmay.sameFlow p.link)

theorem accounts_of_run [RecordSink κ] {session : σ} {sink : κ}
    (hrun : Run c (start c session sink) events p) : Accounts c events p := by
  induction hrun with
  | refl => exact accounts_start c session sink
  | tail hrun hstep ih => exact ih.step ((mannered_start c session sink).run hrun) hstep

/-! ## Conservation -/

/-- No reply is lost, doubled or overtaken on its way from the session to the sink. -/
structure Conserved (c : Connector) (events : List Event) (p : Interleaved σ κ) : Prop where
  /-- Every completed read is in one of the counts, waits in the queue or is being handed on,
  or it is on the way into its count. -/
  reads : p.stopAsked = false → (Poll.reads (loopEvents events)).length =
    p.link.metrics.received + (p.queue.length + (Poll.owing (loopEvents events)).sending) +
      p.link.metrics.readFailures.total +
      ((Poll.owing (loopEvents events)).uncounted +
        (Worker.handling (workerEvents events)).uncounted)
  /-- What was read was taken in the same order, but for what waits. -/
  order : p.stopAsked = false → Poll.acquired (loopEvents events) =
    (taken (workerEvents events) ++ p.queue).map batch ++
      (Poll.owing (loopEvents events)).pending
  /-- What was handed on was taken in the same order, but for what is in the queue. -/
  handedOn : delivered (loopEvents events) = taken (workerEvents events) ++ p.queue
  /-- Also later, what was taken is what was read first. -/
  first : (taken (workerEvents events)).map batch <+: Poll.acquired (loopEvents events)
  /-- What was taken was converted and offered in the same order, but for what is in hand. -/
  offered : Worker.offered (workerEvents events) ++
      (Worker.handling (workerEvents events)).unoffered =
    (taken (workerEvents events)).map fun reply => (Worker.convert reply).1
  bounded : p.queue.length ≤ c.server.queueCapacity
  /-- What was received was sent or refused, but for what is being processed. -/
  refused : p.link.metrics.received = p.link.metrics.sent +
    Worker.refused (workerEvents events) + (Worker.handling (workerEvents events)).processing
  /-- The failed reads are those of the devices, where no two of these share a count. -/
  failures : Tally.Apart (c.devices.items.map fun device => device.name) →
    p.link.metrics.readFailures.countAll (c.devices.items.map fun device => device.name) =
      p.link.metrics.readFailures.total

omit [TagSession σ] in
theorem Accounts.length_pending (hp : Accounts c events p) (hstop : p.stopAsked = false) :
    (Poll.owing (loopEvents events)).pending.length =
      (Poll.owing (loopEvents events)).sending := by
  cases howing : Poll.owing (loopEvents events) with
  | nothing | reply | failure => rfl
  | givenUp paths readings =>
      have hstopped := hp.stopped (hp.batches.stopped paths readings howing)
      rw [hstop] at hstopped
      exact absurd hstopped Bool.false_ne_true

omit [TagSession σ] in
theorem Accounts.conserved (hp : Accounts c events p) : Conserved c events p where
  reads hstop := by
    have hreads := hp.batches.reads
    have hbatches := congrArg List.length hp.batches.batches
    have hqueue := congrArg List.length hp.queue
    have htaken := hp.records.received
    have hpending := hp.length_pending hstop
    rw [List.length_append, List.length_map, hpending] at hbatches
    rw [List.length_append] at hqueue
    rw [← hp.received] at htaken
    rw [← hp.failures] at hreads
    omega
  order _ := by
    rw [hp.batches.batches, hp.queue]
  handedOn := hp.queue
  first := by
    rw [hp.batches.batches, hp.queue, List.map_append, List.append_assoc]
    exact List.prefix_append _ _
  offered := hp.records.records
  bounded := hp.bounded
  refused := by
    rw [hp.received, hp.sent]
    exact hp.records.sent
  failures hnames := Tally.countAll_eq_total hnames hp.apart hp.names

/-- In every run, whatever the session and the sink answer and in whatever order everything
is done, replies are conserved. -/
theorem conserved_of_run [RecordSink κ] {session : σ} {sink : κ}
    (hrun : Run c (start c session sink) events p) : Conserved c events p :=
  (accounts_of_run hrun).conserved

/-- One of two reads has failed, and the other reply was received. -/
theorem conserved_of_rejection :
    ∃ events p, Run (Running.boilers ["north", "south"])
        (start (Running.boilers ["north", "south"])
          (Memory.failNextRead {} (.rejected "Boiler.Temperature" "access denied"))
          ({} : Mailbox)) events p ∧
      p.stopAsked = false ∧ p.queue = [] ∧ p.link.metrics.received = 1 ∧
      p.link.metrics.readFailures.total = 1 ∧
      Conserved (Running.boilers ["north", "south"]) events p := by
  obtain ⟨events, remote, hrun⟩ := Running.exists_run (Running.boilers ["north", "south"])
    (Memory.failNextRead {} (.rejected "Boiler.Temperature" "access denied"))
    ({} : Mailbox) 0 [.advance 10]
  exact ⟨events, _, hrun, rfl, rfl, rfl, rfl, conserved_of_run hrun⟩

/-- Where two devices share a count, their counts do not make up the failed reads: both
tasks wait, one read has failed and one reply was received, but the counts of the two
devices say that there were three reads. -/
theorem sum_of_devices_ne :
    ∃ events p, Run (Running.boilers ["8yn0iYCKYHlIj4-BwPqk", "GReLUrM4wMqfg9yzV3KQ"])
        (start (Running.boilers ["8yn0iYCKYHlIj4-BwPqk", "GReLUrM4wMqfg9yzV3KQ"])
          (Memory.failNextRead {} (.rejected "Boiler.Temperature" "access denied"))
          ({} : Mailbox)) events p ∧
      p.stopAsked = false ∧ Poll.owing (loopEvents events) = .nothing ∧
      Worker.handling (workerEvents events) = .idle ∧
      (Poll.reads (loopEvents events)).length ≠
        p.link.metrics.received + p.queue.length +
          p.link.metrics.readFailures.countAll
            ["8yn0iYCKYHlIj4-BwPqk", "GReLUrM4wMqfg9yzV3KQ"] := by
  obtain ⟨events, remote, hrun⟩ := Running.exists_run
    (Running.boilers ["8yn0iYCKYHlIj4-BwPqk", "GReLUrM4wMqfg9yzV3KQ"])
    (Memory.failNextRead {} (.rejected "Boiler.Temperature" "access denied"))
    ({} : Mailbox) 0 [.advance 10]
  have haccounts := accounts_of_run hrun
  have howing : Poll.owing (loopEvents events) = .nothing := (haccounts.loop.acts rfl rfl).1
  have hidle : Worker.handling (workerEvents events) = .idle := (haccounts.worker.acts rfl rfl).1
  have hreads := haccounts.conserved.reads rfl
  rw [howing, hidle] at hreads
  refine ⟨events, _, hrun, rfl, howing, hidle, ?_⟩
  rw [hreads]
  exact (by decide : (2 : Nat) ≠ 3)

end Interleaved

end TagRelay
