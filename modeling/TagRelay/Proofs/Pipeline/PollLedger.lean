import TagRelay.Proofs.Pipeline.CallRules

/-!
# The loop's ledger

Every read leaves the loop with something that it owes: a reply has to be handed on, a
failure has to be counted.  It pays before it reads again.  A reply that is given up is
never paid, and then nothing more is read.
-/

namespace TagRelay.Poll

open Routine

/-- What the loop owes for its latest read. -/
inductive Owing where
  | nothing
  /-- A reply with the paths that were read. -/
  | reply (paths : List String) (readings : List Reading)
  | failure
  /-- A reply that is not handed on any more. -/
  | givenUp (paths : List String) (readings : List Reading)

namespace Owing

/-- The reply that was not handed on, if there is one. -/
def pending : Owing → List (List String × List Reading)
  | .reply paths readings | .givenUp paths readings => [(paths, readings)]
  | _ => []

/-- How many replies are being handed on. -/
def sending : Owing → Nat
  | .reply _ _ => 1
  | _ => 0

/-- How many failures are still to be counted. -/
def uncounted : Owing → Nat
  | .failure => 1
  | _ => 0

end Owing

/-! ## Histories -/

def owingAfter : Event → Owing → Owing
  | ⟨.link (.call (.read paths)), .ok readings⟩, _ => .reply paths readings
  | ⟨.link (.call (.read _)), .error _⟩, _ => .failure
  | ⟨.link (.count (.readFailure _)), _⟩, _ => .nothing
  | ⟨.deliver _, true⟩, _ => .nothing
  | ⟨.deliver reply, false⟩, _ => .givenUp reply.device.tagPaths reply.unit.readings
  | _, owing => owing

/-- What is owed after a history. -/
def owing (events : List Event) : Owing := events.foldl (fun owed e => owingAfter e owed) .nothing

/-- A batch that was read, with the paths that were asked for. -/
def acquired? : Event → Option (List String × List Reading)
  | ⟨.link (.call (.read paths)), .ok readings⟩ => some (paths, readings)
  | _ => none

def acquired (events : List Event) : List (List String × List Reading) :=
  events.filterMap acquired?

def delivered? : Event → Option Unconverted
  | ⟨.deliver reply, true⟩ => some reply
  | _ => none

def delivered (events : List Event) : List Unconverted := events.filterMap delivered?

def countsFailure : Event → Bool
  | ⟨.link (.count (.readFailure _)), _⟩ => true
  | _ => false

/-- How many failures were counted. -/
def counted (events : List Event) : Nat := events.countP countsFailure

/-- The loop has noticed that it was asked to stop, or could not hand on a reply. -/
def wasStopped : Event → Bool
  | ⟨.stopAsked, stopped⟩ | ⟨.pause _, stopped⟩ => stopped
  | ⟨.deliver _, taken⟩ => !taken
  | _ => false

section Append

variable (events : List Event) (e : Event)

@[simp]
theorem owing_append_one : owing (events ++ [e]) = owingAfter e (owing events) := by
  simp [owing, List.foldl_append]

@[simp]
theorem reads_append_one : reads (events ++ [e]) = reads events ++ (readPaths? e).toList := by
  cases hpaths : readPaths? e <;> simp [reads, List.filterMap_append, hpaths]

@[simp]
theorem acquired_append_one :
    acquired (events ++ [e]) = acquired events ++ (acquired? e).toList := by
  cases hread : acquired? e <;> simp [acquired, List.filterMap_append, hread]

@[simp]
theorem delivered_append_one :
    delivered (events ++ [e]) = delivered events ++ (delivered? e).toList := by
  cases hreply : delivered? e <;> simp [delivered, List.filterMap_append, hreply]

@[simp]
theorem counted_append_one :
    counted (events ++ [e]) = counted events + (countsFailure e).toNat := by
  cases hfailure : countsFailure e <;> simp [counted, List.countP_append, hfailure]

end Append

/-! ## Balance -/

/-- A reply as it was read. -/
def batch (reply : Unconverted) : List String × List Reading :=
  (reply.device.tagPaths, reply.unit.readings)

/-- All batches were handed on in their order, but for the one that is pending, every read
has brought either a batch or a failure, and nothing was given up without having to stop. -/
structure Balanced (events : List Event) : Prop where
  batches : acquired events = (delivered events).map batch ++ (owing events).pending
  reads : (reads events).length =
    (acquired events).length + counted events + (owing events).uncounted
  stopped : ∀ paths readings, owing events = .givenUp paths readings →
    ∃ e ∈ events, wasStopped e = true

theorem balanced_nil : Balanced [] where
  batches := rfl
  reads := rfl
  stopped := by simp [owing]

/-- What the loop may do with what it owes. -/
def MayOwe (devices : List Device) : Action → List Event → Prop
  | .link (.call (.read _)), past | .pause _, past => owing past = .nothing
  | .link (.count (.readFailure name)), past =>
      owing past = .failure ∧ name ∈ devices.map fun device => device.name
  | .link (.count event), _ => event = .pollCycle
  | .deliver reply, past => owing past = .reply reply.device.tagPaths reply.unit.readings
  | _, _ => True

section Balance

variable {devices : List Device} {events : List Event}

/-- An event that is no entry in the ledger. -/
structure Unentered (e : Event) : Prop where
  owing : ∀ owed, owingAfter e owed = owed
  reads : readPaths? e = none
  acquired : acquired? e = none
  delivered : delivered? e = none
  counted : countsFailure e = false

theorem Balanced.append_unentered (hbalanced : Balanced events) {e : Event}
    (he : Unentered e) : Balanced (events ++ [e]) where
  batches := by simpa [he.owing, he.acquired, he.delivered] using hbalanced.batches
  reads := by simpa [he.owing, he.reads, he.acquired, he.counted] using hbalanced.reads
  stopped paths readings howing := by
    rw [owing_append_one, he.owing] at howing
    obtain ⟨x, hx, hstopped⟩ := hbalanced.stopped paths readings howing
    exact ⟨x, List.mem_append_left [e] hx, hstopped⟩

theorem Balanced.append_read (hbalanced : Balanced events) (howing : owing events = .nothing)
    (paths : List String) (result : Except SessionError (List Reading)) :
    Balanced (events ++ [⟨.link (.call (.read paths)), result⟩]) := by
  have hbatches := hbalanced.batches
  have hreads := hbalanced.reads
  rw [howing] at hbatches hreads
  cases result with
  | ok readings =>
      constructor
      · simpa [owingAfter, acquired?, delivered?, Owing.pending] using hbatches
      · simp [owingAfter, readPaths?, acquired?, countsFailure, Owing.uncounted] at hreads ⊢
        omega
      · simp [owingAfter]
  | error cause =>
      constructor
      · simpa [owingAfter, acquired?, delivered?, Owing.pending] using hbatches
      · simp [owingAfter, readPaths?, acquired?, countsFailure, Owing.uncounted] at hreads ⊢
        omega
      · simp [owingAfter]

theorem Balanced.append_deliver (hbalanced : Balanced events) {reply : Unconverted}
    (howing : owing events = .reply reply.device.tagPaths reply.unit.readings) (taken : Bool) :
    Balanced (events ++ [⟨.deliver reply, taken⟩]) := by
  have hbatches := hbalanced.batches
  have hreads := hbalanced.reads
  rw [howing] at hbatches hreads
  cases taken with
  | true =>
      constructor
      · simpa [owingAfter, acquired?, delivered?, Owing.pending, batch] using hbatches
      · simpa [owingAfter, readPaths?, acquired?, countsFailure, Owing.uncounted] using hreads
      · simp [owingAfter]
  | false =>
      constructor
      · simpa [owingAfter, acquired?, delivered?, Owing.pending] using hbatches
      · simpa [owingAfter, readPaths?, acquired?, countsFailure, Owing.uncounted] using hreads
      · intro _ _ _
        exact ⟨_, List.mem_append_right events (List.mem_singleton_self _), rfl⟩

theorem Balanced.append_count (hbalanced : Balanced events) (howing : owing events = .failure)
    (name : String) : Balanced (events ++ [⟨.link (.count (.readFailure name)), ()⟩]) := by
  have hbatches := hbalanced.batches
  have hreads := hbalanced.reads
  rw [howing] at hbatches hreads
  constructor
  · simpa [owingAfter, acquired?, delivered?, Owing.pending] using hbatches
  · simp [owingAfter, readPaths?, acquired?, countsFailure, Owing.uncounted] at hreads ⊢
    omega
  · simp [owingAfter]

/-- Whatever the loop may do keeps the balance. -/
theorem Balanced.append_one (hbalanced : Balanced events) {action : Action}
    (hmay : MayOwe devices action events) (answer : action.Answer) :
    Balanced (events ++ [⟨action, answer⟩]) := by
  cases action with
  | link action =>
      cases action with
      | call c =>
          cases c with
          | read paths => exact hbalanced.append_read hmay paths answer
          | connect | close | write | info =>
              exact hbalanced.append_unentered ⟨fun _ => rfl, rfl, rfl, rfl, rfl⟩
      | count event =>
          cases event with
          | readFailure name => exact hbalanced.append_count hmay.1 name
          | pollCycle | received | sent | conversionFailures | call =>
              exact hbalanced.append_unentered ⟨fun _ => rfl, rfl, rfl, rfl, rfl⟩
      | look | move | halt | publish =>
          exact hbalanced.append_unentered ⟨fun _ => rfl, rfl, rfl, rfl, rfl⟩
  | deliver reply => exact hbalanced.append_deliver hmay answer
  | now | wallClock | stopAsked | pause =>
      exact hbalanced.append_unentered ⟨fun _ => rfl, rfl, rfl, rfl, rfl⟩

end Balance

/-! ## The parts of a turn -/

/-- The loop does with what it owes only what it may. -/
def ledgerRules (devices : List Device) : Rules Action.Answer (List Event) :=
  .ofHistory (MayOwe devices)

/-- A turn that goes on has paid, and one that is the last was stopped. -/
def Turned : Option Nat → List Event → Prop
  | some _, past => owing past = .nothing
  | none, past => ∃ e ∈ past, wasStopped e = true

def Cycled : Bool → List Event → Prop
  | true, past => owing past = .nothing
  | false, past => ∃ e ∈ past, wasStopped e = true

section Parts

variable {devices : List Device} {past : List Event}

theorem owes_act {action : Action} {post : action.Answer → List Event → Prop}
    (hmay : MayOwe devices action past)
    (hpost : ∀ answer, post answer (past ++ [⟨action, answer⟩])) :
    Obeys (ledgerRules devices) post (act action) past := by
  rintro _ rfl
  refine ⟨hmay, ?_⟩
  rintro answer _ rfl
  exact hpost answer

theorem owes_linkAct {action : Link.Action} {post : action.Answer → List Event → Prop}
    (hmay : MayOwe devices (.link action) past)
    (hpost : ∀ answer, post answer (past ++ [⟨.link action, answer⟩])) :
    Obeys ((ledgerRules devices).through Action.link) post (Link.act action) past := by
  rintro _ rfl
  refine ⟨hmay, ?_⟩
  rintro answer _ rfl
  exact hpost answer

/-- Opening, closing and stopping make no entries: they neither read nor count. -/
def Silent : Link.Action → Prop
  | .call (.read _) | .count _ => False
  | _ => True

theorem owes_silent {α : Type} {routine : Link.Program α} {post : α → List Event → Prop}
    (hsilent : Only Silent routine)
    (hpost : ∀ result now, past <+: now → owing now = owing past → post result now) :
    Obeys ((ledgerRules devices).through Action.link) post routine past := by
  induction routine generalizing past with
  | done result => exact hpost result past (List.prefix_refl past) rfl
  | act action next ih =>
      obtain ⟨haction, hnext⟩ := (obeys_ofActions_act _ _ _ _ _).mp hsilent
      have hunentered : ∀ answer, Unentered ⟨.link action, answer⟩ := by
        intro answer
        cases action with
        | call c =>
            cases c <;> first
              | exact haction.elim
              | exact ⟨fun _ => rfl, rfl, rfl, rfl, rfl⟩
        | count event => exact haction.elim
        | look | move | halt | publish => exact ⟨fun _ => rfl, rfl, rfl, rfl, rfl⟩
      have hmay : MayOwe devices (.link action) past := by
        cases action with
        | call c => cases c <;> first | exact haction.elim | trivial
        | count event => exact haction.elim
        | look | move | halt | publish => trivial
      rintro _ rfl
      refine ⟨hmay, ?_⟩
      rintro answer _ rfl
      refine ih answer (hnext answer) fun result now hnow howing => hpost result now ?_ ?_
      · exact (List.prefix_append _ _).trans hnow
      · rw [howing, owing_append_one, (hunentered answer).owing]

theorem silent_disconnect : Only Silent Link.disconnect :=
  only_bind (only_perform trivial) fun _ => only_bind (only_perform trivial) fun _ => trivial

theorem silent_connect (target : Endpoint) : Only Silent (Link.connect target) := by
  apply only_bind (only_perform trivial)
  intro state
  split
  · trivial
  apply only_bind (only_perform trivial)
  intro _
  apply only_bind (only_perform trivial)
  intro result
  cases result with
  | ok _ =>
      exact only_bind (only_perform trivial) fun _ =>
        only_bind (only_perform trivial) fun _ => trivial
  | error cause => exact only_bind (only_perform trivial) fun _ => trivial

theorem silent_stop : Only Silent Link.stop :=
  only_bind (only_perform trivial) fun _ => only_bind (only_perform trivial) fun _ =>
    only_bind (only_perform trivial) fun _ => trivial

theorem owes_reopen (settings : Settings) (nextPoll : Nat) (howing : owing past = .nothing) :
    Obeys (ledgerRules devices) Turned (reopen settings nextPoll) past := by
  rw [reopen, obeys_bind, obeys_through]
  apply owes_silent silent_disconnect
  intro _ closed _ hclosed
  rw [obeys_bind, obeys_through]
  apply owes_silent (silent_connect settings.target)
  intro result opened _ hopened
  have hnothing : owing opened = .nothing := hopened.trans (hclosed.trans howing)
  cases result with
  | ok _ =>
      rw [obeys_bind]
      refine owes_act trivial ?_
      intro time
      rw [obeys_pure, Turned, owing_append_one]
      exact hnothing
  | error cause =>
      rw [obeys_bind]
      refine owes_act hnothing ?_
      intro stopped
      cases stopped with
      | true => exact ⟨_, List.mem_append_right opened (List.mem_singleton_self _), rfl⟩
      | false =>
          change owing (opened ++ [_]) = .nothing
          rw [owing_append_one]
          exact hnothing

theorem owes_readTags {device : Device} (htags : device.hasTags = true)
    (howing : owing past = .nothing) :
    Obeys ((ledgerRules devices).through Action.link)
      (fun result now => owing now =
        match result with
        | .ok readings => .reply device.tagPaths readings
        | .error _ => .failure) (readTags device) past := by
  rw [readTags, if_pos htags]
  refine owes_linkAct howing ?_
  intro result
  rw [owing_append_one]
  cases result <;> rfl

theorem owes_readFailed {device : Device} (hdevice : device ∈ devices) (cause : SessionError)
    (howing : owing past = .failure) :
    Obeys ((ledgerRules devices).through Action.link) (fun _ now => owing now = .nothing)
      (readFailed device cause) past := by
  unfold readFailed Link.markLost
  rw [obeys_bind]
  refine owes_linkAct ⟨howing, List.mem_map_of_mem hdevice⟩ ?_
  intro _
  have hnothing : ∀ answer, owing (past ++ [⟨.link (.count (.readFailure device.name)), answer⟩]) =
      .nothing := by
    intro answer
    rw [owing_append_one]
    rfl
  rw [obeys_bind]
  split
  · refine owes_linkAct trivial ?_
    intro _
    rw [obeys_pure, owing_append_one]
    exact hnothing _
  · exact hnothing _

/-- A cycle pays for every read before the next one. -/
theorem owes_cycle (rest : List Device) (hrest : ∀ device ∈ rest, device ∈ devices)
    (howing : owing past = .nothing) :
    Obeys (ledgerRules devices) Cycled (cycle rest) past := by
  induction rest generalizing past with
  | nil => exact howing
  | cons device rest ih =>
      obtain ⟨hdevice, hrest⟩ := List.forall_mem_cons.mp hrest
      rw [cycle]
      split
      · rename_i htags
        rw [obeys_bind]
        refine owes_act trivial ?_
        intro state
        have hlooked : owing (past ++ [⟨.link .look, state⟩]) = .nothing := by
          rw [owing_append_one]
          exact howing
        split
        · rw [obeys_bind, obeys_through]
          apply (owes_readTags htags hlooked).mono
          intro result now hnow
          cases result with
          | ok readings =>
              rw [obeys_bind]
              refine owes_act trivial ?_
              intro time
              have hreply : owing (now ++ [⟨.wallClock, time⟩]) =
                  .reply device.tagPaths readings := by
                rw [owing_append_one]
                exact hnow
              rw [obeys_bind]
              refine owes_act hreply ?_
              intro taken
              cases taken with
              | true =>
                  refine ih hrest ?_
                  rw [owing_append_one]
                  rfl
              | false => exact ⟨_, List.mem_append_right _ (List.mem_singleton_self _), rfl⟩
          | error cause =>
              rw [obeys_bind, obeys_through]
              exact (owes_readFailed hdevice cause hnow).mono fun _ _ hpaid => ih hrest hpaid
        · exact hlooked
      · exact ih hrest howing

theorem owes_pollOrRest (settings : Settings) (nextPoll : Nat) (howing : owing past = .nothing) :
    Obeys (ledgerRules settings.devices) Turned (pollOrRest settings nextPoll) past := by
  rw [pollOrRest, obeys_bind]
  refine owes_act trivial ?_
  intro now
  have hnow : owing (past ++ [⟨.now, now⟩]) = .nothing := by
    rw [owing_append_one]
    exact howing
  split
  · rw [obeys_bind]
    apply (owes_cycle settings.devices (fun _ => id) hnow).mono
    intro goesOn polled hpolled
    cases goesOn with
    | true =>
        refine (obeys_bind _ _ _ _).mpr (owes_act rfl fun _ => ?_)
        rw [obeys_pure, Turned, owing_append_one]
        exact hpolled
    | false => exact hpolled
  · rw [obeys_bind]
    refine owes_act hnow ?_
    intro stopped
    cases stopped with
    | true => exact ⟨_, List.mem_append_right _ (List.mem_singleton_self _), rfl⟩
    | false =>
        change owing (past ++ [⟨.now, now⟩] ++ [_]) = .nothing
        rw [owing_append_one]
        exact hnow

/-- A turn begins and ends with nothing owed, unless it is the last. -/
theorem owes_turn (settings : Settings) (nextPoll : Nat) (howing : owing past = .nothing) :
    Obeys (ledgerRules settings.devices) Turned (turn settings nextPoll) past := by
  rw [turn, obeys_bind]
  refine owes_act trivial ?_
  intro stopped
  cases stopped with
  | true => exact ⟨_, List.mem_append_right past (List.mem_singleton_self _), rfl⟩
  | false =>
      have hasked : owing (past ++ [⟨.stopAsked, false⟩]) = .nothing := by
        rw [owing_append_one]
        exact howing
      rw [if_neg Bool.false_ne_true, obeys_bind]
      refine owes_act trivial ?_
      intro state
      have hlooked : owing (past ++ [⟨.stopAsked, false⟩] ++ [⟨.link .look, state⟩]) =
          .nothing := by
        rw [owing_append_one]
        exact hasked
      split
      · exact owes_pollOrRest settings nextPoll hlooked
      · exact owes_reopen settings nextPoll hlooked

/-- The loop finishes only when it was stopped, and enters nothing any more. -/
theorem owes_finish (hstopped : ∃ e ∈ past, wasStopped e = true) :
    Obeys (ledgerRules devices) (fun _ now => ∃ e ∈ now, wasStopped e = true) finish past := by
  rw [finish, obeys_through]
  apply owes_silent silent_stop
  intro _ now hnow _
  obtain ⟨e, he, hstopped⟩ := hstopped
  exact ⟨e, hnow.subset he, hstopped⟩

end Parts

end TagRelay.Poll
