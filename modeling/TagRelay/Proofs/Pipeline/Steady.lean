import TagRelay.Proofs.Pipeline.PollLedger
import TagRelay.Proofs.Remote.Answering

/-!
# Routines that take reads as they come

Whatever comes of a read, a routine that is steady soon goes on in the same way.  The loop
hands on a reply or counts a failure, and then it goes on with the rest of the cycle; only a
lost session makes a difference.  A call from the platform is counted and answered.
-/

namespace TagRelay

open Routine

namespace Poll

/-! ## The loop -/

/-- What the loop does apart from reading and what belongs to it, and from looking whether it
was asked to stop. -/
def Plain : Action → Prop
  | .link (.count event) => event = .pollCycle
  | .link action => Silent action
  | .now => True
  | .wallClock | .stopAsked | .pause _ | .deliver _ => False

theorem plain_of_silent {action : Link.Action} (hsilent : Silent action) :
    Plain (.link action) := by
  cases action with
  | count event => exact hsilent.elim
  | look | move | halt | publish | call => exact hsilent

theorem plain_onLink {α : Type} {routine : Link.Program α} (hsilent : Only Silent routine) :
    Only Plain (onLink routine) :=
  only_through.mpr (hsilent.imp fun _ => plain_of_silent)

/-- After a read the routine does what is due for it and then goes on with the rest of it,
which does not depend on what was read.  When it was asked to stop it ends at once, with a
result as `last` says, and else with one as `post` says. -/
inductive Steady (devices : List Device) {α : Type} (last post : α → Prop) : Program α → Prop
  | done {result : α} (hpost : post result) : Steady devices last post (.done result)
  | acts {action : Action} {next : action.Answer → Program α} (hplain : Plain action)
      (hnext : ∀ answer, Steady devices last post (next answer)) :
      Steady devices last post (.act action next)
  | asks {next : Bool → Program α} {result : α} (hstopped : next true = .done result)
      (hlast : last result) (hnext : Steady devices last post (next false)) :
      Steady devices last post (.act .stopAsked next)
  | sleeps {millis : Nat} {next : Bool → Program α} {result : α}
      (hstopped : next true = .done result) (hlast : last result)
      (hnext : Steady devices last post (next false)) :
      Steady devices last post (.act (.pause millis) next)
  | reads {device : Device} {next : Except SessionError (List Reading) → Program α}
      {result : α} (given : Bool → Program α) (hdevice : device ∈ devices)
      (hok : ∀ readings, next (.ok readings) =
        .act .wallClock fun time => .act (.deliver ⟨device, readings, time⟩) given)
      (herror : ∀ cause, next (.error cause) =
        .act (.link (.count (.readFailure device.name))) fun _ =>
          if cause.isSessionLost then .act (.link (.move .disconnected)) fun _ => given true
          else given true)
      (hstopped : given false = .done result) (hlast : last result)
      (hrest : Steady devices last post (given true)) :
      Steady devices last post (.act (.link (.call (.read device.tagPaths))) next)

section Parts

variable {devices : List Device} {α β : Type} {last : β → Prop} {post : β → Prop}

/-- A part and what comes after it, which ends at once where the part has ended early. -/
theorem Steady.bind {early between : α → Prop} {first : Program α} {second : α → Program β}
    (hfirst : Steady devices early between first)
    (hends : ∀ result, early result → ∃ result', second result = .done result' ∧ last result')
    (hsecond : ∀ result, between result → Steady devices last post (second result)) :
    Steady devices last post (first >>= second) := by
  have hstop : ∀ {rest : Program α} {result : α}, rest = .done result → early result →
      ∃ result', rest.bind second = .done result' ∧ last result' := by
    rintro _ result rfl hearly
    exact hends result hearly
  change Steady devices last post (first.bind second)
  induction hfirst with
  | done hpost => exact hsecond _ hpost
  | acts hplain _ ih => exact .acts hplain ih
  | asks hstopped hlast _ ih =>
      obtain ⟨result, hstopped, hlast⟩ := hstop hstopped hlast
      exact .asks hstopped hlast ih
  | sleeps hstopped hlast _ ih =>
      obtain ⟨result, hstopped, hlast⟩ := hstop hstopped hlast
      exact .sleeps hstopped hlast ih
  | @reads device next result given hdevice hok herror hstopped hlast _ ih =>
      obtain ⟨result, hstopped, hlast⟩ := hstop hstopped hlast
      refine .reads (fun taken => (given taken).bind second) hdevice ?_ ?_ hstopped hlast ih
      · intro readings
        rw [hok]
        rfl
      · intro cause
        rw [herror]
        cases hlost : cause.isSessionLost <;> rfl

theorem steady_of_plain {last : α → Prop} {routine : Program α} (hplain : Only Plain routine) :
    Steady devices last (fun _ => True) routine := by
  induction routine with
  | done result => exact .done trivial
  | act action next ih =>
      obtain ⟨haction, hnext⟩ := (obeys_ofActions_act _ _ _ _ _).mp hplain
      exact .acts haction fun answer => ih answer (hnext answer)

/-- A cycle goes on after each of its reads, as long as nobody asks it to stop. -/
theorem steady_cycle (rest : List Device) (hrest : ∀ device ∈ rest, device ∈ devices) :
    Steady devices (· = false) (· = true) (cycle rest) := by
  induction rest with
  | nil => exact .done rfl
  | cons device rest ih =>
      obtain ⟨hdevice, hrest⟩ := List.forall_mem_cons.mp hrest
      rw [cycle]
      split
      · rename_i htags
        refine .acts trivial ?_
        intro state
        change Steady devices _ _ (if state = .connected then _ else _)
        split
        · rw [readTags, if_pos htags]
          refine .reads (fun taken => if taken then cycle rest else pure false) hdevice
            (fun readings => rfl) ?_ rfl rfl (ih hrest)
          intro cause
          change (onLink (readFailed device cause) >>= fun _ => cycle rest) = _
          rw [readFailed, Link.markLost]
          cases hlost : cause.isSessionLost <;> rfl
        · exact .done rfl
      · exact ih hrest

end Parts

section Turns

variable (settings : Settings) (nextPoll : Nat)

theorem steady_pollOrRest :
    Steady settings.devices (· = none) (·.isSome = true) (pollOrRest settings nextPoll) := by
  refine .acts trivial ?_
  intro (now : Nat)
  change Steady _ _ _ (if nextPoll ≤ now then _ else _)
  split
  · refine (steady_cycle settings.devices fun _ h => h).bind ?_ ?_
    · rintro _ rfl
      exact ⟨none, rfl, rfl⟩
    · rintro _ rfl
      exact .acts rfl fun _ => .done rfl
  · exact .sleeps rfl rfl (.done rfl)

theorem steady_reopen :
    Steady settings.devices (· = none) (·.isSome = true) (reopen settings nextPoll) := by
  refine (steady_of_plain (plain_onLink silent_disconnect)).bind (fun _ => False.elim) ?_
  intro _ _
  refine (steady_of_plain (plain_onLink (silent_connect _))).bind (fun _ => False.elim) ?_
  intro result _
  cases result with
  | ok _ => exact .acts trivial fun _ => .done rfl
  | error cause => exact .sleeps rfl rfl (.done rfl)

/-- Whatever a turn reads, it goes on as it would have with anything else. -/
theorem steady_turn :
    Steady settings.devices (· = none) (·.isSome = true) (turn settings nextPoll) := by
  refine .asks rfl rfl ?_
  refine .acts trivial ?_
  intro (state : Link.State)
  change Steady _ _ _ (if state = .connected then _ else _)
  split
  · exact steady_pollOrRest settings nextPoll
  · exact steady_reopen settings nextPoll

end Turns

/-- The end of the loop neither reads nor counts. -/
theorem only_finish : Only Plain finish := plain_onLink silent_stop

end Poll

/-! ## The host -/

namespace Host

/-- What the host does apart from reading and from asking the tasks to stop. -/
def Plain : Action → Prop
  | .link (.call (.read _)) | .link (.move _) => False
  | .link (.count event) => ∃ method code, event = .call method code
  | .signalStop => False
  | _ => True

/-- What is left of a call after its read: it is counted and answered. -/
inductive Closing {α : Type} : Program α → Prop
  | counts (method : String) (code : Nat) (result : α) :
      Closing (.act (.link (.count (.call method code))) fun _ => .done result)

/-- Reads are the last thing that the routine does, but for being counted. -/
inductive Tolerant {α : Type} : Program α → Prop
  | done (result : α) : Tolerant (.done result)
  | acts {action : Action} {next : action.Answer → Program α} (hplain : Plain action)
      (hnext : ∀ answer, Tolerant (next answer)) : Tolerant (.act action next)
  | reads {paths : List String} {next : Except SessionError (List Reading) → Program α}
      (hnext : ∀ result, Closing (next result)) :
      Tolerant (.act (.link (.call (.read paths))) next)

theorem tolerant_of_plain {α : Type} {routine : Program α} (hplain : Only Plain routine) :
    Tolerant routine := by
  induction routine with
  | done result => exact .done result
  | act action next ih =>
      obtain ⟨haction, hnext⟩ := (obeys_ofActions_act _ _ _ _ _).mp hplain
      exact .acts haction fun answer => ih answer (hnext answer)

end Host

namespace Remote

/-- What a call from the platform does apart from reading. -/
def Writes : Link.Action → Prop
  | .look | .call (.write _ _) | .count (.call _ _) => True
  | _ => False

theorem Writes.plain {action : Link.Action} (hwrites : Writes action) :
    Host.Plain (.link action) := by
  cases action with
  | call c => cases c <;> trivial
  | count event => cases event <;> first | exact ⟨_, _, rfl⟩ | exact hwrites.elim
  | look => trivial
  | move | halt | publish => exact hwrites.elim

theorem tolerant_of_writes {α : Type} {routine : Link.Program α} (honly : Only Writes routine) :
    Host.Tolerant (Host.onLink routine) :=
  Host.tolerant_of_plain (only_through.mpr (honly.imp fun _ => Writes.plain))

theorem writes_writeAttribute (device : Device) (key : String) (value : Json) :
    Only Writes (PassThrough.writeAttribute device key value) := by
  rw [PassThrough.writeAttribute]
  split
  · apply only_bind (only_perform trivial)
    intro state
    split
    · apply only_bind (only_perform trivial)
      intro result
      cases result <;> trivial
    · trivial
  · trivial

theorem writes_writeAttributes (device : Device) (data : List (String × Json)) :
    Only Writes (PassThrough.writeAttributes device data) := by
  induction data with
  | nil => trivial
  | cons entry rest ih =>
      apply only_bind (writes_writeAttribute device entry.1 entry.2)
      intro result
      apply only_bind (only_perform trivial)
      intro _
      exact only_bind ih fun replies => trivial

theorem tolerant_update (p : PassThrough) (u : Update) :
    Host.Tolerant (Host.onLink (p.update u)) := by
  apply tolerant_of_writes
  rw [PassThrough.update]
  split
  · exact only_bind (only_perform trivial) fun _ => trivial
  · exact only_bind (writes_writeAttributes _ _) fun _ => trivial

theorem writes_count {α : Type} (name : String) (code : Nat) (result : α) :
    Only Writes (do Link.act (.count (.call name code)); return result) :=
  only_bind (only_perform trivial) fun _ => trivial

theorem performConnected_read (path : String) :
    (Plan.read path).performConnected =
      .act (.call (.read [path])) fun result => .done ((Plan.read path).judge result) := by
  change Routine.act _ _ = _
  congr 1
  funext result
  cases result with
  | error cause => rfl
  | ok readings =>
      cases hfound : readings.find? fun reading => reading.path = path <;>
        simp [Plan.judge, hfound, Routine.bind] <;> rfl

/-- A request reads at most once, and then it is counted and answered. -/
theorem tolerant_answer (p : PassThrough) (request : Request) :
    Host.Tolerant (Host.onLink (p.answer request)) := by
  rw [PassThrough.answer]
  cases p.plan request with
  | error failure => exact tolerant_of_writes (writes_count _ _ _)
  | ok plan =>
      cases plan with
      | write path value answer =>
          apply tolerant_of_writes
          refine only_bind ?_ fun result => writes_count _ _ _
          apply only_bind (only_perform trivial)
          intro state
          split
          · apply only_bind (only_perform trivial)
            intro result
            cases result <;> trivial
          · trivial
      | read path =>
          refine .acts trivial ?_
          intro (state : Link.State)
          change Host.Tolerant (Host.onLink
            ((if state = .connected then (Plan.read path).performConnected
              else pure (.error .notConnected)) >>= _))
          split
          · rw [performConnected_read]
            exact .reads fun result => .counts _ _ _
          · exact tolerant_of_writes (writes_count _ _ _)

end Remote

end TagRelay
