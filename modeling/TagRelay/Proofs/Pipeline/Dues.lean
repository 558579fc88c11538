import TagRelay.Proofs.Pipeline.Conservation
import TagRelay.Proofs.Pipeline.Scheduled
import TagRelay.Proofs.Pipeline.Steady

/-!
# What is due for a read

After a read the loop has a reply to hand on or a failure to count, and then it goes on.  All
this can be told from the stage that it stands at.
-/

namespace TagRelay.Running

open Poll (Plain Steady acquired acquired? batch delivered delivered?)

/-! ## Dues -/

/-- What is due for the latest read, and where the loop goes on when that is done. -/
structure Dues where
  replies : List Unconverted := []
  failures : List String := []
  stage : LoopStage

/-- A reply that is handed on is taken, unless the loop was asked to stop. -/
def duesOf (stopping : Bool) : Poll.Program (Option Nat) → Dues
  | .act (.deliver reply) given =>
      { replies := if stopping then [] else [reply], stage := .turn (given !stopping) }
  | .act (.link (.count (.readFailure name))) next =>
      { failures := [name], stage := .turn (next ()) }
  | rest => { stage := .turn rest }

/-- What is due at a time of the day. -/
def LoopStage.dues (stopping : Bool) (time : Int) : LoopStage → Dues
  | .turn (.act .wallClock next) => duesOf stopping (next time)
  | .turn rest => duesOf stopping rest
  | stage => { stage := stage }

/-! ## Stages -/

/-- A stage at which nothing is due. -/
inductive Sound (settings : Poll.Settings) : Bool → LoopStage → Prop
  | polls {stopping : Bool} {rest : Poll.Program (Option Nat)}
      (hsteady : Steady settings.devices (· = none) (·.isSome = true) rest) :
      Sound settings stopping (.turn rest)
  | ends : Sound settings true (.turn (.done none))
  | finishes {rest : Poll.Program Unit} (honly : Routine.Only Plain rest) :
      Sound settings true (.finish rest)
  | ended : Sound settings true .ended

/-- A stage at which something is due, and nothing after it. -/
inductive Owing (settings : Poll.Settings) (stopping : Bool) : LoopStage → Prop
  | stamps {device : Device} {readings : List Reading} {given : Bool → Poll.Program (Option Nat)}
      (hdevice : device ∈ settings.devices)
      (hnext : Sound settings stopping (.turn (given !stopping))) :
      Owing settings stopping (.turn (.act .wallClock fun time =>
        .act (.deliver ⟨device, readings, time⟩) given))
  | delivers {reply : Unconverted} {given : Bool → Poll.Program (Option Nat)}
      (hnext : Sound settings stopping (.turn (given !stopping))) :
      Owing settings stopping (.turn (.act (.deliver reply) given))
  | counts {name : String} {next : Unit → Poll.Program (Option Nat)}
      (hnext : Sound settings stopping (.turn (next ()))) :
      Owing settings stopping (.turn (.act (.link (.count (.readFailure name))) next))

variable {settings : Poll.Settings} {stopping : Bool} {stage : LoopStage}

theorem duesOf_of_plain (stopping : Bool) {action : Poll.Action}
    {next : action.Answer → Poll.Program (Option Nat)} (hplain : Plain action) :
    duesOf stopping (.act action next) = { stage := .turn (.act action next) } := by
  cases action with
  | link action =>
      cases action with
      | count event =>
          obtain rfl : event = .pollCycle := hplain
          rfl
      | look | move | halt | publish | call => rfl
  | now => rfl
  | wallClock | stopAsked | pause | deliver => exact hplain.elim

theorem Sound.dues (hsound : Sound settings stopping stage) (time : Int) :
    stage.dues stopping time = { stage := stage } := by
  cases hsound with
  | polls hsteady =>
      cases hsteady with
      | acts hplain hnext =>
          rename_i action next
          cases action with
          | wallClock => exact hplain.elim
          | link | now | stopAsked | pause | deliver => exact duesOf_of_plain stopping hplain
      | done | asks | sleeps | reads => rfl
  | ends | finishes | ended => rfl

theorem sound_turn (settings : Poll.Settings) (stopping : Bool) (nextPoll : Nat) :
    Sound settings stopping (.turn (Poll.turn settings nextPoll)) :=
  .polls (Poll.steady_turn settings nextPoll)

theorem sound_finish (settings : Poll.Settings) : Sound settings true (.finish Poll.finish) :=
  .finishes Poll.only_finish

theorem sound_of_stopped (settings : Poll.Settings) {rest : Poll.Program (Option Nat)}
    (hstopped : rest = .done none) : Sound settings true (.turn rest) := by
  rw [hstopped]
  exact .ends

/-- A loop that looks whether it was asked to stop ends if it was, and else goes on. -/
theorem sound_of_asked {next : Bool → Poll.Program (Option Nat)}
    (hstopped : next true = .done none)
    (hnext : Steady settings.devices (· = none) (·.isSome = true) (next false)) :
    Sound settings stopping (.turn (next stopping)) := by
  cases stopping with
  | true => exact sound_of_stopped settings hstopped
  | false => exact .polls hnext

/-- A loop at a stage where nothing is due may be asked to stop there. -/
theorem Sound.stops (hsound : Sound settings stopping stage) : Sound settings true stage := by
  cases hsound with
  | polls hsteady => exact .polls hsteady
  | ends => exact .ends
  | finishes honly => exact .finishes honly
  | ended => exact .ended

/-- Where the loop may stand: nothing is due, or it is about to do what is due. -/
def Standing (settings : Poll.Settings) (stopping : Bool) (progress : Progress)
    (stage : LoopStage) : Prop :=
  Sound settings stopping stage ∨ progress = .fresh ∧ Owing settings stopping stage

/-! ## Single actions -/

/-- What the loop can be answered at a time of the day, asked to stop or not. -/
def Fits (stopping : Bool) (time : Int) : (action : Poll.Action) → action.Answer → Prop
  | .stopAsked, answer | .pause _, answer => answer = stopping
  | .deliver _, taken => taken = !stopping
  | .wallClock, answer => answer = time
  | .link _, _ | .now, _ => True

/-- Nothing is handed on any more by a loop that was asked to stop. -/
theorem delivered?_eq_none {time : Int} {action : Poll.Action} {answer : action.Answer}
    (hfits : Fits true time action answer) : delivered? ⟨action, answer⟩ = none := by
  cases action with
  | deliver reply =>
      obtain rfl : answer = false := hfits
      rfl
  | link | now | wallClock | stopAsked | pause => rfl

/-- What the loop gains with an action is a reply, and this is due or was handed on.  It gains
none once it was asked to stop. -/
structure Entered (settings : Poll.Settings) (stopping : Bool) (time : Int) (stage : LoopStage)
    (e : Poll.Event) (after : LoopStage) (gained : List Unconverted) : Prop where
  devices : ∀ reply ∈ gained, reply.device ∈ settings.devices
  acquired : gained.map batch = if stopping then [] else (acquired? e).toList
  replies : (stage.dues stopping time).replies ++ gained =
    (delivered? e).toList ++ (after.dues stopping time).replies

/-- Plain actions neither gain a reply nor hand one on. -/
theorem unentered_of_plain {action : Poll.Action} (hplain : Plain action)
    (answer : action.Answer) :
    acquired? ⟨action, answer⟩ = none ∧ delivered? ⟨action, answer⟩ = none := by
  cases action with
  | link action =>
      cases action with
      | call c => cases c <;> first | exact ⟨rfl, rfl⟩ | exact hplain.elim
      | look | move | halt | publish | count => exact ⟨rfl, rfl⟩
  | now => exact ⟨rfl, rfl⟩
  | wallClock | stopAsked | pause | deliver => exact hplain.elim

theorem entered_of_sound {after : LoopStage} {e : Poll.Event}
    (hsound : Sound settings stopping stage) (hafter : Sound settings stopping after)
    (hnothing : acquired? e = none ∧ delivered? e = none) (time : Int) :
    Entered settings stopping time stage e after [] := by
  obtain ⟨hacquired, hdelivered⟩ := hnothing
  constructor
  · simp
  · rw [hacquired]
    exact (ite_self _).symm
  · rw [hsound.dues, hafter.dues, hdelivered]
    rfl

/-- After a read something is due, or was if the read failed. -/
theorem entered_read {device : Device} {next : Except SessionError (List Reading) →
      Poll.Program (Option Nat)} {given : Bool → Poll.Program (Option Nat)}
    (hdevice : device ∈ settings.devices)
    (hok : ∀ readings, next (.ok readings) =
      .act .wallClock fun time => .act (.deliver ⟨device, readings, time⟩) given)
    (herror : ∀ cause, next (.error cause) =
      .act (.link (.count (.readFailure device.name))) fun _ =>
        if cause.isSessionLost then .act (.link (.move .disconnected)) fun _ => given true
        else given true)
    (hends : given false = .done none)
    (hrest : Steady settings.devices (· = none) (·.isSome = true) (given true)) (time : Int)
    (result : Except SessionError (List Reading)) :
    (∃ gained, Entered settings stopping time
      (.turn (.act (.link (.call (.read device.tagPaths))) next))
      ⟨.link (.call (.read device.tagPaths)), result⟩ (.turn (next result)) gained) ∧
      Owing settings stopping (.turn (next result)) := by
  cases result with
  | ok readings =>
      rw [hok]
      cases stopping with
      | false =>
          refine ⟨⟨[⟨device, readings, time⟩], ?_, rfl, rfl⟩, .stamps hdevice (.polls hrest)⟩
          intro reply hreply
          obtain rfl := List.mem_singleton.mp hreply
          exact hdevice
      | true =>
          exact ⟨⟨[], by simp, rfl, rfl⟩, .stamps hdevice (sound_of_stopped settings hends)⟩
  | error cause =>
      rw [herror]
      refine ⟨⟨[], by simp, (ite_self _).symm, rfl⟩, .counts ?_⟩
      split
      · exact .polls (.acts trivial fun _ => hrest)
      · exact .polls hrest

theorem Sound.acts (hsound : Sound settings stopping stage) {action : Poll.Action}
    {next : action.Answer → LoopStage} (hacting : stage.acting? = some ⟨action, next⟩)
    {time : Int} {answer : action.Answer} (hfits : Fits stopping time action answer) :
    (∃ gained, Entered settings stopping time stage ⟨action, answer⟩ (next answer) gained) ∧
      Standing settings stopping .fresh (next answer) := by
  -- Where nothing is due afterwards nothing was entered either.
  have hplainly : ∀ {stage after : LoopStage} {e : Poll.Event},
      Sound settings stopping stage → Sound settings stopping after →
      acquired? e = none ∧ delivered? e = none →
      (∃ gained, Entered settings stopping time stage e after gained) ∧
        Standing settings stopping .fresh after :=
    fun hstage hafter hnothing =>
      ⟨⟨[], entered_of_sound hstage hafter hnothing time⟩, Or.inl hafter⟩
  have hstage := hsound
  cases hsound with
  | polls hsteady =>
      cases hsteady with
      | done => simp [LoopStage.acting?] at hacting
      | acts hplain hnext =>
          simp only [LoopStage.acting?, Option.some.injEq, Sigma.mk.injEq] at hacting
          obtain ⟨rfl, hsame⟩ := hacting
          cases hsame
          exact hplainly hstage (.polls (hnext answer)) (unentered_of_plain hplain answer)
      | asks hstopped hlast hnext | sleeps hstopped hlast hnext =>
          cases hacting
          obtain rfl : answer = stopping := hfits
          exact hplainly hstage (sound_of_asked (hlast ▸ hstopped) hnext) ⟨rfl, rfl⟩
      | reads given hdevice hok herror hstopped hlast hrest =>
          cases hacting
          obtain ⟨hentered, howing⟩ :=
            entered_read hdevice hok herror (hlast ▸ hstopped) hrest time answer
          exact ⟨hentered, Or.inr ⟨rfl, howing⟩⟩
  | ends => simp [LoopStage.acting?] at hacting
  | @finishes rest honly =>
      cases rest with
      | done => simp [LoopStage.acting?] at hacting
      | act action' next' =>
          simp only [LoopStage.acting?, Option.some.injEq, Sigma.mk.injEq] at hacting
          obtain ⟨rfl, hsame⟩ := hacting
          cases hsame
          obtain ⟨hplain, hnext⟩ := (Routine.obeys_ofActions_act _ _ _ _ _).mp honly
          exact hplainly hstage (.finishes (hnext answer)) (unentered_of_plain hplain answer)
  | ended => simp [LoopStage.acting?] at hacting

/-- What is due is done without anything else being due. -/
theorem Owing.acts (howing : Owing settings stopping stage) {action : Poll.Action}
    {next : action.Answer → LoopStage} (hacting : stage.acting? = some ⟨action, next⟩)
    {time : Int} {answer : action.Answer} (hfits : Fits stopping time action answer) :
    Entered settings stopping time stage ⟨action, answer⟩ (next answer) [] ∧
      ((next answer).dues stopping time).stage = (stage.dues stopping time).stage ∧
      Standing settings stopping .fresh (next answer) := by
  cases howing with
  | stamps hdevice hnext =>
      cases hacting
      obtain rfl : answer = time := hfits
      exact ⟨⟨by simp, (ite_self _).symm, List.append_nil _⟩, rfl,
        Or.inr ⟨rfl, .delivers hnext⟩⟩
  | delivers hnext =>
      cases hacting
      obtain rfl : answer = !stopping := hfits
      refine ⟨⟨by simp, (ite_self _).symm, ?_⟩, ?_, Or.inl hnext⟩
      · rw [hnext.dues]
        cases stopping <;> rfl
      · rw [hnext.dues]
        rfl
  | counts hnext =>
      cases hacting
      refine ⟨⟨by simp, (ite_self _).symm, ?_⟩, ?_, Or.inl hnext⟩
      · change [] ++ [] = [] ++ (LoopStage.dues stopping time (.turn _)).replies
        rw [hnext.dues]
      · rw [hnext.dues]
        rfl

/-- A loop that has done its part goes on with the next. -/
theorem Sound.goesOn (hsound : Sound settings stopping stage) {following : LoopStage}
    (hstage : stage.following? settings = some following) :
    Sound settings stopping following := by
  cases hsound with
  | polls hsteady =>
      cases hsteady with
      | @done result hpost =>
          obtain ⟨nextPoll, rfl⟩ := Option.isSome_iff_exists.mp hpost
          obtain rfl := Option.some.inj hstage
          exact sound_turn settings stopping nextPoll
      | acts | asks | sleeps | reads => simp [LoopStage.following?] at hstage
  | ended => simp [LoopStage.following?] at hstage
  | ends =>
      obtain rfl := Option.some.inj hstage
      exact sound_finish settings
  | @finishes rest honly =>
      cases rest with
      | done =>
          obtain rfl := Option.some.inj hstage
          exact .ended
      | act => simp [LoopStage.following?] at hstage

theorem Owing.acting (howing : Owing settings stopping stage) :
    ∃ (action : Poll.Action) (next : action.Answer → LoopStage),
      stage.acting? = some ⟨action, next⟩ := by
  cases howing <;> exact ⟨_, _, rfl⟩

theorem Owing.following?_eq_none (howing : Owing settings stopping stage) :
    stage.following? settings = none := by
  cases howing <;> rfl

end TagRelay.Running
