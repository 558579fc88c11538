import TagRelay.Proofs.Pipeline.CallRules
import TagRelay.Proofs.Pipeline.Clocked
import TagRelay.Proofs.Pipeline.Timetable

/-!
# Rules for the loop's time

As long as nobody asks the loop to stop, what it does keeps time: its cycles are on schedule
since the session was connected, and after a failure to connect it leaves the session alone
for just as long as it was told to.  Both are read off the log of what it has done and when.
The loop obeys in that it never begins what could last beyond the time at which something else
is due.
-/

namespace TagRelay.Poll

open Routine Session

/-! ## What a log tells -/

/-- The call is of the session. -/
def isCall (e : Event) : Bool := (exchange? e).isSome

/-- The session was connected. -/
def opensSession (e : Event) : Bool := (exchange? e).any Exchange.opens

/-- There was an attempt to connect the session, or it was seen to be lost. -/
def endsSpell (e : Event) : Bool := (exchange? e).any fun x => x.isConnect || x.loses

/-- An attempt to connect the session has failed. -/
def failsToOpen (e : Event) : Bool := (exchange? e).any fun x => x.isConnect && !x.opens

def countsCycle : Event → Bool
  | ⟨.link (.count .pollCycle), _⟩ => true
  | _ => false

/-- What the loop has done since its session was connected, as far as it tells of cycles. -/
structure Spell where
  /-- When the session was connected. -/
  first : Nat
  starts : List Nat := []
  ends : List Nat := []
  /-- How many pauses there were. -/
  pauses : Nat := 0
  /-- The loop has just read the clock. -/
  looked : Bool := false

/-- A cycle starts where the loop, after it has read the clock, goes on with the link, and it
ends where it is counted. -/
def Spell.after (spell : Spell) (time : Nat) (e : Event) : Spell :=
  match e.1 with
  | .now => { spell with looked := true }
  | .pause _ => { spell with pauses := spell.pauses + 1, looked := false }
  | .link _ =>
      { spell with
        starts := if spell.looked then spell.starts ++ [time] else spell.starts
        ends := if countsCycle e then spell.ends ++ [time] else spell.ends
        looked := false }
  | _ => { spell with looked := false }

/-- What is done in a spell, from the connection on. -/
def Spell.of (first : Nat) (log : List (Nat × Event)) : Spell :=
  log.foldl (fun spell entry => spell.after entry.1 entry.2) { first }

def spellAfter (entry : Nat × Event) (spell : Option Spell) : Option Spell :=
  if endsSpell entry.2 then if opensSession entry.2 then some { first := entry.1 } else none
  else spell.map fun spell => spell.after entry.1 entry.2

/-- The spell that a log ends in. -/
def spell? (log : List (Nat × Event)) : Option Spell :=
  log.foldl (fun spell entry => spellAfter entry spell) none

def failedAfter (entry : Nat × Event) (failed : Option Nat) : Option Nat :=
  if isCall entry.2 then if failsToOpen entry.2 then some entry.1 else none else failed

/-- When connecting has failed, if the session was not called since. -/
def failed? (log : List (Nat × Event)) : Option Nat :=
  log.foldl (fun failed entry => failedAfter entry failed) none

@[simp]
theorem spell?_append_one (log : List (Nat × Event)) (entry : Nat × Event) :
    spell? (log ++ [entry]) = spellAfter entry (spell? log) := by
  rw [spell?, List.foldl_append]
  rfl

@[simp]
theorem failed?_append_one (log : List (Nat × Event)) (entry : Nat × Event) :
    failed? (log ++ [entry]) = failedAfter entry (failed? log) := by
  rw [failed?, List.foldl_append]
  rfl

/-- A log that goes on from a connection ends in the spell that began with it, as long as
nothing has ended that. -/
theorem spell?_of_connected (earlier : List (Nat × Event)) (first : Nat) (target : Endpoint)
    {rest : List (Nat × Event)} (hrest : ∀ entry ∈ rest, endsSpell entry.2 = false) :
    spell? (earlier ++ (first, ⟨.link (.call (.connect target)), .ok ()⟩) :: rest) =
      some (.of first rest) := by
  rw [spell?, List.foldl_append, List.foldl_cons, Spell.of]
  change rest.foldl _ (some ({ first := first } : Spell)) = _
  generalize ({ first := first } : Spell) = spell
  induction rest generalizing spell with
  | nil => rfl
  | cons entry rest ih =>
      obtain ⟨hentry, hrest⟩ := List.forall_mem_cons.mp hrest
      rw [List.foldl_cons, List.foldl_cons, spellAfter, hentry]
      exact ih hrest _

theorem Spell.first_of (first : Nat) (log : List (Nat × Event)) :
    (Spell.of first log).first = first := by
  have hafter : ∀ (spell : Spell) (time : Nat) (e : Event),
      (spell.after time e).first = spell.first := by
    intro spell time e
    unfold Spell.after
    split <;> rfl
  have hfold : ∀ spell : Spell,
      (log.foldl (fun spell entry => spell.after entry.1 entry.2) spell).first = spell.first := by
    induction log with
    | nil => exact fun _ => rfl
    | cons entry rest ih => exact fun spell => (ih _).trans (hafter spell entry.1 entry.2)
  exact hfold { first := first }

/-- A failure to connect is the latest as long as the session is not called. -/
theorem failed?_of_failed (earlier : List (Nat × Event)) (time : Nat) (target : Endpoint)
    (cause : SessionError) {rest : List (Nat × Event)}
    (hrest : ∀ entry ∈ rest, isCall entry.2 = false) :
    failed? (earlier ++ (time, ⟨.link (.call (.connect target)), .error cause⟩) :: rest) =
      some time := by
  rw [failed?, List.foldl_append, List.foldl_cons]
  change rest.foldl _ (some time) = _
  induction rest with
  | nil => rfl
  | cons entry rest ih =>
      obtain ⟨hentry, hrest⟩ := List.forall_mem_cons.mp hrest
      rw [List.foldl_cons, failedAfter, hentry]
      exact ih hrest

namespace Timing

/-! ## The rules -/

/-- What the loop's time depends on. -/
structure View where
  log : List (Nat × Event)
  /-- When the latest of it was done. -/
  since : Nat
  state : Link.State

/-- At that time, what a log tells of is in time. -/
structure InTime (settings : Settings) (log : List (Nat × Event)) (clock : Nat) : Prop where
  spell : ∀ spell, spell? log = some spell →
    OnSchedule settings.pollPeriod spell.first clock spell.starts spell.ends ∧
      spell.first + spell.pauses ≤ clock
  failed : ∀ time, failed? log = some time → clock ≤ time + settings.reconnectDelay

def IsCall : Action → Prop
  | .link (.call _) => True
  | _ => False

theorem isCall_of_event {action : Action} {answer : action.Answer}
    (hcall : isCall ⟨action, answer⟩ = true) : IsCall action := by
  cases action with
  | link action =>
      cases action with
      | call => trivial
      | look | move | halt | publish | count => cases hcall
  | now | wallClock | stopAsked | pause | deliver => cases hcall

/-- What the loop may begin: as long as it lasts everything has to be in time, and a call of
the session after a failure to connect has to be over just when it is due. -/
def MayDo (settings : Settings) (action : Action) (v : View) : Prop :=
  ∀ time, action.MayLast v.since time → InTime settings v.log time ∧
    (IsCall action → ∀ failed, failed? v.log = some failed →
      time = failed + settings.reconnectDelay)

/-- The view after an action that was over at some time. -/
def View.after (v : View) (action : Action) (answer : action.Answer) (time : Nat) : View where
  log := v.log ++ [(time, ⟨action, answer⟩)]
  since := time
  state := stateAfter action v.state

/-- Nobody asks the loop to stop, and the others leave the state of the link to it. -/
def rules (settings : Settings) : Rules Action.Answer View where
  others v w := w = v
  allows := MayDo settings
  effect action answer v w := ∃ time, action.MayLast v.since time ∧
    action.Tells answer v.since time ∧ wasStopped ⟨action, answer⟩ = false ∧
    Reported action answer v.state ∧ w = v.after action answer time

variable {settings : Settings} {v : View}

theorem obeys_act {action : Action} {post : action.Answer → View → Prop}
    (hmay : MayDo settings action v)
    (hpost : ∀ answer time, action.MayLast v.since time → action.Tells answer v.since time →
      wasStopped ⟨action, answer⟩ = false → Reported action answer v.state →
      post answer (v.after action answer time)) :
    Obeys (rules settings) post (act action) v := by
  rintro _ rfl
  refine ⟨hmay, ?_⟩
  rintro answer _ ⟨time, hlasts, htells, hgoesOn, hreported, rfl⟩
  exact hpost answer time hlasts htells hgoesOn hreported

theorem obeys_linkAct {action : Link.Action} {post : action.Answer → View → Prop}
    (hmay : MayDo settings (.link action) v)
    (hpost : ∀ (answer : action.Answer) time, (Action.link action).MayLast v.since time →
      Reported (.link action) answer v.state → post answer (v.after (.link action) answer time)) :
    Obeys ((rules settings).through Action.link) post (Link.act action) v := by
  rintro _ rfl
  refine ⟨hmay, ?_⟩
  rintro answer _ ⟨time, hlasts, -, -, hreported, rfl⟩
  exact hpost answer time hlasts hreported

/-- What is done at once may be done in time, and when it is due. -/
theorem mayDo_at_once {action : Action}
    (hlasts : ∀ time, action.MayLast v.since time → time = v.since)
    (hin : InTime settings v.log v.since)
    (hcall : IsCall action → ∀ failed, failed? v.log = some failed →
      v.since = failed + settings.reconnectDelay) : MayDo settings action v := by
  intro time htime
  obtain rfl := hlasts time htime
  exact ⟨hin, hcall⟩

/-- What is done at once and is no call is never due. -/
theorem mayDo_now {action : Action} (hlasts : ∀ time, action.MayLast v.since time → time = v.since)
    (hplain : ¬ IsCall action) (hin : InTime settings v.log v.since) : MayDo settings action v :=
  mayDo_at_once hlasts hin fun hcall => absurd hcall hplain

/-! ## What holds between the actions -/

/-- The link is not open.  If an attempt to open it has failed, the session was not called
since. -/
structure Closed (state : Link.State) (failed : Option Nat) (v : View) : Prop where
  state : v.state = state
  current : spell? v.log = none
  failed : failed? v.log = failed

/-- The log ends in a spell, whose pauses have taken time. -/
structure Within (spell : Spell) (v : View) : Prop where
  current : spell? v.log = some spell
  failed : failed? v.log = none
  pauses : spell.first + spell.pauses ≤ v.since

section After

variable {action : Action} {answer : action.Answer} {time : Nat} {state : Link.State}
  {failed : Option Nat} {spell : Spell}

@[simp]
theorem after_since : (v.after action answer time).since = time := rfl

/-- What is not a call leaves a closed link closed. -/
theorem Closed.after {next : Link.State} (hclosed : Closed state failed v)
    (hcall : isCall ⟨action, answer⟩ = false) (hstate : stateAfter action state = next) :
    Closed next failed (v.after action answer time) where
  state := (congrArg (stateAfter action) hclosed.state).trans hstate
  current := by
    have hkept : endsSpell ⟨action, answer⟩ = false := by
      rw [isCall, Option.isSome_eq_false_iff, Option.isNone_iff_eq_none] at hcall
      rw [endsSpell, hcall]
      rfl
    rw [View.after, spell?_append_one, spellAfter, hkept, hclosed.current]
    rfl
  failed := by
    rw [View.after, failed?_append_one, failedAfter, hcall]
    exact hclosed.failed

/-- What does not end the spell is a part of it. -/
theorem Within.after {next : Spell} (hwithin : Within spell v)
    (hkept : endsSpell ⟨action, answer⟩ = false)
    (hnext : spell.after time ⟨action, answer⟩ = next) (hpauses : next.first + next.pauses ≤ time) :
    Within next (v.after action answer time) where
  current := by
    rw [View.after, spell?_append_one, spellAfter, hkept, hwithin.current, ← hnext]
    rfl
  failed := by
    have hfails : failsToOpen ⟨action, answer⟩ = false := by
      rw [endsSpell, Option.any_eq_false] at hkept
      rw [failsToOpen, Option.any_eq_false]
      intro x hx
      have hconnect := hkept x hx
      rw [Bool.or_eq_false_iff] at hconnect
      rw [hconnect.1]
      rfl
    rw [View.after, failed?_append_one, failedAfter, hfails, hwithin.failed]
    simp
  pauses := hpauses

end After

theorem Closed.inTime {state : Link.State} {failed : Option Nat} (hclosed : Closed state failed v)
    {time : Nat} (htime : ∀ since, failed = some since → time ≤ since + settings.reconnectDelay) :
    InTime settings v.log time where
  spell spell hspell := by
    rw [hclosed.current] at hspell
    cases hspell
  failed since hsince := htime since (hclosed.failed.symm.trans hsince)

theorem Closed.inTime_untried {state : Link.State} (hclosed : Closed state none v) {time : Nat} :
    InTime settings v.log time := by
  refine hclosed.inTime ?_
  rintro _ ⟨⟩

theorem Within.inTime {spell : Spell} (hwithin : Within spell v) {time : Nat}
    (htime : v.since ≤ time)
    (hschedule : OnSchedule settings.pollPeriod spell.first time spell.starts spell.ends) :
    InTime settings v.log time where
  spell other hother := by
    rw [hwithin.current] at hother
    obtain rfl := Option.some.inj hother
    exact ⟨hschedule, Nat.le_trans hwithin.pauses htime⟩
  failed since hsince := by
    rw [hwithin.failed] at hsince
    cases hsince

/-- The link is open and all cycles have ended.  The next one is due at `nextPoll`, or at once
when that is over. -/
structure Waiting (settings : Settings) (nextPoll : Nat) (spell : Spell) (v : View) : Prop
    extends Within spell v where
  state : v.state = .connected
  starts : spell.starts ++ [due settings.pollPeriod spell.first spell.ends] =
    timetable settings.pollPeriod spell.first spell.ends
  next : due settings.pollPeriod spell.first spell.ends = max nextPoll v.since

/-- The link is open, and a cycle is going on that has started at `start`. -/
structure Cycling (settings : Settings) (start : Nat) (spell : Spell) (v : View) : Prop
    extends Within spell v where
  state : v.state = .connected
  looked : spell.looked = false
  starts : spell.starts = timetable settings.pollPeriod spell.first spell.ends
  latest : due settings.pollPeriod spell.first spell.ends = start

theorem Waiting.inTime {nextPoll : Nat} {spell : Spell}
    (hwaiting : Waiting settings nextPoll spell v) {time : Nat} (hsince : v.since ≤ time)
    (htime : time ≤ max nextPoll v.since) : InTime settings v.log time :=
  hwaiting.toWithin.inTime hsince (onSchedule_of_waiting hwaiting.starts (hwaiting.next ▸ htime))

theorem Cycling.inTime {start : Nat} {spell : Spell} (hcycling : Cycling settings start spell v)
    {time : Nat} (hsince : v.since ≤ time) : InTime settings v.log time := by
  refine hcycling.toWithin.inTime hsince ?_
  rw [hcycling.starts]
  exact onSchedule_of_cycling _ _ _ _

/-- Where no attempt has failed, every call is free. -/
theorem mayDo_of_free {action : Action} (hfailed : failed? v.log = none)
    (hin : ∀ time, action.MayLast v.since time → InTime settings v.log time) :
    MayDo settings action v := by
  intro time hlasts
  refine ⟨hin time hlasts, fun _ since hsince => ?_⟩
  rw [hfailed] at hsince
  cases hsince

/-! ## Opening the link -/

/-- The link is closed, and the next attempt to open it is due if one has failed. -/
def Apart (settings : Settings) (v : View) : Prop :=
  ∃ failed, Closed .disconnected failed v ∧
    ∀ since, failed = some since → v.since = since + settings.reconnectDelay

theorem Closed.apart (hclosed : Closed .disconnected none v) : Apart settings v := by
  refine ⟨none, hclosed, ?_⟩
  rintro _ ⟨⟩

/-- Closing the session of a link that is closed takes no time. -/
theorem obeys_disconnect (hapart : Apart settings v) :
    Obeys ((rules settings).through Action.link) (fun _ => Closed .disconnected none) Link.disconnect v := by
  obtain ⟨failed, hclosed, hdue⟩ := hapart
  rw [Link.disconnect]
  simp only [obeys_bind]
  refine obeys_linkAct (mayDo_at_once (fun _ => id) ?_ ?_) ?_
  · exact hclosed.inTime fun since hsince => Nat.le_of_eq (hdue since hsince)
  · exact fun _ since hsince => hdue since (hclosed.failed.symm.trans hsince)
  rintro result _ rfl -
  have hclosed' : Closed .disconnected none (v.after (.link (.call .close)) result v.since) := by
    refine ⟨hclosed.state, ?_, ?_⟩
    · simp [View.after, spellAfter, endsSpell, exchange?, Exchange.isConnect, Exchange.loses,
        hclosed.current]
    · simp [View.after, failedAfter, isCall, failsToOpen, exchange?, Exchange.isConnect]
  refine obeys_linkAct (mayDo_now (fun _ => id) id hclosed'.inTime_untried) ?_
  rintro moved _ rfl -
  exact hclosed'.after rfl rfl

/-- What comes of connecting: a spell begins, with a cycle due at once, or the attempt has
failed. -/
def Tried (settings : Settings) (result : Except SessionError Unit) (v : View) : Prop :=
  match result with
  | .ok _ => ∃ spell, ∀ nextPoll ≤ v.since, Waiting settings nextPoll spell v
  | .error _ => Closed .disconnected (some v.since) v

/-- A failure to connect is noted with its time. -/
theorem Closed.refused (hclosed : Closed .connecting none v) (target : Endpoint)
    (cause : SessionError) : Closed .connecting (some v.since)
      (v.after (.link (.call (.connect target))) (.error cause) v.since) where
  state := hclosed.state
  current := by
    simp [View.after, spellAfter, endsSpell, opensSession, exchange?, Exchange.isConnect,
      Exchange.opens]
  failed := by
    simp [View.after, failedAfter, isCall, failsToOpen, exchange?, Exchange.isConnect,
      Exchange.opens]

/-- A spell begins where the session is connected. -/
theorem within_of_opened (v : View) (target : Endpoint) : Within { first := v.since }
    (v.after (.link (.call (.connect target))) (.ok ()) v.since) where
  current := by
    simp [View.after, spellAfter, endsSpell, opensSession, exchange?, Exchange.isConnect,
      Exchange.opens]
  failed := by
    simp [View.after, failedAfter, isCall, failsToOpen, exchange?, Exchange.isConnect,
      Exchange.opens]
  pauses := Nat.le_refl _

/-- At the beginning of a spell everything is in time. -/
theorem Within.inTime_first (hwithin : Within { first := v.since } v) :
    InTime settings v.log v.since :=
  hwithin.inTime (Nat.le_refl _) (onSchedule_of_waiting rfl (Nat.le_refl _))

theorem obeys_connect (target : Endpoint) (hclosed : Closed .disconnected none v) :
    Obeys ((rules settings).through Action.link) (Tried settings) (Link.connect target) v := by
  rw [Link.connect]
  simp only [obeys_bind]
  refine obeys_linkAct (mayDo_now (fun _ => id) id hclosed.inTime_untried) ?_
  rintro state _ rfl hlook
  have hstate : state = .disconnected := Eq.trans hlook hclosed.state
  rw [if_neg (by simp [hstate])]
  have hlooked : Closed .disconnected none (v.after (.link .look) state v.since) :=
    hclosed.after rfl rfl
  refine obeys_linkAct (mayDo_now (fun _ => id) id hlooked.inTime_untried) ?_
  rintro moved _ rfl -
  generalize hw :
    (v.after (.link .look) state v.since).after (.link (.move .connecting)) moved _ = w
  have hmoved : Closed .connecting none w := hw ▸ hlooked.after rfl rfl
  refine obeys_linkAct (mayDo_at_once (fun _ => id) hmoved.inTime_untried ?_) ?_
  · intro _ since hsince
    rw [hmoved.failed] at hsince
    cases hsince
  rintro result _ rfl -
  cases result with
  | error cause =>
      have hfailed := hmoved.refused target cause
      refine obeys_linkAct (mayDo_now (fun _ => id) id (hfailed.inTime ?_)) ?_
      · rintro _ ⟨⟩
        exact Nat.le_add_right _ _
      rintro moved _ rfl -
      exact hfailed.after rfl rfl
  | ok _ =>
      generalize hu : w.after (.link (.call (.connect target))) (.ok ()) w.since = u
      have hopened : Within { first := u.since } u := hu ▸ within_of_opened w target
      have hstate : u.state = .connecting := hu ▸ hmoved.state
      refine obeys_linkAct (mayDo_now (fun _ => id) id hopened.inTime_first) ?_
      rintro moved _ rfl -
      have hconnected : Within { first := u.since }
          (u.after (.link (.move .connected)) moved u.since) :=
        hopened.after rfl rfl (Nat.le_refl _)
      have hstate' : stateAfter (.link (.move .connected)) u.state = .connected := by
        rw [hstate]
        rfl
      refine obeys_linkAct (mayDo_of_free hconnected.failed ?_) ?_
      · rintro _ rfl
        exact hconnected.inTime_first
      rintro told _ rfl -
      refine ⟨{ first := u.since }, fun nextPoll hpast => ?_⟩
      exact ⟨hconnected.after rfl rfl (Nat.le_refl _), hstate', rfl,
        (Nat.max_eq_right hpast).symm⟩

/-- Between two turns the link is closed, or it is open and waits for the next cycle. -/
def Between (settings : Settings) (result : Option Nat) (v : View) : Prop :=
  ∃ nextPoll, result = some nextPoll ∧
    (Apart settings v ∨ ∃ spell, Waiting settings nextPoll spell v)

/-- What is done at once and tells nothing of cycles leaves them waiting. -/
theorem Waiting.after {nextPoll : Nat} {spell : Spell} {action : Action} {answer : action.Answer}
    {looked : Bool} (hwaiting : Waiting settings nextPoll spell v)
    (hkept : endsSpell ⟨action, answer⟩ = false)
    (hnext : spell.after v.since ⟨action, answer⟩ = { spell with looked := looked })
    (hstate : stateAfter action .connected = .connected) :
    Waiting settings nextPoll { spell with looked := looked } (v.after action answer v.since) where
  toWithin := hwaiting.toWithin.after hkept hnext hwaiting.pauses
  state := (congrArg (stateAfter action) hwaiting.state).trans hstate
  starts := hwaiting.starts
  next := hwaiting.next

theorem Waiting.inTime_now {nextPoll : Nat} {spell : Spell}
    (hwaiting : Waiting settings nextPoll spell v) : InTime settings v.log v.since :=
  hwaiting.inTime (Nat.le_refl _) (Nat.le_max_right _ _)

theorem Between.inTime {result : Option Nat} (hbetween : Between settings result v) :
    InTime settings v.log v.since := by
  obtain ⟨nextPoll, -, ⟨failed, hclosed, hdue⟩ | ⟨spell, hwaiting⟩⟩ := hbetween
  · exact hclosed.inTime fun since hsince => Nat.le_of_eq (hdue since hsince)
  · exact hwaiting.inTime_now

/-- Opening the link anew ends with a spell, or with a pause after a failure. -/
theorem obeys_reopen (nextPoll : Nat) (hapart : Apart settings v) :
    Obeys (rules settings) (Between settings) (reopen settings nextPoll) v := by
  rw [reopen, obeys_bind, obeys_through]
  apply (obeys_disconnect hapart).mono
  intro _ w hclosed
  rw [obeys_bind, obeys_through]
  apply (obeys_connect settings.target hclosed).mono
  intro result u htried
  cases result with
  | ok _ =>
      obtain ⟨spell, hwaiting⟩ := htried
      have hnow := hwaiting u.since (Nat.le_refl _)
      rw [obeys_bind]
      refine obeys_act (mayDo_now (fun _ => id) id hnow.inTime_now) ?_
      rintro now _ rfl rfl - -
      exact ⟨u.since, rfl, Or.inr ⟨_, hnow.after rfl rfl rfl⟩⟩
  | error cause =>
      have hfailed : Closed .disconnected (some u.since) u := htried
      rw [obeys_bind]
      refine obeys_act ?_ ?_
      · rintro time ⟨-, htime⟩
        refine ⟨hfailed.inTime ?_, False.elim⟩
        rintro _ ⟨⟩
        exact htime
      · rintro stopped time - htells hgoesOn -
        obtain rfl : stopped = false := hgoesOn
        refine ⟨nextPoll, rfl, Or.inl ⟨some u.since, hfailed.after rfl rfl, ?_⟩⟩
        rintro _ ⟨⟩
        exact htells rfl

/-! ## Cycles -/

/-- In the midst of a cycle that has started at `start`, or just before what it begins with;
or the session was seen to be lost, and the link is closed. -/
inductive InCycle (settings : Settings) (start : Nat) (v : View) : Prop
  | begins {spell : Spell} (hwaiting : Waiting settings start spell v)
      (hlooked : spell.looked = true) (hsince : v.since = start)
  | goesOn {spell : Spell} (hcycling : Cycling settings start spell v)
  | lost (hclosed : Closed .disconnected none v)

theorem InCycle.inTime {start : Nat} (hin : InCycle settings start v) :
    InTime settings v.log v.since := by
  cases hin with
  | begins hwaiting _ _ => exact hwaiting.inTime_now
  | goesOn hcycling => exact hcycling.inTime (Nat.le_refl _)
  | lost hclosed => exact hclosed.inTime_untried

/-- A start that was due is on the timetable. -/
theorem Waiting.begun {start : Nat} {spell : Spell} (hwaiting : Waiting settings start spell v)
    (hsince : v.since = start) :
    spell.starts ++ [v.since] = timetable settings.pollPeriod spell.first spell.ends ∧
      due settings.pollPeriod spell.first spell.ends = start := by
  have hdue := hwaiting.next
  rw [hsince, Nat.max_self] at hdue
  refine ⟨?_, hdue⟩
  rw [← hwaiting.starts, hdue, hsince]

/-- What tells nothing of cycles is a part of the one that goes on. -/
theorem Cycling.after {start time : Nat} {spell : Spell} {action : Action}
    {answer : action.Answer} (hcycling : Cycling settings start spell v)
    (hkept : endsSpell ⟨action, answer⟩ = false)
    (hnext : spell.after time ⟨action, answer⟩ = { spell with looked := false })
    (hstate : stateAfter action .connected = .connected) (htime : v.since ≤ time) :
    Cycling settings start spell (v.after action answer time) where
  toWithin := by
    refine hcycling.toWithin.after hkept (hnext.trans ?_) (Nat.le_trans hcycling.pauses htime)
    rw [← hcycling.looked]
  state := (congrArg (stateAfter action) hcycling.state).trans hstate
  looked := hcycling.looked
  starts := hcycling.starts
  latest := hcycling.latest

/-- A look at the link begins the cycle if nothing else has, and tells whether the link was
lost. -/
theorem InCycle.look {start : Nat} (hin : InCycle settings start v) {state : Link.State}
    (hreported : state = v.state) :
    (state = .connected ∧ ∃ spell,
      Cycling settings start spell (v.after (.link .look) state v.since)) ∨
    (state = .disconnected ∧
      Closed .disconnected none (v.after (.link .look) state v.since)) := by
  cases hin with
  | @begins spell hwaiting hlooked hsince =>
      obtain ⟨hstarts, hlatest⟩ := hwaiting.begun hsince
      refine Or.inl ⟨hreported.trans hwaiting.state,
        { spell with starts := spell.starts ++ [v.since], looked := false }, ?_⟩
      constructor
      case toWithin =>
        refine hwaiting.toWithin.after rfl ?_ hwaiting.pauses
        simp [Spell.after, countsCycle, hlooked]
      case state => exact hwaiting.state
      case looked => rfl
      case starts => exact hstarts
      case latest => exact hlatest
  | @goesOn spell hcycling =>
      refine Or.inl ⟨hreported.trans hcycling.state, spell, ?_⟩
      refine hcycling.after rfl ?_ rfl (Nat.le_refl _)
      simp [Spell.after, countsCycle, hcycling.looked]
  | lost hclosed => exact Or.inr ⟨hreported.trans hclosed.state, hclosed.after rfl rfl⟩

/-- The next cycle is due when the period of the one that is counted is over, or at once. -/
theorem Waiting.of_counted {start : Nat} (spell : Spell) {w : View}
    (hwithin : Within { spell with ends := spell.ends ++ [w.since], looked := false } w)
    (hstate : w.state = .connected)
    (hstarts : spell.starts = timetable settings.pollPeriod spell.first spell.ends)
    (hlatest : Poll.due settings.pollPeriod spell.first spell.ends = start) :
    Waiting settings (start + settings.pollPeriod)
      { spell with ends := spell.ends ++ [w.since], looked := false } w where
  toWithin := hwithin
  state := hstate
  starts := by rw [timetable_append_one, ← hstarts]
  next := by rw [due_append_one, hlatest]

theorem InCycle.count {start : Nat} (hin : InCycle settings start v) (answer : Unit) :
    Between settings (some (start + settings.pollPeriod))
      (v.after (.link (.count .pollCycle)) answer v.since) := by
  refine ⟨_, rfl, ?_⟩
  cases hin with
  | @begins spell hwaiting hlooked hsince =>
      obtain ⟨hstarts, hlatest⟩ := hwaiting.begun hsince
      refine Or.inr ⟨_, Waiting.of_counted { spell with starts := spell.starts ++ [v.since] } ?_
        hwaiting.state hstarts hlatest⟩
      refine hwaiting.toWithin.after rfl ?_ hwaiting.pauses
      simp [Spell.after, countsCycle, hlooked]
  | @goesOn spell hcycling =>
      refine Or.inr ⟨_, Waiting.of_counted spell ?_ hcycling.state hcycling.starts
        hcycling.latest⟩
      refine hcycling.toWithin.after rfl ?_ hcycling.pauses
      simp [Spell.after, countsCycle, hcycling.looked]
  | lost hclosed => exact Or.inl (Closed.apart (hclosed.after rfl rfl))

/-- What comes of a read: the cycle goes on, unless the session was seen to be lost. -/
def HasRead (settings : Settings) (start : Nat) (device : Device)
    (result : Except SessionError (List Reading)) (v : View) : Prop :=
  if Exchange.loses ⟨.read device.tagPaths, result⟩ then Closed .connected none v
  else ∃ spell, Cycling settings start spell v

/-- A read may take any time. -/
theorem obeys_readTags {start : Nat} {spell : Spell} (device : Device)
    (hcycling : Cycling settings start spell v) :
    Obeys ((rules settings).through Action.link) (HasRead settings start device) (readTags device) v := by
  rw [readTags]
  split
  · refine obeys_linkAct (mayDo_of_free hcycling.failed fun _ => hcycling.inTime) ?_
    intro result time htime _
    have hends : endsSpell ⟨.link (.call (.read device.tagPaths)), result⟩ =
        Exchange.loses ⟨.read device.tagPaths, result⟩ :=
      Bool.false_or _
    rw [HasRead]
    split <;> rename_i hloses
    · refine ⟨hcycling.state, ?_, ?_⟩
      · rw [View.after, spell?_append_one, spellAfter, hends.trans hloses]
        rfl
      · rw [View.after, failed?_append_one, failedAfter]
        rfl
    · refine ⟨spell, hcycling.after (hends.trans (by simpa using hloses)) ?_ rfl htime⟩
      simp [Spell.after, countsCycle, hcycling.looked]
  · exact ⟨spell, hcycling⟩

/-- A failed read is counted, and closes the link if the session was lost by it. -/
theorem obeys_readFailed {start : Nat} (device : Device) {cause : SessionError}
    (hread : HasRead settings start device (.error cause) v) :
    Obeys ((rules settings).through Action.link) (fun _ => InCycle settings start)
      (readFailed device cause) v := by
  unfold readFailed Link.markLost
  simp only [obeys_bind]
  change if cause.isSessionLost then _ else _ at hread
  split at hread <;> rename_i hlost
  · refine obeys_linkAct (mayDo_now (fun _ => id) id hread.inTime_untried) ?_
    rintro _ _ rfl -
    have hcounted : Closed .connected none
        (v.after (.link (.count (.readFailure device.name))) () v.since) :=
      hread.after rfl rfl
    rw [if_pos hlost]
    refine obeys_linkAct (mayDo_now (fun _ => id) id hcounted.inTime_untried) ?_
    rintro moved _ rfl -
    exact .lost (hcounted.after rfl rfl)
  · obtain ⟨spell, hcycling⟩ := hread
    have hnow := hcycling.inTime (Nat.le_refl v.since)
    refine obeys_linkAct (mayDo_now (fun _ => id) id hnow) ?_
    rintro _ _ rfl -
    rw [if_neg hlost]
    refine .goesOn (hcycling.after rfl ?_ rfl (Nat.le_refl v.since))
    simp [Spell.after, countsCycle, hcycling.looked]

/-- A cycle keeps to its start, however long its reads and the waits for room take. -/
theorem obeys_cycle {start : Nat} (devices : List Device) (hin : InCycle settings start v) :
    Obeys (rules settings) (fun goesOn w => goesOn = true ∧ InCycle settings start w)
      (cycle devices) v := by
  induction devices generalizing v with
  | nil => exact ⟨rfl, hin⟩
  | cons device rest ih =>
      rw [cycle]
      split
      · rw [obeys_bind]
        refine obeys_act (mayDo_now (fun _ => id) id hin.inTime) ?_
        rintro state _ rfl - - hreported
        rcases hin.look hreported with ⟨rfl, spell, hcycling⟩ | ⟨rfl, hclosed⟩
        · rw [if_pos rfl, obeys_bind, obeys_through]
          apply (obeys_readTags device hcycling).mono
          intro result w hread
          cases result with
          | error cause =>
              simp only [obeys_bind, obeys_through]
              exact (obeys_readFailed device hread).mono fun _ _ hin => ih hin
          | ok readings =>
              obtain ⟨spell, hcycling⟩ : ∃ spell, Cycling settings start spell w := hread
              have hnow := hcycling.inTime (Nat.le_refl w.since)
              rw [obeys_bind]
              refine obeys_act (mayDo_now (fun _ => id) id hnow) ?_
              rintro clock _ rfl - - -
              have hclocked : Cycling settings start spell (w.after .wallClock clock w.since) :=
                hcycling.after rfl rfl rfl (Nat.le_refl w.since)
              rw [obeys_bind]
              refine obeys_act (mayDo_of_free hclocked.failed fun _ => hclocked.inTime) ?_
              rintro taken time htime - hgoesOn -
              obtain rfl : taken = true := by simpa [wasStopped] using hgoesOn
              exact ih (.goesOn (hclocked.after rfl rfl rfl htime))
        · exact ⟨rfl, .lost hclosed⟩
      · exact ih hin

/-! ## Turns -/

/-- The pauses between two cycles end just when the next one is due, or before. -/
theorem obeys_pollOrRest (htick : 0 < settings.idleTick) {nextPoll : Nat} {spell : Spell}
    (hwaiting : Waiting settings nextPoll spell v) :
    Obeys (rules settings) (Between settings) (pollOrRest settings nextPoll) v := by
  rw [pollOrRest, obeys_bind]
  refine obeys_act (mayDo_now (fun _ => id) id hwaiting.inTime_now) ?_
  rintro now _ rfl rfl - -
  generalize hw : v.after .now v.since v.since = w
  have hsince : w.since = v.since := hw ▸ rfl
  have hlooked : Waiting settings nextPoll { spell with looked := true } w :=
    hw ▸ hwaiting.after rfl rfl rfl
  rw [← hsince]
  split
  · rename_i hpast
    -- The cycle that was due at some time before is started now.
    have hbegins : InCycle settings w.since w := by
      refine .begins { hlooked with next := ?_ } rfl rfl
      rw [hlooked.next, Nat.max_eq_right hpast, Nat.max_self]
    rw [obeys_bind]
    apply (obeys_cycle settings.devices hbegins).mono
    rintro _ u ⟨rfl, hin⟩
    rw [if_pos rfl, obeys_bind]
    refine obeys_act (mayDo_now (fun _ => id) id hin.inTime) ?_
    rintro answer _ rfl - - -
    exact hin.count answer
  · rename_i hahead
    have hbefore : w.since < nextPoll := Nat.lt_of_not_le hahead
    have hslice : 0 < min settings.idleTick (nextPoll - w.since) :=
      Nat.lt_min.mpr ⟨htick, Nat.sub_pos_of_lt hbefore⟩
    have hfits : w.since + min settings.idleTick (nextPoll - w.since) ≤ nextPoll := by omega
    generalize min settings.idleTick (nextPoll - w.since) = slice at hslice hfits
    rw [obeys_bind]
    refine obeys_act (mayDo_of_free hlooked.failed ?_) ?_
    · rintro time ⟨hfrom, hto⟩
      exact hlooked.inTime hfrom (Nat.le_trans (Nat.le_trans hto hfits) (Nat.le_max_left _ _))
    · rintro stopped time - htells hgoesOn -
      obtain rfl : stopped = false := hgoesOn
      obtain rfl : time = w.since + slice := htells rfl
      refine ⟨nextPoll, rfl, Or.inr ⟨_, hlooked.toWithin.after rfl rfl ?_, hlooked.state,
        hlooked.starts, ?_⟩⟩
      · have hpauses : spell.first + spell.pauses ≤ w.since := hlooked.pauses
        change spell.first + (spell.pauses + 1) ≤ w.since + slice
        omega
      · refine hlooked.next.trans ?_
        rw [after_since]
        omega

/-- Every turn keeps time. -/
theorem obeys_turn (htick : 0 < settings.idleTick) {nextPoll : Nat}
    (hbetween : Between settings (some nextPoll) v) :
    Obeys (rules settings) (Between settings) (turn settings nextPoll) v := by
  have hin := hbetween.inTime
  obtain ⟨_, ⟨⟩, hbetween⟩ := hbetween
  rw [turn, obeys_bind]
  refine obeys_act (mayDo_now (fun _ => id) id hin) ?_
  rintro stopped _ rfl - hgoesOn -
  obtain rfl : stopped = false := hgoesOn
  rw [if_neg Bool.false_ne_true, obeys_bind]
  rcases hbetween with ⟨failed, hclosed, hdue⟩ | ⟨spell, hwaiting⟩
  · have hasked : Closed .disconnected failed (v.after .stopAsked false v.since) :=
      hclosed.after rfl rfl
    refine obeys_act (mayDo_now (fun _ => id) id (hasked.inTime ?_)) ?_
    · exact fun since hsince => Nat.le_of_eq (hdue since hsince)
    rintro state _ rfl - - hreported
    have hstate : state = .disconnected := Eq.trans hreported hasked.state
    rw [if_neg (by simp [hstate])]
    exact obeys_reopen nextPoll ⟨failed, hasked.after rfl rfl, hdue⟩
  · have hasked : Waiting settings nextPoll { spell with looked := false }
        (v.after .stopAsked false v.since) :=
      hwaiting.after rfl rfl rfl
    refine obeys_act (mayDo_now (fun _ => id) id hasked.inTime_now) ?_
    rintro state _ rfl - - hreported
    have hstate : state = .connected := Eq.trans hreported hasked.state
    rw [if_pos hstate]
    exact obeys_pollOrRest htick (hasked.after rfl rfl rfl)

end Timing

end TagRelay.Poll
