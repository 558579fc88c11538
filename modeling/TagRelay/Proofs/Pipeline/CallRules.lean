import TagRelay.Proofs.Pipeline.Parties
import TagRelay.Proofs.Session.History
import TagRelay.Proofs.Session.Openness

/-!
# Rules for the loop's calls

Whatever the session answers, whenever the loop is asked to stop and whatever the others
do in between, every turn of the loop obeys the rules for its calls.  The state of the
link and the history of the calls are tied to each other between two turns: where the
link is connected the session is up, and where it is neither connected nor stopped the
session is down.  A stopped link says nothing, and then the loop connects and reads
nothing.
-/

namespace TagRelay.Poll

open Routine Session

/-! ## Histories of the loop -/

/-- The call of the session that an event is. -/
def exchange? : Event → Option Exchange
  | ⟨.link (.call c), result⟩ => some ⟨c, result⟩
  | _ => none

def exchanges (events : List Event) : List Exchange := events.filterMap exchange?

/-- The paths that are read. -/
def readPaths? : Event → Option (List String)
  | ⟨.link (.call (.read paths)), _⟩ => some paths
  | _ => none

def reads (events : List Event) : List (List String) := events.filterMap readPaths?

/-- Every turn begins by asking whether to stop. -/
def beginsTurn : Event → Bool
  | ⟨.stopAsked, _⟩ => true
  | _ => false

/-- What was read in a turn so far, after one more event. -/
def readsAfter (e : Event) (seen : List (List String)) : List (List String) :=
  if beginsTurn e then [] else seen ++ (readPaths? e).toList

/-- What was read in the latest turn. -/
def turnReads (events : List Event) : List (List String) :=
  events.foldl (fun seen e => readsAfter e seen) []

/-- What there is to be read in a cycle. -/
def readable (devices : List Device) : List (List String) :=
  (devices.filter fun device => device.hasTags).map fun device => device.tagPaths

/-! ## Rules for calls -/

/-- What the loop's calls depend on. -/
structure View where
  calls : List Exchange
  reads : List (List String)
  state : Link.State
  isOpen : Prop

def stateAfter : Action → Link.State → Link.State
  | .link action, state => action.stateAfter state
  | _, state => state

/-- A look tells the state. -/
def Reported : (action : Action) → action.Answer → Link.State → Prop
  | .link .look, answer, state => answer = state
  | _, _, _ => True

/-- What an action does to a session that may be open. -/
def OpenAfter : Action → Prop → Prop → Prop
  | .link (.call .close), _, after => ¬ after
  | .link (.call (.connect _)), _, _ => True
  | _, before, after => after → before

/-- The calls that the loop may make: in order, on a closed session when it connects, and
each device in its turn when it reads. -/
def MayCall (devices : List Device) : Action → View → Prop
  | .link (.call c), v =>
      Permitted v.calls c ∧ (∀ target, c = .connect target → ¬ v.isOpen) ∧
        ∀ paths, c = .read paths → v.reads ++ [paths] <+: readable devices
  | _, _ => True

def callRules (devices : List Device) : Rules Action.Answer View where
  others v w := w.calls = v.calls ∧ w.reads = v.reads ∧
    (w.state = v.state ∨ w.state = .stopped) ∧ (w.isOpen → v.isOpen)
  allows := MayCall devices
  effect action answer v w := w.calls = v.calls ++ (exchange? ⟨action, answer⟩).toList ∧
    w.reads = readsAfter ⟨action, answer⟩ v.reads ∧ w.state = stateAfter action v.state ∧
    Reported action answer v.state ∧ OpenAfter action v.isOpen w.isOpen

/-- What has come of an action and of what others have done before it. -/
structure Did (action : Action) (answer : action.Answer) (v w : View) : Prop where
  calls : w.calls = v.calls ++ (exchange? ⟨action, answer⟩).toList
  reads : w.reads = readsAfter ⟨action, answer⟩ v.reads
  state : (w.state = stateAfter action v.state ∧ Reported action answer v.state) ∨
    (w.state = .stopped ∧ Reported action answer .stopped)
  isOpen : OpenAfter action v.isOpen w.isOpen

theorem stateAfter_stopped (action : Action) : stateAfter action .stopped = .stopped := by
  cases action with
  | link action => exact action.stateAfter_stopped
  | _ => rfl

theorem OpenAfter.of_imp {action : Action} {before before' after : Prop}
    (hafter : OpenAfter action before' after) (himp : before' → before) :
    OpenAfter action before after := by
  cases action with
  | link action =>
      cases action with
      | call c => cases c <;> first | exact hafter | exact fun h => himp (hafter h)
      | _ => exact fun h => himp (hafter h)
  | _ => exact fun h => himp (hafter h)

variable {devices : List Device} {α : Type}

/-- One action of the loop, whatever others have done before it. -/
theorem may_and_did {action : Action} {v u : View} (hmay : MayCall devices action v)
    (hothers : (callRules devices).others v u) :
    MayCall devices action u ∧ ∀ (answer : action.Answer) w,
      (callRules devices).effect action answer u w → Did action answer v w := by
  obtain ⟨hcalls, hreads, hstate, hopen⟩ := hothers
  constructor
  · cases action with
    | link action =>
        cases action with
        | call c =>
            obtain ⟨hpermitted, hclosed, hleading⟩ := hmay
            refine ⟨hcalls ▸ hpermitted, fun target hc hu => hclosed target hc (hopen hu), ?_⟩
            exact hreads ▸ hleading
        | _ => trivial
    | _ => trivial
  · rintro answer w ⟨hcalls', hreads', hstate', hreported, hopen'⟩
    refine ⟨hcalls ▸ hcalls', hreads ▸ hreads', ?_, hopen'.of_imp hopen⟩
    rcases hstate with hstate | hstate
    · exact Or.inl (hstate ▸ ⟨hstate', hreported⟩)
    · exact Or.inr ⟨by rw [hstate', hstate, stateAfter_stopped], hstate ▸ hreported⟩

theorem obeys_act_of_may {action : Action} {post : action.Answer → View → Prop} {v : View}
    (hmay : MayCall devices action v)
    (hpost : ∀ answer w, Did action answer v w → post answer w) :
    Obeys (callRules devices) post (act action) v := by
  intro u hothers
  obtain ⟨hmay, hdid⟩ := may_and_did hmay hothers
  exact ⟨hmay, fun answer w heffect => hpost answer w (hdid answer w heffect)⟩

theorem obeys_linkAct_of_may {action : Link.Action} {post : action.Answer → View → Prop}
    {v : View} (hmay : MayCall devices (.link action) v)
    (hpost : ∀ answer w, Did (.link action) answer v w → post answer w) :
    Obeys ((callRules devices).through Action.link) post (Link.act action) v := by
  intro u hothers
  obtain ⟨hmay, hdid⟩ := may_and_did hmay hothers
  exact ⟨hmay, fun answer w heffect => hpost answer w (hdid answer w heffect)⟩

theorem callRules_others_refl {v : View} : (callRules devices).others v v :=
  ⟨rfl, rfl, Or.inl rfl, id⟩

theorem callRules_others_trans {u v w : View} (hfirst : (callRules devices).others u v)
    (hsecond : (callRules devices).others v w) : (callRules devices).others u w := by
  obtain ⟨hcalls, hreads, hstate, hopen⟩ := hfirst
  obtain ⟨hcalls', hreads', hstate', hopen'⟩ := hsecond
  refine ⟨hcalls'.trans hcalls, hreads'.trans hreads, ?_, hopen ∘ hopen'⟩
  rcases hstate' with hsame | hstopped
  · exact hstate.imp hsame.trans hsame.trans
  · exact Or.inr hstopped

section MayCall

variable {action : Action} {v : View}

/-- What a call adds to the history was permitted. -/
theorem MayCall.allPermitted (hmay : MayCall devices action v) (answer : action.Answer)
    (hall : AllPermitted v.calls) :
    AllPermitted (v.calls ++ (exchange? ⟨action, answer⟩).toList) := by
  cases action with
  | link action =>
      cases action with
      | call c => exact hall.append_one hmay.1
      | look | move | halt | publish | count => simpa [exchange?] using hall
  | now | wallClock | stopAsked | pause | deliver => simpa [exchange?] using hall

/-- What was read in a turn is still what there was to be read first. -/
theorem MayCall.readsAfter_prefix (hmay : MayCall devices action v) (answer : action.Answer)
    (hreads : v.reads <+: readable devices) :
    readsAfter ⟨action, answer⟩ v.reads <+: readable devices := by
  cases action with
  | link action =>
      cases action with
      | call c =>
          cases c with
          | read paths => exact hmay.2.2 paths rfl
          | connect | close | write | info =>
              simpa [readsAfter, beginsTurn, readPaths?] using hreads
      | look | move | halt | publish | count =>
          simpa [readsAfter, beginsTurn, readPaths?] using hreads
  | stopAsked => exact List.nil_prefix
  | now | wallClock | pause | deliver => simpa [readsAfter, beginsTurn, readPaths?] using hreads

end MayCall

/-! ## What holds between the calls -/

/-- Between two parts of a turn, the state and the history of the calls are tied to each
other, and the last success in connecting was followed up. -/
structure Tied (v : View) : Prop where
  up : v.state = .connected → isUp v.calls = true
  down : v.state ≠ .connected → v.state ≠ .stopped → isDown v.calls = true
  settled : justOpened v.calls = false

/-- Between closing the session and connecting it. -/
structure Ready (v : View) : Prop where
  closed : justClosed v.calls = true
  state : v.state ≠ .connected
  down : v.state ≠ .stopped → isDown v.calls = true
  notOpen : ¬ v.isOpen

theorem justOpened_of_justClosed {history : List Exchange} (hclosed : justClosed history = true) :
    justOpened history = false := by
  obtain ⟨earlier, result, rfl⟩ := exists_of_justClosed hclosed
  simp [Exchange.opens]

theorem Ready.tied {v : View} (hready : Ready v) : Tied v where
  up hstate := absurd hstate hready.state
  down _ hstate := hready.down hstate
  settled := justOpened_of_justClosed hready.closed

section Actions

variable {action : Action} {answer : action.Answer} {v w : View}

theorem Did.calls_eq (hdid : Did action answer v w) (hcall : exchange? ⟨action, answer⟩ = none) :
    w.calls = v.calls := by
  rw [hdid.calls, hcall, Option.toList_none, List.append_nil]

theorem Did.state_eq_or (hdid : Did action answer v w) :
    w.state = stateAfter action v.state ∨ w.state = .stopped :=
  hdid.state.imp And.left And.left

/-- Stopping unties nothing. -/
theorem Tied.of_state (htied : Tied v) (hcalls : w.calls = v.calls)
    (hstate : w.state = v.state ∨ w.state = .stopped) : Tied w := by
  rcases hstate with hsame | hstopped
  · exact ⟨by rw [hsame, hcalls]; exact htied.up, by rw [hsame, hcalls]; exact htied.down,
      by rw [hcalls]; exact htied.settled⟩
  · refine ⟨fun hconnected => ?_, fun _ hrunning => absurd hstopped hrunning, ?_⟩
    · simp [hstopped] at hconnected
    · rw [hcalls]
      exact htied.settled

theorem Tied.others (hothers : (callRules devices).others v w) (htied : Tied v) : Tied w :=
  htied.of_state hothers.1 hothers.2.2.1

/-- What is tied stays so, except by calls and moves. -/
theorem Tied.kept (htied : Tied v) (hdid : Did action answer v w)
    (hcall : exchange? ⟨action, answer⟩ = none)
    (hstate : stateAfter action v.state = v.state) : Tied w := by
  refine htied.of_state (hdid.calls_eq hcall) ?_
  have hafter := hdid.state_eq_or
  rwa [hstate] at hafter

end Actions

/-! ## The parts of a turn -/

theorem mayCall_close {v : View} (hsettled : justOpened v.calls = false) :
    MayCall devices (.link (.call .close)) v :=
  ⟨hsettled, by simp, by simp⟩

/-- After a move the link is where it was moved to, or stopped. -/
theorem Did.moved {next : Link.State} {answer : Bool} {v w : View}
    (hdid : Did (.link (.move next)) answer v w) : w.state = next ∨ w.state = .stopped := by
  rcases hdid.state_eq_or with hafter | hstopped
  · by_cases hstate : v.state = .stopped
    · exact Or.inr (by simpa [stateAfter, Link.Action.stateAfter, hstate] using hafter)
    · exact Or.inl (by simpa [stateAfter, Link.Action.stateAfter, hstate] using hafter)
  · exact Or.inr hstopped

/-- Closing the session of a link that is not connected makes ready for connecting. -/
theorem obeys_disconnect {v : View} (htied : Tied v) (hstate : v.state ≠ .connected) :
    Obeys ((callRules devices).through Action.link) (fun _ => Ready) Link.disconnect v := by
  rw [Link.disconnect]
  simp only [obeys_bind]
  apply obeys_linkAct_of_may (mayCall_close htied.settled)
  intro result w hclose
  have hclosed : justClosed w.calls = true := by simp [hclose.calls, exchange?, Exchange.isClose]
  have hdown : w.state ≠ .stopped → isDown w.calls = true := by
    intro hrunning
    have hsame := hclose.state_eq_or.resolve_right hrunning
    have hbefore : isDown v.calls = true := htied.down hstate (by rwa [hsame] at hrunning)
    simp [hclose.calls, exchange?, Exchange.opens, hbefore]
  refine obeys_linkAct_of_may trivial ?_
  intro moved u hmove
  have hcalls : u.calls = w.calls := hmove.calls_eq rfl
  refine ⟨hcalls ▸ hclosed, ?_, ?_, fun hopen => hclose.isOpen (hmove.isOpen hopen)⟩
  · rcases hmove.moved with hstate | hstate <;> simp [hstate]
  · intro hrunning
    rw [hcalls]
    refine hdown fun hstopped => hrunning ?_
    rcases hmove.state_eq_or with hafter | hafter
    · rw [hafter, hstopped, stateAfter_stopped]
    · exact hafter

/-- Connecting ties the state to the history again, whether it is a success or not. -/
theorem obeys_connect (target : Endpoint) {v : View} (hready : Ready v) :
    Obeys ((callRules devices).through Action.link) (fun _ => Tied) (Link.connect target) v := by
  rw [Link.connect]
  simp only [obeys_bind]
  refine obeys_linkAct_of_may trivial ?_
  intro state w hlook
  have hcalls : w.calls = v.calls := hlook.calls_eq rfl
  split
  · exact hready.tied.kept hlook rfl rfl
  rename_i hrunning
  have hdown : isDown w.calls = true := by
    rcases hlook.state with ⟨-, hreported⟩ | ⟨-, hreported⟩
    · rw [hcalls]
      exact hready.down (hreported ▸ hrunning)
    · exact absurd hreported hrunning
  refine obeys_linkAct_of_may trivial ?_
  intro moved u hmove
  have hcalls' : u.calls = w.calls := hmove.calls_eq rfl
  have hnotOpen : ¬ u.isOpen := fun hopen => hready.notOpen (hlook.isOpen (hmove.isOpen hopen))
  have hpermitted : Permitted u.calls (.connect target) := by
    rw [hcalls']
    exact ⟨hcalls ▸ hready.closed, hdown⟩
  refine obeys_linkAct_of_may ⟨hpermitted, fun _ _ => hnotOpen, by simp⟩ ?_
  intro result x hconnect
  cases result with
  | ok _ =>
      simp only
      refine obeys_linkAct_of_may trivial ?_
      intro moved y hmove'
      have hhistory : y.calls = u.calls ++ [⟨.connect target, .ok ()⟩] :=
        (hmove'.calls_eq rfl).trans hconnect.calls
      have hup : isUp y.calls = true := by simp [hhistory, Exchange.opens]
      have hopened : justOpened y.calls = true := by simp [hhistory, Exchange.opens]
      refine obeys_linkAct_of_may ⟨hopened, by simp, by simp⟩ ?_
      intro told z hinfo
      have hhistory' : z.calls = y.calls ++ [⟨.info, told⟩] := hinfo.calls
      constructor
      · intro _
        simp [hhistory', hup, Exchange.isConnect, Exchange.loses]
      · intro hstate hrunning
        have hsame : z.state = y.state := hinfo.state_eq_or.resolve_right hrunning
        rcases hmove'.moved with hmoved | hmoved
        · exact absurd (hsame.trans hmoved) hstate
        · exact absurd (hsame.trans hmoved) hrunning
      · simp [hhistory', Exchange.opens]
  | error cause =>
      simp only
      refine obeys_linkAct_of_may trivial ?_
      intro moved y hmove'
      have hhistory : y.calls = u.calls ++ [⟨.connect target, .error cause⟩] :=
        (hmove'.calls_eq rfl).trans hconnect.calls
      constructor
      · intro hstate
        rcases hmove'.moved with hmoved | hmoved <;> simp [hmoved] at hstate
      · intro _ _
        simp [hhistory, hcalls', hdown, Exchange.opens]
      · simp [hhistory, Exchange.opens]

/-- The latest call was a read, made while the session was up. -/
structure HasRead (paths : List String) (result : Except SessionError (List Reading))
    (v : View) : Prop where
  calls : ∃ earlier, isUp earlier = true ∧ v.calls = earlier ++ [⟨.read paths, result⟩]
  state : v.state = .connected ∨ v.state = .stopped

/-- A successful read leaves everything tied. -/
theorem HasRead.tied {paths : List String} {readings : List Reading} {v : View}
    (hread : HasRead paths (.ok readings) v) : Tied v := by
  obtain ⟨earlier, hup, hcalls⟩ := hread.calls
  constructor
  · intro _
    simp [hcalls, hup, Exchange.isConnect, Exchange.loses]
  · intro hstate hrunning
    rcases hread.state with hconnected | hstopped
    · exact absurd hconnected hstate
    · exact absurd hstopped hrunning
  · simp [hcalls, Exchange.opens]

theorem obeys_readTags {device : Device} (htags : device.hasTags = true) {v : View}
    (htied : Tied v) (hup : isUp v.calls = true)
    (hstate : v.state = .connected ∨ v.state = .stopped)
    (hleading : v.reads ++ [device.tagPaths] <+: readable devices) :
    Obeys ((callRules devices).through Action.link)
      (fun result w => HasRead device.tagPaths result w ∧
        w.reads = v.reads ++ [device.tagPaths]) (readTags device) v := by
  rw [readTags, if_pos htags]
  have hmay : MayCall devices (.link (.call (.read device.tagPaths))) v := by
    refine ⟨⟨hup, htied.settled⟩, by simp, ?_⟩
    rintro _ ⟨⟩
    exact hleading
  refine obeys_linkAct_of_may hmay fun result w hread => ⟨⟨⟨v.calls, hup, hread.calls⟩, ?_⟩, ?_⟩
  · rcases hread.state_eq_or with hsame | hstopped
    · exact hstate.imp hsame.trans hsame.trans
    · exact Or.inr hstopped
  · simp [hread.reads, readsAfter, beginsTurn, readPaths?]

/-- A failed read moves the link if the session was lost by it, and ties the state to the
history again. -/
theorem obeys_readFailed (device : Device) {cause : SessionError} {paths : List String}
    {v : View} (hread : HasRead paths (.error cause) v) :
    Obeys ((callRules devices).through Action.link) (fun _ w => Tied w ∧ w.reads = v.reads)
      (readFailed device cause) v := by
  obtain ⟨earlier, hup, hcalls⟩ := hread.calls
  unfold readFailed Link.markLost
  simp only [obeys_bind]
  refine obeys_linkAct_of_may trivial ?_
  intro _ w hcount
  have hcalls' : w.calls = earlier ++ [⟨.read paths, .error cause⟩] :=
    (hcount.calls_eq rfl).trans hcalls
  have hreads : w.reads = v.reads := by simp [hcount.reads, readsAfter, beginsTurn, readPaths?]
  split
  · rename_i hlost
    refine obeys_linkAct_of_may trivial fun moved u hmove => ⟨?_, ?_⟩
    · have hhistory : u.calls = earlier ++ [⟨.read paths, .error cause⟩] :=
        (hmove.calls_eq rfl).trans hcalls'
      constructor
      · intro hstate
        rcases hmove.moved with hmoved | hmoved <;> simp [hmoved] at hstate
      · intro _ _
        simp [hhistory, Exchange.opens, Exchange.loses, hlost]
      · simp [hhistory, Exchange.opens]
    · simpa [hmove.reads, readsAfter, beginsTurn, readPaths?] using hreads
  · rename_i hkept
    refine ⟨?_, hreads⟩
    constructor
    · intro _
      simp [hcalls', hup, Exchange.isConnect, Exchange.loses, hkept]
    · intro hstate hrunning
      have hsame : w.state = v.state := hcount.state_eq_or.resolve_right hrunning
      rcases hread.state with hconnected | hstopped
      · exact absurd (hsame.trans hconnected) hstate
      · exact absurd (hsame.trans hstopped) hrunning
    · simp [hcalls', Exchange.opens]

theorem obeys_reopen (settings : Settings) (nextPoll : Nat) {v : View} (htied : Tied v)
    (hstate : v.state ≠ .connected) :
    Obeys (callRules devices) (fun _ => Tied) (reopen settings nextPoll) v := by
  rw [reopen, obeys_bind, obeys_through]
  apply (obeys_disconnect htied hstate).mono
  intro _ w hready
  rw [obeys_bind, obeys_through]
  apply (obeys_connect settings.target hready).mono
  intro result u htied
  cases result with
  | ok _ =>
      rw [obeys_bind]
      exact obeys_act_of_may trivial fun _ _ hdid => htied.kept hdid rfl rfl
  | error cause =>
      rw [obeys_bind]
      refine obeys_act_of_may trivial ?_
      intro stopped x hdid
      split <;> exact htied.kept hdid rfl rfl

/-- An answer to a look is the state, unless the link is stopped by now. -/
theorem Did.looked {state : Link.State} {v w : View} (hdid : Did (.link .look) state v w)
    (hstate : state ≠ .stopped) : v.state = state ∧ (w.state = state ∨ w.state = .stopped) := by
  rcases hdid.state with ⟨hafter, hreported⟩ | ⟨-, hreported⟩
  · have hbefore : v.state = state := Eq.symm hreported
    exact ⟨hbefore, Or.inl (hafter.trans hbefore)⟩
  · exact absurd hreported hstate

/-- A cycle reads one device after the other: what it has read and what is left to be read
make up all that there is to be read. -/
theorem obeys_cycle (rest : List Device) {v : View} (htied : Tied v)
    (hreads : v.reads ++ readable rest = readable devices) :
    Obeys (callRules devices) (fun _ => Tied) (cycle rest) v := by
  induction rest generalizing v with
  | nil => exact htied
  | cons device rest ih =>
      rw [cycle]
      split
      · rename_i htags
        have hreadable : readable (device :: rest) = device.tagPaths :: readable rest := by
          simp [readable, htags]
        rw [hreadable] at hreads
        rw [obeys_bind]
        refine obeys_act_of_may trivial ?_
        intro state w hlook
        have hreads' : w.reads = v.reads := by
          simp [hlook.reads, readsAfter, beginsTurn, readPaths?]
        have htied' : Tied w := htied.kept hlook rfl rfl
        split
        · rename_i hconnected
          subst hconnected
          obtain ⟨hbefore, hafter⟩ := hlook.looked (by simp)
          have hup : isUp w.calls = true := hlook.calls_eq rfl ▸ htied.up hbefore
          have hleading : w.reads ++ [device.tagPaths] <+: readable devices := by
            rw [hreads', ← hreads]
            simp
          rw [obeys_bind, obeys_through]
          refine (obeys_readTags htags htied' hup hafter hleading).mono ?_
          rintro result u ⟨hread, hreads''⟩
          have hleft : u.reads ++ readable rest = readable devices := by
            rw [hreads'', hreads', ← hreads]
            simp
          cases result with
          | ok readings =>
              rw [obeys_bind]
              refine obeys_act_of_may trivial ?_
              intro time x hclock
              rw [obeys_bind]
              refine obeys_act_of_may trivial ?_
              intro taken y hdeliver
              have htied'' : Tied y := (hread.tied.kept hclock rfl rfl).kept hdeliver rfl rfl
              split
              · refine ih htied'' ?_
                simpa [hdeliver.reads, hclock.reads, readsAfter, beginsTurn, readPaths?] using hleft
              · exact htied''
          | error cause =>
              simp only [obeys_bind, obeys_through]
              refine (obeys_readFailed device hread).mono ?_
              rintro _ x ⟨htied'', hsame⟩
              exact ih htied'' (hsame ▸ hleft)
        · exact htied'
      · rename_i htags
        have hreadable : readable (device :: rest) = readable rest := by simp [readable, htags]
        exact ih htied (hreadable ▸ hreads)

theorem obeys_pollOrRest (settings : Settings) (nextPoll : Nat) {v : View} (htied : Tied v)
    (hreads : v.reads = []) :
    Obeys (callRules settings.devices) (fun _ => Tied) (pollOrRest settings nextPoll) v := by
  rw [pollOrRest, obeys_bind]
  refine obeys_act_of_may trivial ?_
  intro now w hclock
  have htied' : Tied w := htied.kept hclock rfl rfl
  split
  · rw [obeys_bind]
    have hleft : w.reads ++ readable settings.devices = readable settings.devices := by
      simp [hclock.reads, readsAfter, beginsTurn, readPaths?, hreads]
    apply (obeys_cycle settings.devices htied' hleft).mono
    intro goesOn u htied
    split
    · rw [obeys_bind]
      exact obeys_act_of_may trivial fun _ x hcount => htied.kept hcount rfl rfl
    · exact htied
  · rw [obeys_bind]
    refine obeys_act_of_may trivial ?_
    intro stopped u hpause
    split <;> exact htied'.kept hpause rfl rfl

theorem obeys_turn (settings : Settings) (nextPoll : Nat) {v : View} (htied : Tied v) :
    Obeys (callRules settings.devices) (fun _ => Tied) (turn settings nextPoll) v := by
  rw [turn, obeys_bind]
  refine obeys_act_of_may trivial ?_
  intro stopped w hask
  have htied' : Tied w := htied.kept hask rfl rfl
  have hreads : w.reads = [] := by simp [hask.reads, readsAfter, beginsTurn]
  split
  · exact htied'
  · rw [obeys_bind]
    refine obeys_act_of_may trivial ?_
    intro state u hlook
    have htied'' : Tied u := htied'.kept hlook rfl rfl
    split
    · refine obeys_pollOrRest settings nextPoll htied'' ?_
      simp [hlook.reads, hreads, readsAfter, beginsTurn, readPaths?]
    · rename_i hother
      refine obeys_reopen settings nextPoll htied'' ?_
      rcases hlook.state with ⟨hafter, hreported⟩ | ⟨hstopped, -⟩
      · rw [hafter]
        exact fun hconnected => hother (Eq.trans hreported hconnected)
      · simp [hstopped]

/-- The last call of the loop closes the session. -/
theorem obeys_finish {v : View} (htied : Tied v) :
    Obeys (callRules devices) (fun _ w => justClosed w.calls = true) finish v := by
  unfold finish Link.stop
  rw [obeys_through]
  simp only [obeys_bind]
  refine obeys_linkAct_of_may trivial ?_
  intro _ w hhalt
  refine obeys_linkAct_of_may trivial ?_
  intro _ u hpublish
  have hcalls : u.calls = v.calls := (hpublish.calls_eq rfl).trans (hhalt.calls_eq rfl)
  have hsettled : justOpened u.calls = false := hcalls ▸ htied.settled
  apply obeys_linkAct_of_may (mayCall_close hsettled)
  intro result x hclose
  simp [hclose.calls, exchange?, Exchange.isClose]

end TagRelay.Poll
