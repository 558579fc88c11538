import TagRelay.Proofs.Pipeline.Interleaved
import TagRelay.Proofs.Remote.Conduct

/-!
# What the parties may do

The loop alone moves the link and opens the session.  The host stops the link and closes
the session, the platform's calls look, read and write, and the worker only counts.  So
whatever the others do between two actions of the loop, they leave the state of the link
as it is or stop it.
-/

namespace TagRelay

open Routine

/-- What an action of the loop does to the link. -/
def Poll.Action.linkAfter {σ : Type} [TagSession σ] : Poll.Action → Link σ → Link σ
  | .link action, before => (before.perform action).2
  | _, before => before

/-! ## Stages that obey -/

namespace Running

variable {View : Type}

/-- What is left of the stage obeys the rules; a turn ends as `afterTurn` says and the
loop as `atEnd` says. -/
def LoopStage.Obeys (rules : Rules Poll.Action.Answer View)
    (afterTurn : Option Nat → View → Prop) (atEnd : View → Prop) : LoopStage → View → Prop
  | .turn rest, view => Routine.Obeys rules afterTurn rest view
  | .finish rest, view => Routine.Obeys rules (fun _ => atEnd) rest view
  | .ended, view => atEnd view

section Loop

variable {rules : Rules Poll.Action.Answer View} {afterTurn : Option Nat → View → Prop}
  {atEnd : View → Prop} {stage following : LoopStage} {view : View}

theorem LoopStage.Obeys.acts {action : Poll.Action} {next : action.Answer → LoopStage}
    (hobeys : stage.Obeys rules afterTurn atEnd view)
    (hacting : stage.acting? = some ⟨action, next⟩) (hrefl : rules.others view view) :
    rules.allows action view ∧ ∀ answer after, rules.effect action answer view after →
      (next answer).Obeys rules afterTurn atEnd after := by
  cases stage with
  | turn rest | finish rest =>
      cases rest with
      | done result => simp [acting?] at hacting
      | act action' next' =>
          simp only [acting?, Option.some.injEq, Sigma.mk.injEq] at hacting
          obtain ⟨rfl, hnext⟩ := hacting
          cases hnext
          exact hobeys view hrefl
  | ended => simp [acting?] at hacting

theorem LoopStage.Obeys.goesOn {settings : Poll.Settings}
    (hobeys : stage.Obeys rules afterTurn atEnd view)
    (hfollowing : stage.following? settings = some following)
    (hturn : ∀ nextPoll, afterTurn (some nextPoll) view →
      Routine.Obeys rules afterTurn (Poll.turn settings nextPoll) view)
    (hfinish : afterTurn none view → Routine.Obeys rules (fun _ => atEnd) Poll.finish view) :
    following.Obeys rules afterTurn atEnd view := by
  cases stage with
  | turn rest =>
      cases rest with
      | done result =>
          cases result with
          | none =>
              obtain rfl := Option.some.inj hfollowing
              exact hfinish hobeys
          | some nextPoll =>
              obtain rfl := Option.some.inj hfollowing
              exact hturn nextPoll hobeys
      | act action next => simp [following?] at hfollowing
  | finish rest =>
      cases rest with
      | done result =>
          obtain rfl := Option.some.inj hfollowing
          exact hobeys
      | act action next => simp [following?] at hfollowing
  | ended => simp [following?] at hfollowing

theorem LoopStage.Obeys.others {seen : View}
    (hobeys : stage.Obeys rules afterTurn atEnd view)
    (htrans : ∀ {u v w}, rules.others u v → rules.others v w → rules.others u w)
    (hturn : ∀ {result u v}, rules.others u v → afterTurn result u → afterTurn result v)
    (hend : ∀ {u v}, rules.others u v → atEnd u → atEnd v)
    (hothers : rules.others view seen) : stage.Obeys rules afterTurn atEnd seen := by
  cases stage with
  | turn rest => exact Routine.Obeys.others hobeys htrans hturn hothers
  | finish rest => exact Routine.Obeys.others hobeys htrans hend hothers
  | ended => exact hend hothers hobeys

theorem LoopStage.Obeys.ended (hobeys : stage.Obeys rules afterTurn atEnd view)
    (hended : stage.hasEnded = true) : atEnd view := by
  obtain rfl := eq_ended hended
  exact hobeys

end Loop

/-- What is left of the stage obeys the rules; a turn ends as `afterTurn` says and the
worker as `atEnd` says. -/
def WorkerStage.Obeys (rules : Rules Worker.Action.Answer View)
    (afterTurn : Bool → View → Prop) (atEnd : View → Prop) : WorkerStage → View → Prop
  | .turn rest, view => Routine.Obeys rules afterTurn rest view
  | .ended, view => atEnd view

section Worker

variable {rules : Rules Worker.Action.Answer View} {afterTurn : Bool → View → Prop}
  {atEnd : View → Prop} {stage following : WorkerStage} {view : View}

theorem WorkerStage.Obeys.acts {action : Worker.Action} {next : action.Answer → WorkerStage}
    (hobeys : stage.Obeys rules afterTurn atEnd view)
    (hacting : stage.acting? = some ⟨action, next⟩) (hrefl : rules.others view view) :
    rules.allows action view ∧ ∀ answer after, rules.effect action answer view after →
      (next answer).Obeys rules afterTurn atEnd after := by
  cases stage with
  | turn rest =>
      cases rest with
      | done result => simp [acting?] at hacting
      | act action' next' =>
          simp only [acting?, Option.some.injEq, Sigma.mk.injEq] at hacting
          obtain ⟨rfl, hnext⟩ := hacting
          cases hnext
          exact hobeys view hrefl
  | ended => simp [acting?] at hacting

theorem WorkerStage.Obeys.goesOn (hobeys : stage.Obeys rules afterTurn atEnd view)
    (hfollowing : stage.following? = some following)
    (hturn : afterTurn true view → Routine.Obeys rules afterTurn Worker.turn view)
    (hend : afterTurn false view → atEnd view) : following.Obeys rules afterTurn atEnd view := by
  cases stage with
  | turn rest =>
      cases rest with
      | done result =>
          cases result with
          | true =>
              obtain rfl := Option.some.inj hfollowing
              exact hturn hobeys
          | false =>
              obtain rfl := Option.some.inj hfollowing
              exact hend hobeys
      | act action next => simp [following?] at hfollowing
  | ended => simp [following?] at hfollowing

theorem WorkerStage.Obeys.ended (hobeys : stage.Obeys rules afterTurn atEnd view)
    (hended : stage.hasEnded = true) : atEnd view := by
  obtain rfl := eq_ended hended
  exact hobeys

end Worker

end Running

namespace Interleaved

/-! ## Calls from the platform -/

theorem IsRemote.behaves {c : Connector} {program : Link.Program Unit}
    (hremote : IsRemote c program) : Remote.Behaves program := by
  cases hremote with
  | answer request =>
      exact only_bind (Remote.behaves_answer _ request) fun _ => trivial
  | update u => exact only_bind (Remote.behaves_update _ u) fun _ => trivial

/-! ## The host -/

/-- Shutting down stops the link and publishes that; the session it may only close. -/
def HostMay : Host.Action → Prop
  | .link .halt | .link .publish | .now | .signalStop | .join _ | .closeBefore _ => True
  | _ => False

def HostStage.Behaves : HostStage → Prop
  | .turn rest => Only HostMay rest
  | _ => True

theorem only_shutdown (limit : Nat) : Only HostMay (Host.shutdown limit) := by
  simp [Host.shutdown, Host.act, Routine.perform, HostMay]

theorem HostStage.Behaves.acts {stage : HostStage} {action : Host.Action}
    {next : action.Answer → HostStage} (hbehaves : stage.Behaves)
    (hacting : stage.acting? = some ⟨action, next⟩) :
    HostMay action ∧ ∀ answer, (next answer).Behaves := by
  cases stage with
  | turn rest =>
      cases rest with
      | done result => simp [acting?] at hacting
      | act action' next' =>
          simp only [acting?, Option.some.injEq, Sigma.mk.injEq] at hacting
          obtain ⟨rfl, hnext⟩ := hacting
          cases hnext
          exact (obeys_ofActions_act _ _ _ _ _).mp hbehaves
  | away | ended => simp [acting?] at hacting

theorem HostStage.Behaves.goesOn {stage following : HostStage} {limit : Nat}
    (hfollowing : stage.following? limit = some following) : following.Behaves := by
  cases stage with
  | away =>
      obtain rfl := Option.some.inj hfollowing
      exact only_shutdown limit
  | turn rest =>
      cases rest with
      | done joined =>
          obtain rfl := Option.some.inj hfollowing
          trivial
      | act action next => simp [following?] at hfollowing
  | ended => simp [following?] at hfollowing

/-! ## Everybody but the loop -/

variable {σ κ : Type}

/-- The host and the platform do only what they may. -/
structure Mannered (p : Interleaved σ κ) : Prop where
  host : p.host.Behaves
  remote : ∀ program ∈ p.remote, Remote.Behaves program

theorem mannered_start (c : Connector) (session : σ) (sink : κ) :
    Mannered (start c session sink) where
  host := trivial
  remote := by simp [start]

section Steps

variable [TagSession σ] {c : Connector} {p q : Interleaved σ κ} {new : List Event}

/-- The loop reaches the link by its link actions alone. -/
theorem loopEffect_link {action : Poll.Action} {answer : action.Answer}
    (heffect : loopEffect c action answer p q) :
    q.link = action.linkAfter p.link := by
  cases action with
  | link action => exact congrArg Interleaved.link heffect.2
  | now | wallClock => exact congrArg Interleaved.link heffect
  | stopAsked | pause => exact congrArg Interleaved.link heffect.2
  | deliver reply =>
      cases answer with
      | false => exact congrArg Interleaved.link heffect.2
      | true => exact (congrArg Interleaved.link heffect.2.2 :)

theorem loopEffect_others {action : Poll.Action} {answer : action.Answer}
    (heffect : loopEffect c action answer p q) :
    q.host = p.host ∧ q.remote = p.remote ∧ q.worker = p.worker ∧
      q.stopAsked = p.stopAsked ∧ q.sink = p.sink := by
  cases action with
  | link | stopAsked | pause =>
      obtain rfl := heffect.2
      exact ⟨rfl, rfl, rfl, rfl, rfl⟩
  | now | wallClock =>
      obtain rfl : q = p := heffect
      exact ⟨rfl, rfl, rfl, rfl, rfl⟩
  | deliver reply =>
      cases answer with
      | false =>
          obtain rfl := heffect.2
          exact ⟨rfl, rfl, rfl, rfl, rfl⟩
      | true =>
          obtain rfl := heffect.2.2
          exact ⟨rfl, rfl, rfl, rfl, rfl⟩

omit [TagSession σ] in
theorem workerEffect_others [RecordSink κ] {action : Worker.Action} {answer : action.Answer}
    (heffect : workerEffect c action answer p q) :
    q.host = p.host ∧ q.remote = p.remote ∧ q.loop = p.loop ∧ q.stopAsked = p.stopAsked ∧
      (q.link = p.link ∨ ∃ event, q.link = p.link.count event) := by
  cases action with
  | receive =>
      cases answer with
      | none =>
          obtain rfl := heffect.2
          exact ⟨rfl, rfl, rfl, rfl, Or.inl rfl⟩
      | some reply =>
          obtain ⟨-, hq⟩ := heffect
          rw [hq]
          exact ⟨rfl, rfl, rfl, rfl, Or.inl rfl⟩
  | count event =>
      obtain rfl : q = _ := heffect
      exact ⟨rfl, rfl, rfl, rfl, Or.inr ⟨event, rfl⟩⟩
  | send record =>
      obtain rfl := heffect.2
      exact ⟨rfl, rfl, rfl, rfl, Or.inl rfl⟩

theorem hostEffect_others {action : Host.Action} {answer : action.Answer}
    (heffect : hostEffect action answer p q) :
    q.loop = p.loop ∧ q.worker = p.worker ∧ q.remote = p.remote ∧ q.queue = p.queue ∧
      q.sink = p.sink := by
  cases action with
  | link | join =>
      obtain rfl := heffect.2
      exact ⟨rfl, rfl, rfl, rfl, rfl⟩
  | now | rest | signalStop =>
      obtain rfl : q = _ := heffect
      exact ⟨rfl, rfl, rfl, rfl, rfl⟩
  | closeBefore =>
      cases answer <;> obtain rfl : q = _ := heffect <;> exact ⟨rfl, rfl, rfl, rfl, rfl⟩

/-- What everybody but the loop may do to the link: not move it and not open the
session. -/
def GuestMay : Link.Action → Prop
  | .move _ | .call (.connect _) | .call .info => False
  | _ => True

theorem Remote.May.guestMay {action : Link.Action} (hmay : Remote.May action) :
    GuestMay action := by
  cases action with
  | call c => cases c <;> trivial
  | move => exact hmay
  | look | halt | publish | count => trivial

theorem hostEffect_link {action : Host.Action} {answer : action.Answer} (hmay : HostMay action)
    (heffect : hostEffect action answer p q) :
    q.link = p.link ∨ ∃ a, GuestMay a ∧ q.link = (p.link.perform a).2 := by
  cases action with
  | link action =>
      refine Or.inr ⟨action, ?_, by rw [heffect.2]⟩
      cases action <;> trivial
  | now | rest | signalStop => exact Or.inl (by rw [heffect])
  | join => exact Or.inl (by rw [heffect.2])
  | closeBefore =>
      cases answer with
      | false => exact Or.inl (by rw [heffect])
      | true => exact Or.inr ⟨.call .close, trivial, by rw [heffect]⟩

/-- Either the loop takes a step, or somebody else does and leaves the loop alone. -/
theorem Step.loop_or_guest [RecordSink κ] (hp : Mannered p) (hstep : Step c p new q) :
    (∃ action next answer r, p.loop.acting? = some ⟨action, next⟩ ∧
      loopEffect c action answer p r ∧ new = [.loop ⟨action, answer⟩] ∧
      q = { r with loop := next answer }) ∨
    (∃ stage, p.loop.following? c.pollSettings = some stage ∧ new = [] ∧
      q = { p with loop := stage }) ∨
    (q.loop = p.loop ∧ loopEvents new = [] ∧
      (q.link = p.link ∨ ∃ a, GuestMay a ∧ q.link = (p.link.perform a).2)) := by
  cases hstep with
  | loopActs hacting heffect =>
      exact Or.inl ⟨_, _, _, _, hacting, heffect, rfl, rfl⟩
  | loopGoesOn hstage => exact Or.inr (Or.inl ⟨_, hstage, rfl, rfl⟩)
  | workerActs hacting heffect =>
      obtain ⟨-, -, hloop, -, hlink⟩ := workerEffect_others heffect
      refine Or.inr (Or.inr ⟨hloop, rfl, ?_⟩)
      rcases hlink with hlink | ⟨event, hlink⟩
      · exact Or.inl hlink
      · exact Or.inr ⟨.count event, trivial, hlink⟩
  | workerGoesOn hstage => exact Or.inr (Or.inr ⟨rfl, rfl, Or.inl rfl⟩)
  | hostActs hacting heffect =>
      have hlink := hostEffect_link (hp.host.acts hacting).1 heffect
      exact Or.inr (Or.inr ⟨(hostEffect_others heffect).1, rfl, hlink⟩)
  | hostGoesOn hstage => exact Or.inr (Or.inr ⟨rfl, rfl, Or.inl rfl⟩)
  | remoteBegins hremote => exact Or.inr (Or.inr ⟨rfl, rfl, Or.inl rfl⟩)
  | remoteActs hacting heffect =>
      obtain ⟨-, rfl⟩ := heffect
      have hbehaves := hp.remote _ (List.mem_of_getElem? hacting)
      have hmay := ((obeys_ofActions_act _ _ _ _ _).mp hbehaves).1
      exact Or.inr (Or.inr ⟨rfl, rfl, Or.inr ⟨_, Remote.May.guestMay hmay, rfl⟩⟩)

theorem Mannered.step [RecordSink κ] (hp : Mannered p) (hstep : Step c p new q) :
    Mannered q := by
  cases hstep with
  | loopActs hacting heffect =>
      obtain ⟨hhost, hremote, -⟩ := loopEffect_others heffect
      exact ⟨hhost ▸ hp.host, hremote ▸ hp.remote⟩
  | workerActs hacting heffect =>
      obtain ⟨hhost, hremote, -⟩ := workerEffect_others heffect
      exact ⟨hhost ▸ hp.host, hremote ▸ hp.remote⟩
  | loopGoesOn | workerGoesOn => exact ⟨hp.host, hp.remote⟩
  | hostActs hacting heffect =>
      obtain ⟨-, -, hremote, -⟩ := hostEffect_others heffect
      exact ⟨(hp.host.acts hacting).2 _, hremote ▸ hp.remote⟩
  | hostGoesOn hstage => exact ⟨HostStage.Behaves.goesOn hstage, hp.remote⟩
  | remoteBegins hremote =>
      refine ⟨hp.host, fun program hprogram => ?_⟩
      rcases List.mem_append.mp hprogram with hprogram | hprogram
      · exact hp.remote program hprogram
      · obtain rfl := List.mem_singleton.mp hprogram
        exact hremote.behaves
  | remoteActs hacting heffect =>
      obtain ⟨-, rfl⟩ := heffect
      have hbehaves := hp.remote _ (List.mem_of_getElem? hacting)
      have hnext := ((obeys_ofActions_act _ _ _ _ _).mp hbehaves).2
      refine ⟨hp.host, fun program hprogram => ?_⟩
      rcases List.mem_or_eq_of_mem_set hprogram with hprogram | rfl
      · exact hp.remote program hprogram
      · exact hnext _

theorem Mannered.run [RecordSink κ] {events : List Event} (hp : Mannered p)
    (hrun : Run c p events q) : Mannered q := by
  induction hrun with
  | refl => exact hp
  | tail _ hstep ih => exact ih.step hstep

end Steps

end Interleaved

end TagRelay
