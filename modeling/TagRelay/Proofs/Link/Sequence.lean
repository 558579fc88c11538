import TagRelay.Pipeline.Poll
import TagRelay.Proofs.Link.Alone
import TagRelay.Proofs.Remote.Conduct

/-!
# A link that is used step by step

Somebody uses a link over a session in memory, one use after the other: it is opened,
closed, lost and stopped, devices are read, calls from the platform are answered, and in
between the session is prepared to fail.  The state of the link and what the session is
connected to are two things, and they do drift apart: a link that was lost over a session
that is still open has to close it before it can be opened again.  But after every use a
connected link has its session open at the right target, and a stopped one has it closed
for good.
-/

namespace TagRelay

namespace Memory

/-- What can be prepared in a session, but for the loss of its connection. -/
inductive Preparation where
  | store (path : String) (tag : StoredTag)
  | failConnects (count : Nat)
  | failNextRead (cause : SessionError)
  | failNextWrite (cause : SessionError)
  | failInfo (cause : SessionError)
  | reverseReplies (on : Bool)
  | rejectReads (path : String)
  | omitPath (path : String)
  | delayReads (millis : Nat)

def prepare (m : Memory) : Preparation → Memory
  | .store path tag => m.store path tag
  | .failConnects count => m.failConnects count
  | .failNextRead cause => m.failNextRead cause
  | .failNextWrite cause => m.failNextWrite cause
  | .failInfo cause => m.failInfo cause
  | .reverseReplies on => m.reverseReplies on
  | .rejectReads path => m.rejectReads path
  | .omitPath path => m.omitPath path
  | .delayReads millis => m.delayReads millis

@[simp]
theorem prepare_opened (m : Memory) (preparation : Preparation) :
    (m.prepare preparation).opened = m.opened := by
  cases preparation <;> rfl

@[simp]
theorem prepare_calls (m : Memory) (preparation : Preparation) :
    (m.prepare preparation).calls = m.calls := by
  cases preparation <;> rfl

end Memory

namespace Link

open Routine

/-- A use of a link over a session in memory. -/
inductive Use where
  | connect
  | disconnect
  | markLost (cause : SessionError)
  | stop
  | acquire (device : Device)
  | answer (p : Remote.PassThrough) (request : Remote.Request)
  | update (p : Remote.PassThrough) (u : Remote.Update)
  | prepare (preparation : Memory.Preparation)

/-- The link after a use. -/
def use (target : Endpoint) (link : Link Memory) : Use → Link Memory
  | .connect => (link.run (Link.connect target)).2
  | .disconnect => (link.run Link.disconnect).2
  | .markLost cause => (link.run (Link.markLost cause)).2
  | .stop => (link.run Link.stop).2
  | .acquire device => (link.run (Poll.readTags device)).2
  | .answer p request => (link.run (p.answer request)).2
  | .update p u => (link.run (p.update u)).2
  | .prepare preparation => { link with session := link.session.prepare preparation }

def useAll (target : Endpoint) (link : Link Memory) (uses : List Use) : Link Memory :=
  uses.foldl (use target) link

/-! ## Uses that leave the connection alone -/

/-- Neither the state of the link nor the connection of its session has been touched. -/
structure Undisturbed (link later : Link Memory) : Prop where
  state : later.state = link.state
  opened : later.session.opened = link.session.opened
  connects : later.session.calls.connect = link.session.calls.connect

theorem Undisturbed.perform {link later : Link Memory} (hlater : Undisturbed link later)
    {action : Action} (hmay : Remote.May action) :
    Undisturbed link (later.perform action).2 := by
  refine ⟨?_, ?_, ?_⟩
  · rw [perform_state, ← hlater.state]
    cases action with
    | move | halt => exact hmay.elim
    | look | publish | call | count => rfl
  · rw [perform_session, ← hlater.opened]
    cases action with
    | call c => exact Memory.call_opened later.session hmay.ne_connect hmay.ne_close
    | look | move | halt | publish | count => rfl
  · rw [perform_session, ← hlater.connects]
    cases action with
    | call c => exact Memory.call_connects later.session hmay.ne_connect
    | look | move | halt | publish | count => rfl

theorem undisturbed_of_behaves {α : Type} {routine : Program α}
    (hbehaves : Remote.Behaves routine) (link : Link Memory) :
    Undisturbed link (link.run routine).2 :=
  Only.run perform (fun _ _ hmay hlater => hlater.perform hmay) hbehaves ⟨rfl, rfl, rfl⟩

theorem behaves_readTags (device : Device) : Remote.Behaves (Poll.readTags device) := by
  rw [Poll.readTags]
  split
  · exact only_perform trivial
  · trivial

/-! ## The outcomes of a use -/

/-- What has come of a use. -/
inductive Outcome (target : Endpoint) (link : Link Memory) (u : Use) (later : Link Memory) : Prop
  /-- The connection was left as it was. -/
  | undisturbed (hlater : Undisturbed link later)
  /-- The link was closed or lost, or could not be opened. -/
  | disconnected (hlink : link.state ≠ .stopped) (hlater : later.state = .disconnected)
  | connected (hlink : link.state ≠ .stopped) (hlater : later.state = .connected)
      (hopened : later.session.opened = some target)
  /-- The session was closed by stopping the link, or after that. -/
  | closed (hlink : u = .stop ∨ link.state = .stopped) (hlater : later.state = .stopped)
      (hopened : later.session.opened = none)
      (hconnects : later.session.calls.connect = link.session.calls.connect)

section Uses

variable {target : Endpoint} {link : Link Memory}

theorem connects_close (m : Memory) :
    (TagSession.call .close m).2.calls.connect = m.calls.connect :=
  Memory.call_connects m (by simp)

theorem outcome_connect (target : Endpoint) (link : Link Memory) :
    Outcome target link .connect (link.use target .connect) := by
  rcases run_connect_cases link target with
    ⟨hstopped, heq⟩ | ⟨hlink, cause, -, -, hstate, -⟩ | ⟨hlink, hcall, -, hstate, hsession⟩
  · have hsame : link.use target .connect = link := congrArg Prod.snd heq
    exact .undisturbed ⟨by rw [hsame], by rw [hsame], by rw [hsame]⟩
  · exact .disconnected hlink hstate
  · refine .connected hlink hstate ?_
    -- The session is asked about the server last, which leaves it open.
    calc (link.run (connect target)).2.session.opened
        = (TagSession.call (.connect target) link.session).2.opened := by
          rw [hsession]
          exact Memory.call_opened _ (by simp) (by simp)
      _ = some target := by
          rcases Memory.connect_cases link.session target with ⟨cause, rest, heq⟩ | heq
          · have hdone : (link.session.connect target).1 = .ok () := hcall
            simp [heq] at hdone
          · exact congrArg (fun outcome => outcome.2.opened) heq

theorem outcome_markLost (target : Endpoint) (link : Link Memory) (cause : SessionError) :
    Outcome target link (.markLost cause) (link.use target (.markLost cause)) := by
  by_cases hlost : cause.isSessionLost = true
  · by_cases hstopped : link.state = .stopped
    · exact .undisturbed ⟨by simp [use, hstopped], by simp [use], by simp [use]⟩
    · exact .disconnected hstopped (by simp [use, hlost, hstopped, Action.stateAfter])
  · exact .undisturbed ⟨by simp [use, hlost], by simp [use], by simp [use]⟩

theorem outcome_use (target : Endpoint) (link : Link Memory) (u : Use) :
    Outcome target link u (link.use target u) := by
  cases u with
  | connect => exact outcome_connect target link
  | disconnect =>
      by_cases hstopped : link.state = .stopped
      · refine .closed (Or.inr hstopped) (by simp [use, hstopped]) ?_ ?_
        · rw [use, run_disconnect_session]
          rfl
        · rw [use, run_disconnect_session, connects_close]
      · exact .disconnected hstopped (by simp [use, hstopped, Action.stateAfter])
  | markLost cause => exact outcome_markLost target link cause
  | stop =>
      refine .closed (Or.inl rfl) (by simp [use]) ?_ ?_
      · rw [use, run_stop_session]
        rfl
      · rw [use, run_stop_session, connects_close]
  | acquire device => exact .undisturbed (undisturbed_of_behaves (behaves_readTags device) link)
  | answer p request =>
      exact .undisturbed (undisturbed_of_behaves (Remote.behaves_answer p request) link)
  | update p u => exact .undisturbed (undisturbed_of_behaves (Remote.behaves_update p u) link)
  | prepare preparation => exact .undisturbed ⟨rfl, by simp [use], by simp [use]⟩

/-! ## What every use keeps -/

/-- The state of the link agrees with the connection of its session. -/
structure Agrees (target : Endpoint) (link : Link Memory) : Prop where
  settled : link.state ≠ .connecting
  connected : link.state = .connected → link.session.opened = some target
  stopped : link.state = .stopped → link.session.opened = none

theorem agrees_fresh (target : Endpoint) (session : Memory) (metrics : Metrics) :
    Agrees target (fresh session metrics) where
  settled := by simp [fresh]
  connected := by simp [fresh]
  stopped := by simp [fresh]

theorem Agrees.use (hagrees : Agrees target link) (u : Use) :
    Agrees target (link.use target u) := by
  cases outcome_use target link u with
  | undisturbed hlater =>
      constructor
      · rw [hlater.state]
        exact hagrees.settled
      · rw [hlater.state, hlater.opened]
        exact hagrees.connected
      · rw [hlater.state, hlater.opened]
        exact hagrees.stopped
  | disconnected _ hlater => constructor <;> simp [hlater]
  | connected _ hlater hopened => constructor <;> simp [hlater, hopened]
  | closed _ hlater hopened => constructor <;> simp [hlater, hopened]

theorem Agrees.useAll (hagrees : Agrees target link) (uses : List Use) :
    Agrees target (link.useAll target uses) := by
  induction uses generalizing link with
  | nil => exact hagrees
  | cons u uses ih => exact ih (hagrees.use u)

/-! ## After the stop -/

/-- A stopped link stays stopped, and its session is not connected any more. -/
theorem stopped_use (target : Endpoint) (hstopped : link.state = .stopped) (u : Use) :
    (link.use target u).state = .stopped ∧
      (link.use target u).session.calls.connect = link.session.calls.connect := by
  cases outcome_use target link u with
  | undisturbed hlater => exact ⟨hlater.state.trans hstopped, hlater.connects⟩
  | disconnected hlink => exact absurd hstopped hlink
  | connected hlink => exact absurd hstopped hlink
  | closed _ hlater _ hconnects => exact ⟨hlater, hconnects⟩

theorem connects_useAll (hstopped : link.state = .stopped) (uses : List Use) :
    (link.useAll target uses).session.calls.connect = link.session.calls.connect := by
  induction uses generalizing link with
  | nil => rfl
  | cons u uses ih =>
      obtain ⟨hlater, hconnects⟩ := stopped_use target hstopped u
      exact (ih hlater).trans hconnects

/-- A link that was stopped at some time was not connected since then. -/
theorem exists_stop (hlink : link.state ≠ .stopped) {uses : List Use}
    (hstopped : (link.useAll target uses).state = .stopped) :
    ∃ before after, uses = before ++ .stop :: after ∧ .stop ∉ before ∧
      (link.useAll target uses).session.calls.connect =
        (link.useAll target before).session.calls.connect := by
  induction uses generalizing link with
  | nil => exact absurd hstopped hlink
  | cons u uses ih =>
      -- No use but a stop leaves a link stopped that was not, so the first one that does
      -- is the stop that is looked for.
      by_cases hlater : (link.use target u).state = .stopped
      · cases outcome_use target link u with
        | undisturbed hsame => exact absurd (hsame.state.symm.trans hlater) hlink
        | disconnected _ hstate => simp [hstate] at hlater
        | connected _ hstate => simp [hstate] at hlater
        | closed hstop _ _ hconnects =>
            obtain rfl : u = .stop := hstop.resolve_right hlink
            exact ⟨[], uses, rfl, by simp, (connects_useAll hlater uses).trans hconnects⟩
      · obtain ⟨before, after, rfl, hbefore, hconnects⟩ := ih hlater hstopped
        refine ⟨u :: before, after, rfl, ?_, hconnects⟩
        have hne : u ≠ .stop := by
          rintro rfl
          exact hlater (by simp [use])
        simp [hbefore, hne.symm]

/-- However a link is used, one use after the other: it is never left in the middle of
connecting; where it is connected, its session is open at its target; where it is stopped,
the session is closed, and nobody has tried to connect it since the link was stopped first;
and opening it now succeeds exactly if the link is connected after that. -/
theorem agreement_of_uses (target : Endpoint) (session : Memory) (metrics : Metrics)
    (uses : List Use) :
    let start := fresh session metrics
    let link := start.useAll target uses
    link.state ≠ .connecting ∧
    (link.state = .connected → link.session.opened = some target) ∧
    (link.state = .stopped → link.session.opened = none ∧
      ∃ before after, uses = before ++ .stop :: after ∧ .stop ∉ before ∧
        link.session.calls.connect =
          (start.useAll target before).session.calls.connect) ∧
    ((link.run (connect target)).1 = .ok () ↔
      (start.useAll target (uses ++ [.connect])).state = .connected) := by
  intro start link
  have hagrees : Agrees target link := (agrees_fresh target session metrics).useAll uses
  refine ⟨hagrees.settled, hagrees.connected, ?_, ?_⟩
  · intro hstopped
    exact ⟨hagrees.stopped hstopped, exists_stop (by simp [start, fresh]) hstopped⟩
  · have hnext : start.useAll target (uses ++ [.connect]) = (link.run (connect target)).2 := by
      simp [link, useAll, use]
    rw [hnext]
    exact run_connect_ok_iff link target

/-- A link that is opened and stopped, and then opened in vain. -/
theorem agreement_of_uses_of_stop :
    ((fresh {} {}).useAll ⟨"server", "host"⟩ [.connect]).session.opened =
        some ⟨"server", "host"⟩ ∧
      ((fresh {} {}).useAll ⟨"server", "host"⟩ [.connect, .stop, .connect]).session.opened =
        none := by
  obtain ⟨-, hconnected, -⟩ := agreement_of_uses ⟨"server", "host"⟩ {} {} [.connect]
  obtain ⟨-, -, hstopped, -⟩ :=
    agreement_of_uses ⟨"server", "host"⟩ {} {} [.connect, .stop, .connect]
  exact ⟨hconnected rfl, (hstopped rfl).1⟩

/-- A link that was lost over an open session cannot be opened before it is closed. -/
example :
    let link := (fresh {} {}).useAll ⟨"server", "host"⟩
      [.connect, .markLost .notConnected, .connect]
    link.state = .disconnected ∧ link.session.isOpen = true :=
  ⟨rfl, rfl⟩

end Uses

end Link

end TagRelay
