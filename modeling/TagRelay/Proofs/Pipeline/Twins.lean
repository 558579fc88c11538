import TagRelay.Pipeline.Running
import TagRelay.Proofs.Session.Rejecting

/-!
# Attempts on two links

Two running connectors have links that differ only in what their sessions reject.  If they
agree in all that decides who has the session and what time it is, then whatever their loops
or hosts try on the links, both get it done or both have to wait.
-/

namespace TagRelay

/-- The second link is like the first one, over a session that rejects `extra` as well. -/
structure Link.Beside (extra : List String) (first second : Link Memory) : Prop where
  session : Memory.Rejecting extra first.session second.session
  state : second.state = first.state
  pollCycles : second.metrics.pollCycles = first.metrics.pollCycles

namespace Link.Beside

variable {extra : List String} {first second : Link Memory}

/-- Whatever does not read has one outcome on both links. -/
theorem perform (hbeside : Beside extra first second) {action : Link.Action}
    (hread : ∀ paths, action ≠ .call (.read paths)) :
    (second.perform action).1 = (first.perform action).1 ∧
      Beside extra (first.perform action).2 (second.perform action).2 := by
  obtain ⟨hsession, hstate, hcycles⟩ := hbeside
  cases action with
  | look => exact ⟨hstate, hsession, hstate, hcycles⟩
  | move next =>
      simp only [Link.perform, Link.move, hstate]
      split
      · exact ⟨rfl, hsession, hstate, hcycles⟩
      · exact ⟨rfl, hsession, rfl, hcycles⟩
  | halt => exact ⟨rfl, hsession, rfl, hcycles⟩
  | publish => exact ⟨rfl, hsession, hstate, hcycles⟩
  | count event =>
      refine ⟨rfl, hsession, hstate, ?_⟩
      cases event with
      | conversionFailures device count => cases count <;> exact hcycles
      | pollCycle => exact congrArg (· + 1) hcycles
      | received | sent | readFailure | call => exact hcycles
  | call c =>
      obtain ⟨hresult, hafter⟩ := hsession.call fun paths hc => hread paths (congrArg _ hc)
      exact ⟨hresult, hafter, hstate, hcycles⟩

theorem read (hbeside : Beside extra first second) (paths : List String) :
    Memory.Compared extra paths (first.perform (.call (.read paths))).1
        (second.perform (.call (.read paths))).1 ∧
      Beside extra (first.perform (.call (.read paths))).2
        (second.perform (.call (.read paths))).2 := by
  obtain ⟨hsession, hstate, hcycles⟩ := hbeside
  obtain ⟨hresult, hafter⟩ := hsession.read paths
  exact ⟨hresult, hafter, hstate, hcycles⟩

end Link.Beside

namespace Running

variable {κ : Type}

/-! ## Outcomes of attempts -/

section Outcomes

variable {σ : Type}

/-- The session has gone from one to another. -/
def held (r : Running σ κ) (user : Option User) (line : List User) : Running σ κ :=
  { r with user := user, line := line }

/-- The action was done to the link. -/
def performed [TagSession σ] (r : Running σ κ) (action : Link.Action) (user : Option User)
    (line : List User) : Running σ κ :=
  { r with link := (r.link.perform action).2, user := user, line := line }

theorem release_eq (r : Running σ κ) : r.release = r.held r.line.head? r.line.tail := by
  rcases r with ⟨connector, link, sink, epoch, clock, stopAsked, queue, user, line⟩
  cases line <;> rfl

variable [TagSession σ] (r : Running σ κ)

theorem completeCall_eq (c : Session.Call) :
    r.completeCall c = .answered (r.link.perform (.call c)).1
      (r.performed (.call c) r.line.head? r.line.tail) :=
  congrArg (Attempt.answered _) (release_eq _)

theorem beginCall_eq (user : User) (c : Session.Call) :
    r.beginCall user c =
      if TagSession.delay c r.link.session = 0 then r.completeCall c
      else .waits (.until (r.clock + TagSession.delay c r.link.session))
        (r.held (some user) r.line) := by
  rw [completeCall_eq, beginCall, completeCall_eq]
  rfl

theorem tryCall_eq (user : User) (progress : Progress) (c : Session.Call) :
    r.tryCall user progress c =
      match progress with
      | .fresh =>
          if r.user = none then r.beginCall user c
          else .waits .queued (r.held r.user (r.line ++ [user]))
      | .queued =>
          if r.user = some user then r.beginCall user c
          else .waits .queued (r.held r.user r.line)
      | .until time =>
          if time ≤ r.clock then r.completeCall c
          else .waits (.until time) (r.held r.user r.line) := by
  unfold tryCall
  cases progress with
  | fresh => cases huser : r.user <;> simp [held]
  | queued | «until» => rfl

/-- When a wait is over that has got so far. -/
def Progress.over (clock millis : Nat) : Progress → Nat
  | .until time => time
  | _ => clock + millis

omit [TagSession σ] in
theorem tryPause_eq (progress : Progress) (millis : Nat) :
    r.tryPause progress millis =
      if r.stopAsked then .answered true r
      else if progress.over r.clock millis ≤ r.clock then .answered false r
      else .waits (.until (progress.over r.clock millis)) r := rfl

omit [TagSession σ] in
theorem tryRest_eq (progress : Progress) (millis : Nat) :
    r.tryRest progress millis =
      if progress.over r.clock millis ≤ r.clock then .answered () r
      else .waits (.until (progress.over r.clock millis)) r := rfl

end Outcomes

/-! ## Attempts in two runs -/

/-- What attempts depend on, apart from the link. -/
structure Core where
  connector : Connector
  epoch : Int
  clock : Nat
  stopAsked : Bool
  user : Option User
  line : List User
  progress : Progress

def core {σ : Type} (r : Running σ κ) : Core :=
  ⟨r.connector, r.epoch, r.clock, r.stopAsked, r.user, r.line, r.loopProgress⟩

/-- Two attempts of the same action on the link have the same outcome, apart from what the
links answer. -/
inductive Tried (r s : Running Memory κ) (action : Link.Action) :
    Attempt Memory κ action.Answer → Attempt Memory κ action.Answer → Prop
  | performed (user : Option User) (line : List User) :
      Tried r s action (.answered (r.link.perform action).1 (r.performed action user line))
        (.answered (s.link.perform action).1 (s.performed action user line))
  | waits (progress : Progress) (user : Option User) (line : List User) :
      Tried r s action (.waits progress (r.held user line))
        (.waits progress (s.held user line))

section Attempts

variable {extra : List String} {r s : Running Memory κ}

theorem Tried.outcomes {action : Link.Action} {attempt attempt' : Attempt Memory κ action.Answer}
    (htried : Tried r s action attempt attempt') :
    (∃ user line, attempt = .answered (r.link.perform action).1 (r.performed action user line) ∧
        attempt' = .answered (s.link.perform action).1 (s.performed action user line)) ∨
      ∃ progress user line, attempt = .waits progress (r.held user line) ∧
        attempt' = .waits progress (s.held user line) := by
  cases htried with
  | performed user line => exact Or.inl ⟨user, line, rfl, rfl⟩
  | waits progress user line => exact Or.inr ⟨progress, user, line, rfl, rfl⟩

theorem tried_completeCall (hcore : s.core = r.core) (c : Session.Call) :
    Tried r s (.call c) (r.completeCall c) (s.completeCall c) := by
  have hline : s.line = r.line := congrArg Core.line hcore
  rw [completeCall_eq, completeCall_eq, hline]
  exact .performed r.line.head? r.line.tail

theorem tried_beginCall (hcore : s.core = r.core) (hbeside : Link.Beside extra r.link s.link)
    (user : User) (c : Session.Call) :
    Tried r s (.call c) (r.beginCall user c) (s.beginCall user c) := by
  have hline : s.line = r.line := congrArg Core.line hcore
  have hclock : s.clock = r.clock := congrArg Core.clock hcore
  have hdelay : TagSession.delay c s.link.session = TagSession.delay c r.link.session :=
    hbeside.session.delay c
  rw [beginCall_eq, beginCall_eq, hline, hclock, hdelay]
  split
  · exact tried_completeCall hcore c
  · exact .waits _ (some user) r.line

theorem tried_tryCall (hcore : s.core = r.core) (hbeside : Link.Beside extra r.link s.link)
    (user : User) (progress : Progress) (c : Session.Call) :
    Tried r s (.call c) (r.tryCall user progress c) (s.tryCall user progress c) := by
  have huser : s.user = r.user := congrArg Core.user hcore
  have hline : s.line = r.line := congrArg Core.line hcore
  have hclock : s.clock = r.clock := congrArg Core.clock hcore
  rw [tryCall_eq, tryCall_eq, huser, hline, hclock]
  cases progress with
  | fresh | queued =>
      dsimp only
      split
      · exact tried_beginCall hcore hbeside user c
      · exact .waits .queued r.user _
  | «until» time =>
      dsimp only
      split
      · exact tried_completeCall hcore c
      · exact .waits (.until time) r.user r.line

/-- Whatever is tried on the link, both runs let it through or make it wait. -/
theorem tried_tryLink (hcore : s.core = r.core) (hbeside : Link.Beside extra r.link s.link)
    (user : User) (progress : Progress) (action : Link.Action) :
    Tried r s action (r.tryLink user progress action) (s.tryLink user progress action) := by
  have huser : s.user = r.user := congrArg Core.user hcore
  have hline : s.line = r.line := congrArg Core.line hcore
  have hnow : ∀ action : Link.Action, Tried r s action (r.linkNow action) (s.linkNow action) := by
    intro action
    have hperformed : Tried r s action (r.linkNow action) _ := .performed r.user r.line
    have hsame : s.performed action r.user r.line =
        { s with link := (s.link.perform action).2 } := by
      rw [performed, ← huser, ← hline]
    rw [hsame] at hperformed
    exact hperformed
  cases action with
  | call c => exact tried_tryCall hcore hbeside user progress c
  | look | move | halt | publish | count => exact hnow _

end Attempts

end Running

end TagRelay
