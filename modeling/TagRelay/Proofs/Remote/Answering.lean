import TagRelay.Proofs.Link.Alone
import TagRelay.Proofs.Remote.Resolving

/-!
# What answering a request does

A request is refused before the session is asked, or it makes one call of the session.
The code of the reply tells which: with 400, 404 and 503 the session was not touched, with
200, 500 and 504 it was called once, to read by the method that reads and to write by every
other.
-/

namespace TagRelay.Remote

open Session

/-! ## Plans -/

namespace Plan

/-- The call of the session that a plan makes. -/
def call : Plan → Call
  | .read path => .read [path]
  | .write path value _ => .write path (TagValue.ofJson value)

/-- What the result of the call means for the request. -/
def judge : (plan : Plan) → plan.call.Result → Except Failure Json
  | .read path, .ok readings =>
      match readings.find? fun reading => reading.path = path with
      | some reading => .ok (readAnswer path reading)
      | none => .error (.session (.other ("no reading returned for " ++ path)))
  | .read _, .error cause => .error (.session cause)
  | .write _ _ answer, .ok () => .ok answer
  | .write _ _ _, .error cause => .error (.session cause)

variable {σ : Type} [TagSession σ]

theorem run_perform_of_ne (plan : Plan) {link : Link σ} (hstate : link.state ≠ .connected) :
    link.run plan.perform = (.error .notConnected, link) ∧ link.exchanges plan.perform = [] := by
  simp [perform, Link.act, Routine.perform, Link.perform_look, Link.exchange?, hstate]

theorem run_perform_of_connected (plan : Plan) {link : Link σ} (hstate : link.state = .connected) :
    link.run plan.perform =
        (plan.judge (TagSession.call plan.call link.session).1,
          (link.perform (.call plan.call)).2) ∧
      link.exchanges plan.perform =
        [⟨plan.call, (TagSession.call plan.call link.session).1⟩] := by
  cases plan with
  | read path =>
      cases hresult : (TagSession.call (.read [path]) link.session).1 with
      | error cause =>
          simp [perform, performConnected, readOne, Link.act, Routine.perform, Link.perform_look,
            Link.perform_call_result, Link.exchange?, hstate, call, judge, hresult]
      | ok readings =>
          cases hfound : readings.find? fun reading => reading.path = path <;>
            simp [perform, performConnected, readOne, Link.act, Routine.perform, Link.perform_look,
              Link.perform_call_result, Link.exchange?, hstate, call, judge, hresult, hfound]
  | write path value answer =>
      cases hresult : (TagSession.call (.write path (TagValue.ofJson value)) link.session).1 <;>
        simp [perform, performConnected, Link.act, Routine.perform, Link.perform_look,
          Link.perform_call_result, Link.exchange?, hstate, call, judge, hresult]

/-- A request succeeds only if the call does, and the failure of a call is passed on. -/
theorem judge_cases (plan : Plan) (result : plan.call.Result) :
    ((∃ value, plan.judge result = .ok value) ∧ ∃ success, result = .ok success) ∨
      ∃ cause, plan.judge result = .error (.session cause) ∧
        ∀ limit, cause = .timeout limit ↔ result = .error (.timeout limit) := by
  cases plan with
  | read path =>
      cases result with
      | error cause => exact Or.inr ⟨cause, rfl, by simp⟩
      | ok readings =>
          cases hfound : readings.find? fun reading => reading.path = path with
          | some reading =>
              exact Or.inl ⟨⟨readAnswer path reading, by simp [judge, hfound]⟩, readings, rfl⟩
          | none =>
              refine Or.inr ⟨.other ("no reading returned for " ++ path), ?_, by simp⟩
              simp [judge, hfound]
  | write path value answer =>
      cases result with
      | error cause => exact Or.inr ⟨cause, rfl, by simp⟩
      | ok success => exact Or.inl ⟨⟨answer, rfl⟩, success, rfl⟩

/-- The code of a request that was called is not one of a request that was refused. -/
theorem code_judge (plan : Plan) (result : plan.call.Result) :
    (Reply.ofResult (plan.judge result)).code = 200 ∨
      (Reply.ofResult (plan.judge result)).code = 500 ∨
      (Reply.ofResult (plan.judge result)).code = 504 := by
  rcases plan.judge_cases result with ⟨⟨value, hjudge⟩, -⟩ | ⟨cause, hjudge, -⟩
  · rw [hjudge]
    exact Or.inl rfl
  · rw [hjudge]
    exact Or.inr (Failure.code_session cause)

theorem code_judge_eq_504_iff (plan : Plan) (result : plan.call.Result) :
    (Reply.ofResult (plan.judge result)).code = 504 ↔
      ∃ limit, result = .error (.timeout limit) := by
  rcases plan.judge_cases result with ⟨⟨value, hjudge⟩, success, hresult⟩ | ⟨cause, hjudge, hcause⟩
  · rw [hjudge]
    simp [hresult, Reply.ofResult, Reply.ok]
  · calc (Reply.ofResult (plan.judge result)).code = 504
        ↔ (Failure.session cause).code = 504 := by rw [hjudge]; rfl
      _ ↔ ∃ limit, cause = .timeout limit := Failure.code_session_eq_504_iff cause
      _ ↔ ∃ limit, result = .error (.timeout limit) := exists_congr hcause

end Plan

/-! ## Requests -/

namespace PassThrough

variable {σ : Type} [TagSession σ]

/-- A request that was resolved to a failure is refused. -/
theorem run_answer_of_error {p : PassThrough} {request : Request} {failure : Failure}
    (hplan : p.plan request = .error failure) (link : Link σ) :
    link.run (p.answer request) =
        (.ofFailure failure, link.count (.call (p.countedName request) failure.code)) ∧
      link.exchanges (p.answer request) = [] := by
  constructor
  · simp [answer, hplan, Link.act, Routine.perform, Link.perform, Reply.ofResult, Reply.ofFailure]
  · simp [answer, hplan, Link.act, Routine.perform, Link.exchange?]

/-- A request is refused and leaves the link alone, or makes the call of its plan. -/
theorem run_answer_cases (p : PassThrough) (request : Request) (link : Link σ) :
    (∃ failure, failure.refuses = true ∧
      link.run (p.answer request) =
        (.ofFailure failure, link.count (.call (p.countedName request) failure.code)) ∧
      link.exchanges (p.answer request) = []) ∨
    ∃ plan : Plan, plan.Fits (Method.ofText p.type request.method) ∧
      ∃ reply, reply = Reply.ofResult (plan.judge (TagSession.call plan.call link.session).1) ∧
        link.run (p.answer request) =
          (reply, (link.perform (.call plan.call)).2.count
            (.call (p.countedName request) reply.code)) ∧
        link.exchanges (p.answer request) =
          [⟨plan.call, (TagSession.call plan.call link.session).1⟩] := by
  have hresolves := plan_resolves p request
  cases hplan : p.plan request with
  | error failure =>
      rw [hplan] at hresolves
      exact Or.inl ⟨failure, hresolves, run_answer_of_error hplan link⟩
  | ok plan =>
      rw [hplan] at hresolves
      -- Over a link that is not connected even a good request is refused.
      by_cases hstate : link.state = .connected
      · obtain ⟨hrun, hcalls⟩ := plan.run_perform_of_connected hstate
        refine Or.inr ⟨plan, hresolves, _, rfl, ?_, ?_⟩
        · simp [answer, hplan, Link.act, Routine.perform, hrun, Link.perform]
        · simp [answer, hplan, Link.act, Routine.perform, Link.exchange?, hcalls]
      · obtain ⟨hrun, hcalls⟩ := plan.run_perform_of_ne hstate
        refine Or.inl ⟨.notConnected, rfl, ?_, ?_⟩
        · simp [answer, hplan, Link.act, Routine.perform, hrun, Link.perform, Reply.ofResult,
            Reply.ofFailure]
        · simp [answer, hplan, Link.act, Routine.perform, Link.exchange?, hcalls]

end PassThrough

/-- A reply says the same in each of its fields. -/
structure Reply.Coherent (reply : Reply) : Prop where
  success_iff_code : reply.success = true ↔ reply.code = 200
  success_iff_value : reply.success = true ↔ reply.value.isSome = true
  success_iff_no_error : reply.success = true ↔ reply.error = none
  failure_code : reply.success = false →
    reply.code = 400 ∨ reply.code = 404 ∨ reply.code = 500 ∨ reply.code = 503 ∨ reply.code = 504

theorem Reply.coherent_ofResult (result : Except Failure Json) : (ofResult result).Coherent := by
  cases result with
  | ok value => constructor <;> simp [ofResult, ok]
  | error failure =>
      have hcode : failure.code = 400 ∨ failure.code = 404 ∨ failure.code = 500 ∨
          failure.code = 503 ∨ failure.code = 504 := failure.code_cases
      constructor
      · have hne : failure.code ≠ 200 := by omega
        simp [ofResult, ofFailure, hne]
      · simp [ofResult, ofFailure]
      · simp [ofResult, ofFailure]
      · exact fun _ => hcode

/-- What the reply to a request tells, and what has become of the link. -/
structure Answered {σ : Type} (p : PassThrough) (request : Request) (link : Link σ)
    (reply : Reply) (calls : List Exchange) (after : Link σ) : Prop where
  coherent : reply.Coherent
  /-- These codes say that the session was not asked. -/
  untouched : reply.code = 400 ∨ reply.code = 404 ∨ reply.code = 503 →
    calls = [] ∧ after.session = link.session
  /-- The others say that it was called once: to read by the method that reads, and
  otherwise to write. -/
  read_once : reply.code = 200 ∨ reply.code = 500 ∨ reply.code = 504 →
    Method.ofText p.type request.method = .read →
      ∃ path result, calls = [⟨.read [path], result⟩]
  write_once : reply.code = 200 ∨ reply.code = 500 ∨ reply.code = 504 →
    Method.ofText p.type request.method ≠ .read →
      ∃ path value result, calls = [⟨.write path value, result⟩]
  timed_out : reply.code = 504 ↔ ∃ c limit, calls = [⟨c, .error (.timeout limit)⟩]
  state : after.state = link.state
  metrics : after.metrics =
    { link.metrics with calls := link.metrics.calls.add (p.countedName request, reply.code) 1 }

section Answered

variable {σ : Type} {p : PassThrough} {request : Request} {link : Link σ}

theorem answered_of_refuses {failure : Failure} (hrefuses : failure.refuses = true) :
    Answered p request link (.ofFailure failure) []
      (link.count (.call (p.countedName request) failure.code)) := by
  have hcode : (Reply.ofFailure failure).code = 400 ∨ (Reply.ofFailure failure).code = 404 ∨
      (Reply.ofFailure failure).code = 503 := Failure.code_of_refuses hrefuses
  constructor
  case coherent => exact Reply.coherent_ofResult (.error failure)
  case untouched => exact fun _ => ⟨rfl, rfl⟩
  case read_once | write_once => omega
  case timed_out =>
    have hne : (Reply.ofFailure failure).code ≠ 504 := by omega
    simp [hne]
  case state | metrics => rfl

theorem answered_of_plan [TagSession σ] {plan : Plan}
    (hfits : plan.Fits (Method.ofText p.type request.method)) {reply : Reply}
    (hreply : reply = .ofResult (plan.judge (TagSession.call plan.call link.session).1)) :
    Answered p request link reply [⟨plan.call, (TagSession.call plan.call link.session).1⟩]
      ((link.perform (.call plan.call)).2.count (.call (p.countedName request) reply.code)) := by
  constructor
  case coherent => exact hreply ▸ Reply.coherent_ofResult _
  case untouched =>
    have hcode := hreply ▸ plan.code_judge (TagSession.call plan.call link.session).1
    omega
  case read_once =>
    intro _ hmethod
    obtain ⟨path, rfl⟩ := hfits.1 hmethod
    exact ⟨path, _, rfl⟩
  case write_once =>
    intro _ hmethod
    obtain ⟨path, value, answer, rfl⟩ := hfits.2 hmethod
    exact ⟨path, TagValue.ofJson value, _, rfl⟩
  case timed_out =>
    rw [hreply, plan.code_judge_eq_504_iff]
    constructor
    · rintro ⟨limit, hresult⟩
      exact ⟨plan.call, limit, by rw [hresult]⟩
    · rintro ⟨c, limit, hcalls⟩
      obtain ⟨rfl, hresult⟩ := by simpa using hcalls
      exact ⟨limit, eq_of_heq hresult⟩
  case state | metrics => rfl

end Answered

/-! ## What is stored -/

/-- A request stores something only by a write that succeeds, and then at one path. -/
structure Stored (method : Method) (reply : Reply) (before after : Roster StoredTag) : Prop where
  by_write : after ≠ before → method ≠ .read ∧ reply.code = 200
  at_path : ∃ path, ∀ other, other ≠ path → after.find? other = before.find? other

theorem stored_refl (method : Method) (reply : Reply) (tags : Roster StoredTag) :
    Stored method reply tags tags :=
  ⟨fun hne => absurd rfl hne, "", fun _ _ => rfl⟩

theorem stored_of_plan {plan : Plan} {method : Method} (hfits : plan.Fits method) (m : Memory)
    {reply : Reply} (hreply : reply = .ofResult (plan.judge (m.call plan.call).1)) :
    Stored method reply m.tags (m.call plan.call).2.tags := by
  rcases m.call_tags plan.call with hsame | ⟨path, value, hcall, hresult, htags⟩
  · rw [hsame]
    exact stored_refl method reply m.tags
  · -- Only the plan of a write stores something, and then its call has succeeded.
    cases plan with
    | read path => cases hcall
    | write path value answer =>
        cases hcall
        constructor
        · intro _
          refine ⟨?_, ?_⟩
          · intro hmethod
            obtain ⟨path, hread⟩ := hfits.1 hmethod
            cases hread
          · rw [hreply]
            have hok : (m.call (Plan.write path value answer).call).1 = .ok () := hresult
            rw [hok]
            rfl
        · refine ⟨path, fun other hother => ?_⟩
          rw [htags, Roster.find?_enter_of_ne hother]

/-- However a request is answered, over whatever session and link: its reply is coherent; a
code of 400, 404 or 503 says that the session was left alone, and one of 200, 500 or 504 that
it was called once; and nothing else of the link changes but the count of requests.  A session
in memory counts just these calls, and what it stores changes only by a write that succeeds,
at one path. -/
theorem PassThrough.answered_and_stored (p : PassThrough) (request : Request) :
    (∀ {σ : Type} [TagSession σ] (link : Link σ),
      Answered p request link (link.run (p.answer request)).1
        (link.exchanges (p.answer request)) (link.run (p.answer request)).2) ∧
    ∀ link : Link Memory,
      (link.run (p.answer request)).2.session.calls =
          (link.exchanges (p.answer request)).foldl (fun counts exchange => counts.after exchange.1)
            link.session.calls ∧
        Stored (Method.ofText p.type request.method) (link.run (p.answer request)).1
          link.session.tags (link.run (p.answer request)).2.session.tags := by
  refine ⟨?_, ?_⟩
  · intro σ _ link
    rcases p.run_answer_cases request link with
      ⟨failure, hrefuses, hrun, hcalls⟩ | ⟨plan, hfits, reply, hreply, hrun, hcalls⟩
    · rw [hrun, hcalls]
      exact answered_of_refuses hrefuses
    · rw [hrun, hcalls]
      exact answered_of_plan hfits hreply
  · intro link
    refine ⟨link.calls_run (p.answer request), ?_⟩
    rcases p.run_answer_cases request link with
      ⟨failure, -, hrun, -⟩ | ⟨plan, hfits, reply, hreply, hrun, -⟩
    · rw [hrun]
      exact stored_refl _ _ link.session.tags
    · rw [hrun]
      exact stored_of_plan hfits link.session hreply

/-- A plant with one device, over a session in memory. -/
def plant : PassThrough where
  devices :=
    [("boiler",
      { name := "boiler"
        profile := "default"
        tags := []
        strategy := none
        updates := []
        methods := []
        converter := .standard })]
  type := "opcda"

def plantLink : Link Memory :=
  { session := { opened := some ⟨"server", "host"⟩ }, state := .connected }

/-- A request to write a tag of the device. -/
def setting : Request where
  device := "boiler"
  method := "set"
  params := .object [("tag", .string "boiler.limit"), ("value", .int 9)]

/-- It is answered with 200 and writes once. -/
theorem PassThrough.answered_and_stored_of_setting :
    (plantLink.run (plant.answer setting)).1.code = 200 ∧
      (∃ path value result,
        plantLink.exchanges (plant.answer setting) = [⟨.write path value, result⟩]) ∧
      (plantLink.run (plant.answer setting)).2.state = .connected ∧
      ∃ path, ∀ other, other ≠ path →
        (plantLink.run (plant.answer setting)).2.session.tags.find? other = none := by
  obtain ⟨hanswered, hstored⟩ := PassThrough.answered_and_stored plant setting
  have hcode : (plantLink.run (plant.answer setting)).1.code = 200 := rfl
  exact ⟨hcode, (hanswered plantLink).write_once (Or.inl hcode) (by decide),
    (hanswered plantLink).state, (hstored plantLink).2.at_path⟩

end TagRelay.Remote
