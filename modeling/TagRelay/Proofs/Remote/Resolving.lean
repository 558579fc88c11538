import TagRelay.Remote.PassThrough

/-!
# Resolving requests

A request is resolved without the session.  Either that gives a plan, which is a read for
the method that reads and a write for every other, or it fails with one of the failures
for which no session is asked.
-/

namespace TagRelay.Remote

namespace Failure

/-- The failures for which no session is asked. -/
def refuses : Failure → Bool
  | .session _ => false
  | _ => true

theorem code_cases (failure : Failure) :
    failure.code = 400 ∨ failure.code = 404 ∨ failure.code = 500 ∨ failure.code = 503 ∨
      failure.code = 504 := by
  cases failure with
  | session cause => cases cause <;> simp [code]
  | deviceNotFound | keyNotMapped | methodNotFound | invalidParams | notConnected => simp [code]

theorem code_of_refuses {failure : Failure} (hrefuses : failure.refuses = true) :
    failure.code = 400 ∨ failure.code = 404 ∨ failure.code = 503 := by
  cases failure <;> simp_all [refuses, code]

theorem code_session (cause : SessionError) :
    (session cause).code = 500 ∨ (session cause).code = 504 := by
  cases cause <;> simp [code]

theorem code_session_eq_504_iff (cause : SessionError) :
    (session cause).code = 504 ↔ ∃ after, cause = .timeout after := by
  cases cause <;> simp [code]

end Failure

/-! ## Resolving -/

/-- The result is as `post` says, or a failure for which no session is asked. -/
def Resolves {α : Type} (post : α → Prop) : Except Failure α → Prop
  | .ok result => post result
  | .error failure => failure.refuses = true

section Resolves

variable {α β : Type}

theorem Resolves.bind {between : α → Prop} {post : β → Prop} {first : Except Failure α}
    {second : α → Except Failure β} (hfirst : Resolves between first)
    (hsecond : ∀ result, between result → Resolves post (second result)) :
    Resolves post (first >>= second) := by
  cases first with
  | ok result => exact hsecond result hfirst
  | error failure => exact hfirst

theorem Resolves.map {post : β → Prop} {first : Except Failure α} {f : α → β}
    (hfirst : Resolves (fun result => post (f result)) first) : Resolves post (first.map f) := by
  cases first with
  | ok result => exact hfirst
  | error failure => exact hfirst

end Resolves

namespace Target

theorem ofObject_resolves (fields : List (String × Json)) :
    Resolves (fun _ => True) (ofObject fields) := by
  rw [ofObject]
  split
  · trivial
  · split
    · trivial
    · exact rfl

theorem ofPairs_resolves (text : String) : Resolves (fun _ => True) (ofPairs text) := by
  rw [ofPairs]
  split
  · trivial
  · exact rfl

theorem ofReadParams_resolves (params : Json) : Resolves (fun _ => True) (ofReadParams params) := by
  cases params with
  | string text =>
      rw [ofReadParams]
      split
      · exact ofPairs_resolves text
      · split
        · exact rfl
        · trivial
  | object fields => exact ofObject_resolves fields
  | null | bool | int | float | array => exact rfl

theorem ofWriteParams_resolves (params : Json) :
    Resolves (fun _ => True) (ofWriteParams params) := by
  cases params with
  | string text =>
      rw [ofWriteParams]
      apply (ofPairs_resolves text).bind
      intro target _
      split
      · trivial
      · exact rfl
  | object fields =>
      rw [ofWriteParams]
      split
      · exact (ofObject_resolves fields).map
      · exact rfl
  | null | bool | int | float | array => exact rfl

theorem resolve_resolves (device : Device) (target : Target) :
    Resolves (fun _ => True) (target.resolve device) := by
  cases target with
  | path | either => trivial
  | key named =>
      rw [resolve]
      split
      · trivial
      · exact rfl

end Target

/-- A plan that fits a method: a read for the method that reads, else a write. -/
def Plan.Fits (plan : Plan) (method : Method) : Prop :=
  (method = .read → ∃ path, plan = .read path) ∧
    (method ≠ .read → ∃ path value answer, plan = .write path value answer)

theorem Plan.fits_read (path : String) : (Plan.read path).Fits .read :=
  ⟨fun _ => ⟨path, rfl⟩, fun hne => absurd rfl hne⟩

theorem Plan.fits_write (path : String) (value answer : Json) {method : Method}
    (hmethod : method ≠ .read) : (Plan.write path value answer).Fits method :=
  ⟨fun hread => absurd hread hmethod, fun _ => ⟨path, value, answer, rfl⟩⟩

namespace PassThrough

theorem device_resolves (p : PassThrough) (name : String) :
    Resolves (fun _ => True) (p.device name) := by
  rw [device]
  split
  · trivial
  · exact rfl

theorem planDeclared_resolves (device : Device) (name called : String) (params : Json) :
    Resolves (fun plan => plan.Fits (.declared name)) (planDeclared device name called params) := by
  rw [planDeclared]
  split
  · exact rfl
  · split
    · split
      · exact Plan.fits_write _ _ _ (by simp)
      · exact rfl
    · exact Plan.fits_write _ _ _ (by simp)

/-- A request is resolved without the session, to a plan that fits its method. -/
theorem plan_resolves (p : PassThrough) (request : Request) :
    Resolves (fun plan => plan.Fits (Method.ofText p.type request.method)) (p.plan request) := by
  apply (device_resolves p request.device).bind
  intro device _
  cases Method.ofText p.type request.method with
  | read =>
      apply (Target.ofReadParams_resolves request.params).bind
      intro target _
      exact (Target.resolve_resolves device target).bind fun path _ => Plan.fits_read path
  | write =>
      apply (Target.ofWriteParams_resolves request.params).bind
      intro written _
      apply (Target.resolve_resolves device written.1).bind
      intro path _
      exact Plan.fits_write path _ _ (by simp)
  | declared name => exact planDeclared_resolves device name request.method request.params

end PassThrough

end TagRelay.Remote
