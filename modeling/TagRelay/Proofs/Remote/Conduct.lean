import TagRelay.Proofs.Routine
import TagRelay.Remote.PassThrough

/-!
# The conduct of calls

Whatever the session answers, a call from the platform only looks at the link, reads and
writes, and is counted.  So it cannot move the link, nor open or close the session.
-/

namespace TagRelay.Remote

open Routine

/-- A call from the platform looks at the link, reads and writes, and is counted. -/
def May : Link.Action → Prop
  | .look | .call (.read _) | .call (.write _ _) | .count (.call _ _) => True
  | _ => False

theorem May.ne_connect {c : Session.Call} (hmay : May (.call c)) (target : Endpoint) :
    c ≠ .connect target := by
  rintro rfl
  exact hmay

theorem May.ne_close {c : Session.Call} (hmay : May (.call c)) : c ≠ .close := by
  rintro rfl
  exact hmay

/-- The routine does nothing that a call from the platform may not do. -/
abbrev Behaves {α : Type} (routine : Link.Program α) : Prop := Only May routine

theorem behaves_readOne (path : String) : Behaves (readOne path) := by
  apply only_bind (only_perform trivial)
  intro result
  cases result with
  | error cause => trivial
  | ok readings =>
      dsimp only
      split <;> trivial

theorem behaves_plan (plan : Plan) : Behaves plan.perform := by
  apply only_bind (only_perform trivial)
  intro state
  split
  · cases plan with
    | read path =>
        apply only_bind (behaves_readOne path)
        intro result
        cases result <;> trivial
    | write path value answer =>
        apply only_bind (only_perform trivial)
        intro result
        cases result <;> trivial
  · trivial

theorem behaves_answer (p : PassThrough) (request : Request) : Behaves (p.answer request) := by
  rw [PassThrough.answer]
  split
  · apply only_bind (behaves_plan _)
    intro result
    exact only_bind (only_perform trivial) fun _ => trivial
  · refine only_bind trivial ?_
    intro result
    exact only_bind (only_perform trivial) fun _ => trivial

theorem behaves_writeAttribute (device : Device) (key : String) (value : Json) :
    Behaves (PassThrough.writeAttribute device key value) := by
  rw [PassThrough.writeAttribute]
  split
  · exact behaves_plan _
  · trivial

theorem behaves_writeAttributes (device : Device) (data : List (String × Json)) :
    Behaves (PassThrough.writeAttributes device data) := by
  induction data with
  | nil => trivial
  | cons entry rest ih =>
      apply only_bind (behaves_writeAttribute device entry.1 entry.2)
      intro result
      apply only_bind (only_perform trivial)
      intro _
      exact only_bind ih fun replies => trivial

theorem behaves_update (p : PassThrough) (u : Update) : Behaves (p.update u) := by
  rw [PassThrough.update]
  split
  · exact only_bind (only_perform trivial) fun _ => trivial
  · exact only_bind (behaves_writeAttributes _ _) fun _ => trivial

end TagRelay.Remote
