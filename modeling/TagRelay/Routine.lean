/-!
# Routines

A routine is a program of single actions: it is finished, or it performs an action and
goes on with the answer.  What the actions do is not part of it, so one routine can be
performed by itself from start to end, or action by action between the actions of
others.
-/

namespace TagRelay

inductive Routine {Action : Type} (Answer : Action → Type) (α : Type) where
  | done (result : α)
  | act (action : Action) (next : Answer action → Routine Answer α)

namespace Routine

variable {Action : Type} {Answer : Action → Type} {α β : Type}

protected def bind (routine : Routine Answer α) (f : α → Routine Answer β) :
    Routine Answer β :=
  match routine with
  | .done result => f result
  | .act action next => .act action fun answer => (next answer).bind f

instance : Monad (Routine Answer) where
  pure := .done
  bind := Routine.bind

/-- The routine of one action, whose result is the answer to it. -/
def perform (action : Action) : Routine Answer (Answer action) := .act action .done

/-- A routine whose actions are some of those of another kind, as a routine of that
kind. -/
def through {Part : Type} (embed : Part → Action) :
    Routine (fun part => Answer (embed part)) α → Routine Answer α
  | .done result => .done result
  | .act part next => .act (embed part) fun answer => (next answer).through embed

/-- Performs all actions one after the other. -/
def run {σ : Type} (step : (action : Action) → σ → Answer action × σ) :
    Routine Answer α → σ → α × σ
  | .done result, state => (result, state)
  | .act action next, state =>
      let (answer, state) := step action state
      (next answer).run step state

end Routine

end TagRelay
