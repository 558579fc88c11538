import TagRelay.Proofs.Pipeline.Parties
import TagRelay.Proofs.Metrics.Tallies

/-!
# The worker's ledger

The worker has at most one reply in hand.  It counts the reply, offers its record to the
sink and counts the record if it was accepted, and only then takes the next one.
-/

namespace TagRelay.Worker

open Routine

/-- How far the worker is with the reply in its hand. -/
inductive Handling where
  | idle
  | taken (reply : Unconverted)
  /-- It was counted as received. -/
  | counted (reply : Unconverted)
  /-- Its record was accepted, and not counted as sent yet. -/
  | accepted

namespace Handling

/-- The record that was not offered yet. -/
def unoffered : Handling → List Record
  | .taken reply | .counted reply => [(convert reply).1]
  | _ => []

/-- How many replies are still to be counted as received. -/
def uncounted : Handling → Nat
  | .taken _ => 1
  | _ => 0

/-- How many replies were counted as received and are neither sent nor refused. -/
def processing : Handling → Nat
  | .counted _ | .accepted => 1
  | _ => 0

end Handling

/-! ## Histories -/

def handlingAfter : Event → Handling → Handling
  | ⟨.receive, some reply⟩, _ => .taken reply
  | ⟨.count .received, _⟩, .taken reply => .counted reply
  | ⟨.send _, true⟩, _ => .accepted
  | ⟨.send _, false⟩, _ => .idle
  | ⟨.count .sent, _⟩, _ => .idle
  | _, handling => handling

/-- What the worker has in hand after a history. -/
def handling (events : List Event) : Handling :=
  events.foldl (fun held e => handlingAfter e held) .idle

def taken? : Event → Option Unconverted
  | ⟨.receive, some reply⟩ => some reply
  | _ => none

/-- The replies that were taken for conversion. -/
def taken (events : List Event) : List Unconverted := events.filterMap taken?

def offered? : Event → Option Record
  | ⟨.send record, _⟩ => some record
  | _ => none

/-- The records that were offered to the sink. -/
def offered (events : List Event) : List Record := events.filterMap offered?

/-- Whether an event counts something of this kind. -/
def counts (kind : Metrics.Event → Bool) : Event → Bool
  | ⟨.count event, _⟩ => kind event
  | _ => false

def isRefusal : Event → Bool
  | ⟨.send _, accepted⟩ => !accepted
  | _ => false

/-- How many records the sink has refused. -/
def refused (events : List Event) : Nat := events.countP isRefusal

/-- The worker has noticed that it gets no more replies. -/
def wasDismissed : Event → Bool
  | ⟨.receive, reply⟩ => reply.isNone
  | _ => false

section Append

variable (events : List Event) (e : Event)

@[simp]
theorem handling_append_one :
    handling (events ++ [e]) = handlingAfter e (handling events) := by
  simp [handling, List.foldl_append]

@[simp]
theorem taken_append_one : taken (events ++ [e]) = taken events ++ (taken? e).toList := by
  cases htaken : taken? e <;> simp [taken, List.filterMap_append, htaken]

@[simp]
theorem offered_append_one :
    offered (events ++ [e]) = offered events ++ (offered? e).toList := by
  cases hoffered : offered? e <;> simp [offered, List.filterMap_append, hoffered]

@[simp]
theorem refused_append_one :
    refused (events ++ [e]) = refused events + (isRefusal e).toNat := by
  cases hrefusal : isRefusal e <;> simp [refused, List.countP_append, hrefusal]

theorem countP_append_one (kind : Metrics.Event → Bool) :
    (events ++ [e]).countP (counts kind) =
      events.countP (counts kind) + (counts kind e).toNat := by
  cases hcounts : counts kind e <;> simp [List.countP_append, hcounts]

end Append

/-! ## Balance -/

/-- Every reply that was taken was offered as a record, in its order, but for the one in
hand, and all of them are in the counts. -/
structure Balanced (events : List Event) : Prop where
  records : offered events ++ (handling events).unoffered =
    (taken events).map fun reply => (convert reply).1
  received : (taken events).length =
    events.countP (counts Metrics.Event.isReceived) + (handling events).uncounted
  sent : events.countP (counts Metrics.Event.isReceived) =
    events.countP (counts Metrics.Event.isSent) + refused events + (handling events).processing

theorem balanced_nil : Balanced [] := ⟨rfl, rfl, rfl⟩

/-- What the worker may do with what it has in hand. -/
def MayHandle : Action → List Event → Prop
  | .receive, past => handling past = .idle
  | .count .received, past => ∃ reply, handling past = .taken reply
  | .count (.conversionFailures _ _), _ => True
  | .count .sent, past => handling past = .accepted
  | .count _, _ => False
  | .send record, past => ∃ reply, handling past = .counted reply ∧ record = (convert reply).1

section Balance

variable {events : List Event}

/-- Whatever the worker may do keeps the balance. -/
theorem Balanced.append_one (hbalanced : Balanced events) {action : Action}
    (hmay : MayHandle action events) (answer : action.Answer) :
    Balanced (events ++ [⟨action, answer⟩]) := by
  have hrecords := hbalanced.records
  have hreceived := hbalanced.received
  have hsent := hbalanced.sent
  cases action with
  | receive =>
      replace hmay : handling events = .idle := hmay
      rw [hmay] at hrecords hreceived hsent
      cases answer with
      | none =>
          constructor
          · simpa [handlingAfter, hmay, taken?, offered?] using hrecords
          · simpa [handlingAfter, hmay, taken?, counts] using hreceived
          · simpa [handlingAfter, hmay, counts, isRefusal] using hsent
      | some reply =>
          constructor
          · simpa [handlingAfter, taken?, offered?, Handling.unoffered] using hrecords
          · simpa [handlingAfter, taken?, counts, Handling.uncounted] using hreceived
          · simpa [handlingAfter, counts, isRefusal, Handling.processing] using hsent
  | count event =>
      cases event with
      | received =>
          obtain ⟨reply, hreply⟩ := hmay
          rw [hreply] at hrecords hreceived hsent
          constructor
          · simpa [handlingAfter, hreply, taken?, offered?, Handling.unoffered] using hrecords
          · simpa [handlingAfter, hreply, taken?, counts, Metrics.Event.isReceived,
              Handling.uncounted] using hreceived
          · simp [handlingAfter, hreply, counts, isRefusal, Metrics.Event.isReceived,
              Metrics.Event.isSent, Handling.processing] at hsent ⊢
            exact hsent
      | sent =>
          replace hmay : handling events = .accepted := hmay
          rw [hmay] at hrecords hreceived hsent
          constructor
          · simpa [handlingAfter, taken?, offered?, Handling.unoffered] using hrecords
          · simpa [handlingAfter, taken?, counts, Metrics.Event.isReceived,
              Handling.uncounted] using hreceived
          · simp [handlingAfter, counts, isRefusal, Metrics.Event.isReceived,
              Metrics.Event.isSent, Handling.processing] at hsent ⊢
            omega
      | conversionFailures device count =>
          have hsame : handlingAfter ⟨.count (.conversionFailures device count), answer⟩
              (handling events) = handling events := by
            cases handling events <;> rfl
          constructor
          · simpa [hsame, taken?, offered?] using hrecords
          · simpa [hsame, taken?, counts, Metrics.Event.isReceived] using hreceived
          · simpa [hsame, counts, isRefusal, Metrics.Event.isReceived, Metrics.Event.isSent]
              using hsent
      | pollCycle | readFailure | call => exact hmay.elim
  | send record =>
      obtain ⟨reply, hreply, rfl⟩ := hmay
      rw [hreply] at hrecords hreceived hsent
      cases answer with
      | true =>
          constructor
          · simpa [handlingAfter, taken?, offered?, Handling.unoffered] using hrecords
          · simpa [handlingAfter, taken?, counts, Handling.uncounted] using hreceived
          · simpa [handlingAfter, counts, isRefusal, Handling.processing] using hsent
      | false =>
          constructor
          · simpa [handlingAfter, taken?, offered?, Handling.unoffered] using hrecords
          · simpa [handlingAfter, taken?, counts, Handling.uncounted] using hreceived
          · simp [handlingAfter, counts, isRefusal, Handling.processing] at hsent ⊢
            omega

end Balance

/-! ## A turn -/

/-- The worker does with what it has in hand only what it may. -/
def ledgerRules : Rules Action.Answer (List Event) := .ofHistory MayHandle

/-- A turn that goes on has nothing left in hand, and one that is the last was dismissed. -/
def Turned : Bool → List Event → Prop
  | true, past => handling past = .idle
  | false, past => ∃ e ∈ past, wasDismissed e = true

section Parts

variable {past : List Event}

theorem handles_act {action : Action} {post : action.Answer → List Event → Prop}
    (hmay : MayHandle action past)
    (hpost : ∀ answer, post answer (past ++ [⟨action, answer⟩])) :
    Obeys ledgerRules post (act action) past := by
  rintro _ rfl
  refine ⟨hmay, ?_⟩
  rintro answer _ rfl
  exact hpost answer

theorem handles_process (reply : Unconverted) (htaken : handling past = .taken reply) :
    Obeys ledgerRules (fun _ now => handling now = .idle) (process reply) past := by
  rw [process, obeys_bind]
  refine handles_act ⟨reply, htaken⟩ ?_
  intro _
  have hcounted : handling (past ++ [⟨.count .received, ()⟩]) = .counted reply := by
    rw [handling_append_one, htaken]
    rfl
  rw [obeys_bind]
  refine handles_act trivial ?_
  intro _
  have hstill : handling (past ++ [⟨.count .received, ()⟩] ++
      [⟨.count (.conversionFailures reply.device.name (convert reply).2), ()⟩]) =
        .counted reply := by
    rw [handling_append_one, hcounted]
    rfl
  rw [obeys_bind]
  refine handles_act ⟨reply, hstill, rfl⟩ ?_
  intro accepted
  cases accepted with
  | true =>
      refine handles_act ?_ fun _ => ?_
      · change handling (_ ++ [_]) = .accepted
        rw [handling_append_one]
        rfl
      · rw [handling_append_one]
        rfl
  | false =>
      change handling (_ ++ [_]) = .idle
      rw [handling_append_one]
      rfl

theorem handles_turn (hidle : handling past = .idle) : Obeys ledgerRules Turned turn past := by
  rw [turn, obeys_bind]
  refine handles_act hidle ?_
  intro reply
  cases reply with
  | none => exact ⟨_, List.mem_append_right past (List.mem_singleton_self _), rfl⟩
  | some reply =>
      refine (obeys_bind _ _ _ _).mpr ((handles_process reply ?_).mono fun _ now hidle => hidle)
      rw [handling_append_one]
      rfl

end Parts

end TagRelay.Worker
