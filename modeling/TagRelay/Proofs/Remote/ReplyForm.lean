import TagRelay.Proofs.Json.Written
import TagRelay.Proofs.Remote.Counting

/-!
# The written form of replies

A reply is written without the fields that are absent.  Whoever reads it finds each field as
it was, except for a value that is null: it is written, but a reader takes it for no value.
-/

namespace TagRelay.Remote

namespace Reply

/-- The reply as a reader of its written form finds it: a null value counts as none. -/
def asRead (reply : Reply) : Reply :=
  { reply with value := reply.value.filter fun value => !value.isNull }

theorem asRead_eq_self_iff (reply : Reply) : reply.asRead = reply ↔ reply.value ≠ some .null := by
  obtain ⟨success, value, error, code⟩ := reply
  cases value with
  | none => simp [asRead]
  | some value => cases value <;> simp [asRead, Json.isNull, Option.filter]

/-- The fields that are written. -/
def fields (reply : Reply) : List (String × Json) :=
  [("success", .bool reply.success)] ++ presentField "value" id reply.value ++
    presentField "error" .string reply.error ++ [("code", .int reply.code)]

theorem required_success (reply : Reply) :
    Json.required ["success"] Json.asBool reply.fields = .ok reply.success := by
  obtain ⟨success, value, error, code⟩ := reply
  cases value <;> cases error <;> rfl

theorem optional_value (reply : Reply) :
    Json.optional ["value"] .ok reply.fields = .ok reply.asRead.value := by
  obtain ⟨success, value, error, code⟩ := reply
  cases value with
  | none => cases error <;> rfl
  | some value => cases value <;> cases error <;> rfl

theorem optional_error (reply : Reply) :
    Json.optional ["error"] Json.asString reply.fields = .ok reply.error := by
  obtain ⟨success, value, error, code⟩ := reply
  cases value <;> cases error <;> rfl

theorem required_code (reply : Reply) {limit : Nat} (hcode : reply.code < limit) :
    Json.required ["code"] (Json.asNat limit) reply.fields = .ok reply.code := by
  obtain ⟨success, value, error, code⟩ := reply
  cases value <;> cases error <;> exact Json.asNat_int hcode

/-- A reply whose code fits into its field is read back but for a null value. -/
theorem ofJson_toJson (reply : Reply) (hcode : reply.code < Nat.pow 2 16) :
    ofJson reply.toJson = .ok reply.asRead := by
  simp only [ofJson, Json.bind_eq_ok_iff]
  exact ⟨reply.fields, rfl, _, reply.required_success, _, reply.optional_value,
    _, reply.optional_error, _, reply.required_code hcode, rfl⟩

theorem code_lt_of_mem_codes {code : Nat} (hcode : code ∈ codes) : code < Nat.pow 2 16 := by
  have hall : ∀ code ∈ codes, code < Nat.pow 2 16 := by decide
  exact hall code hcode

end Reply

/-! ## Replies to demands -/

variable {σ : Type} [TagSession σ]

/-- The replies to a demand: one to a request, and one for each key of an update. -/
def Demand.replies (p : PassThrough) (link : Link σ) : Demand → List Reply
  | .request r => [(link.run (p.answer r)).1]
  | .update u =>
      match (link.run (p.update u)).1 with
      | .ok replies => replies.map Prod.snd
      | .error _ => []

theorem Demand.exists_result {p : PassThrough} {link : Link σ} {demand : Demand} {reply : Reply}
    (hreply : reply ∈ demand.replies p link) : ∃ result, reply = .ofResult result := by
  cases demand with
  | request r =>
      obtain rfl := List.mem_singleton.mp hreply
      exact (p.calls_answer r link).1
  | update u =>
      cases hdevice : p.device u.device with
      | error failure =>
          rw [replies, PassThrough.run_update_of_error hdevice] at hreply
          nomatch hreply
      | ok device =>
          rw [replies, PassThrough.run_update_of_ok hdevice] at hreply
          obtain ⟨entry, hentry, rfl⟩ := List.mem_map.mp hreply
          exact (PassThrough.calls_writeAttributes device u.data link).2.1 entry hentry

/-- Whatever the platform asks for, over whatever session and link: each reply is read from its
written form as it was, unless it is a success whose value is null, and then the value alone is
lost. -/
theorem PassThrough.replies_read_back (p : PassThrough) (demand : Demand) (link : Link σ) :
    ∀ reply ∈ demand.replies p link,
      Reply.ofJson reply.toJson = .ok reply.asRead ∧
        (Reply.ofJson reply.toJson = .ok reply ↔ reply.value ≠ some .null) := by
  intro reply hreply
  obtain ⟨result, rfl⟩ := Demand.exists_result hreply
  have hcode := Reply.code_lt_of_mem_codes (Reply.code_mem_codes result)
  have hread := (Reply.ofResult result).ofJson_toJson hcode
  constructor
  · exact hread
  · rw [hread, Except.ok.injEq]
    exact Reply.asRead_eq_self_iff _

/-- The reply to a write of a number is read back. -/
theorem PassThrough.replies_read_back_of_setting :
    let reply := (plantLink.run (plant.answer setting)).1
    reply.code = 200 ∧ reply.value = some (.int 9) ∧ Reply.ofJson reply.toJson = .ok reply := by
  have hvalue : (plantLink.run (plant.answer setting)).1.value = some (.int 9) := rfl
  have hread := plant.replies_read_back (.request setting) plantLink _ (List.mem_singleton_self _)
  refine ⟨rfl, hvalue, hread.2.mpr ?_⟩
  rw [hvalue]
  simp

/-- A request that writes null to a tag. -/
def clearing : Request where
  device := "boiler"
  method := "set"
  params := .object [("tag", .string "boiler.limit"), ("value", .null)]

/-- It succeeds, and its reply is read as one without a value. -/
theorem PassThrough.exists_reply_not_read_back :
    let reply := (plantLink.run (plant.answer clearing)).1
    reply.success = true ∧ reply.code = 200 ∧ reply.value = some .null ∧
      Reply.ofJson reply.toJson = .ok { reply with value := none } ∧
      Reply.ofJson reply.toJson ≠ .ok reply := by
  have hreply : (plantLink.run (plant.answer clearing)).1 = .ok .null := rfl
  have hread : Reply.ofJson (Reply.ok .null).toJson = .ok { Reply.ok .null with value := none } :=
    Reply.ofJson_toJson (.ok .null) (by decide)
  rw [hreply]
  refine ⟨rfl, rfl, rfl, hread, ?_⟩
  rw [hread]
  simp [Reply.ok]

end TagRelay.Remote
