import TagRelay.Tag.Value

/-!
# Payloads that tags keep

A payload is turned into a tag value when it is written and into a payload again when it
is reported.  The primitive payloads come back as they were, and so does an array of them:
a number has to be finite, and a whole one must not need more than 64 bits.
-/

namespace TagRelay

namespace Json

/-- A payload that a tag keeps as a primitive value. -/
def IsPrimitive : Json → Prop
  | .null | .bool _ | .string _ => True
  | .int number => -(Nat.pow 2 63 : Int) ≤ number ∧ number < Nat.pow 2 63
  | .float number => number.isFinite = true
  | .array _ | .object _ => False

/-- A primitive payload, or an array of such. -/
def IsPlain : Json → Prop
  | .array items => ∀ item ∈ items, item.IsPrimitive
  | other => other.IsPrimitive

end Json

theorem Decimal.fitInt64_of_fits {n : Int} (hlower : -(Nat.pow 2 63 : Int) ≤ n)
    (hupper : n < Nat.pow 2 63) : fitInt64 n = some (Int64.ofInt n) := by
  rw [fitInt64]
  exact if_pos ⟨hlower, hupper⟩

namespace TagValue

theorem itemJson_ofJson {payload : Json} (hprimitive : payload.IsPrimitive) :
    (ofJson payload).itemJson = payload := by
  cases payload with
  | null | bool | string => rfl
  | int number =>
      obtain ⟨hlower, hupper⟩ := hprimitive
      have hsame : (Int64.ofInt number).toInt = number :=
        Int64.toInt_ofInt_of_le hlower hupper
      rw [ofJson, Decimal.fitInt64_of_fits hlower hupper]
      exact congrArg Json.int hsame
  | float number =>
      have hfinite : number.isFinite = true := hprimitive
      simp [ofJson, itemJson, hfinite]
  | array | object => exact hprimitive.elim

theorem toJson_of_primitive {payload : Json} (hprimitive : payload.IsPrimitive) :
    (ofJson payload).toJson = (ofJson payload).itemJson := by
  cases payload with
  | int number =>
      rw [ofJson]
      split <;> rfl
  | null | bool | float | string => rfl
  | array | object => exact hprimitive.elim

theorem map_itemJson_ofJsonItems {items : List Json} (hitems : ∀ item ∈ items, item.IsPrimitive) :
    (ofJsonItems items).map itemJson = items := by
  induction items with
  | nil => rfl
  | cons item rest ih =>
      obtain ⟨hitem, hrest⟩ := List.forall_mem_cons.mp hitems
      rw [ofJsonItems, List.map_cons, itemJson_ofJson hitem, ih hrest]

/-- What is plain is kept. -/
theorem toJson_ofJson {payload : Json} (hplain : payload.IsPlain) :
    (ofJson payload).toJson = payload := by
  cases payload with
  | array items =>
      rw [ofJson, toJson, map_itemJson_ofJsonItems hplain]
  | null | bool | int | float | string | object =>
      refine (toJson_of_primitive ?_).trans (itemJson_ofJson ?_) <;> exact hplain

/-- An array within an array comes back as a text. -/
example : (ofJson (.array [.array [.int 1]])).toJson = .array [.string "[1]"] := by
  simp [ofJson, ofJsonItems, toJson, itemJson, display, displayItems]
  decide

end TagValue

end TagRelay
