import TagRelay.Proofs.Tag.Payload

/-!
# Values that keep their form

A value that is reported and written back may have changed its form: an instant, a byte
string and a value without a counterpart become texts, and so do an array within an array
and a number that is not finite.  What comes back is plain, and the plain values are just
those that stay as they are.  The same holds of payloads, from the other side: they stay as
they are exactly where no tag has to turn them into something else.
-/

namespace TagRelay

/-! ## Payloads -/

namespace Json

mutual

/-- A payload and everything inside it. -/
def parts : Json → List Json
  | .array items => .array items :: partsOfItems items
  | .object fields => .object fields :: partsOfFields fields
  | other => [other]

def partsOfItems : List Json → List Json
  | [] => []
  | item :: rest => parts item ++ partsOfItems rest

def partsOfFields : List (String × Json) → List Json
  | [] => []
  | (_, value) :: rest => parts value ++ partsOfFields rest

end

/-- A payload without objects, without arrays inside arrays and without numbers that are not
finite. -/
structure Flat (payload : Json) : Prop where
  no_object : ∀ fields, .object fields ∉ payload.parts
  no_nesting : ∀ items, .array items ∈ payload.parts → ∀ item ∈ items, ∀ inner, item ≠ .array inner
  finite : ∀ number, .float number ∈ payload.parts → number.isFinite = true

theorem IsPrimitive.parts_eq {payload : Json} (hprimitive : payload.IsPrimitive) :
    payload.parts = [payload] := by
  cases payload with
  | null | bool | int | float | string => rfl
  | array | object => exact hprimitive.elim

theorem partsOfItems_of_primitive {items : List Json} (hitems : ∀ item ∈ items, item.IsPrimitive) :
    partsOfItems items = items := by
  induction items with
  | nil => rfl
  | cons item rest ih =>
      obtain ⟨hitem, hrest⟩ := List.forall_mem_cons.mp hitems
      rw [partsOfItems, hitem.parts_eq, ih hrest]
      rfl

theorem isPlain_iff {payload : Json} :
    payload.IsPlain ↔ payload.IsPrimitive ∨
      ∃ items, payload = .array items ∧ ∀ item ∈ items, item.IsPrimitive := by
  cases payload with
  | array items => simp [IsPlain, IsPrimitive]
  | null | bool | int | float | string | object => simp [IsPlain]

/-- What is inside a plain payload is primitive, but for the payload itself. -/
theorem IsPlain.mem_parts {payload part : Json} (hplain : payload.IsPlain)
    (hpart : part ∈ payload.parts) : part = payload ∨ part.IsPrimitive := by
  rcases isPlain_iff.mp hplain with hprimitive | ⟨items, rfl, hitems⟩
  · rw [hprimitive.parts_eq] at hpart
    exact Or.inl (List.mem_singleton.mp hpart)
  · rw [parts, partsOfItems_of_primitive hitems] at hpart
    exact (List.mem_cons.mp hpart).imp_right (hitems part)

theorem IsPlain.flat {payload : Json} (hplain : payload.IsPlain) : payload.Flat := by
  constructor
  · intro fields hpart
    rcases hplain.mem_parts hpart with rfl | hprimitive
    · exact hplain
    · exact hprimitive
  · rintro items hpart item hitem inner rfl
    rcases hplain.mem_parts hpart with rfl | hprimitive
    · exact hplain _ hitem
    · exact hprimitive
  · intro number hpart
    rcases hplain.mem_parts hpart with rfl | hprimitive
    · exact hplain
    · exact hprimitive

end Json

namespace TagValue

/-! ## Values -/

/-- A primitive value that has a form of its own in a payload. -/
def IsKept : TagValue → Prop
  | .null | .bool _ | .int _ | .text _ => True
  | .float number => number.isFinite = true
  | .timestamp _ | .binary _ | .array _ | .foreign _ => False

/-- Such a value, or an array of such. -/
def IsPlain : TagValue → Prop
  | .array items => ∀ item ∈ items, item.IsKept
  | other => other.IsKept

/-- What is written back after it was reported. -/
def rewritten (v : TagValue) : TagValue := ofJson v.toJson

/-! ## Reporting -/

theorem itemJson_isPrimitive (v : TagValue) : v.itemJson.IsPrimitive := by
  cases v with
  | int number => exact ⟨number.le_toInt, number.toInt_lt⟩
  | float number =>
      rw [itemJson]
      split
      · rename_i hfinite
        exact hfinite
      · trivial
  | null | bool | text | timestamp | binary | array | foreign => trivial

/-- Only an array is reported otherwise than an item of an array. -/
theorem toJson_cases (v : TagValue) :
    v.toJson = v.itemJson ∨ ∃ items, v = .array items := by
  cases v with
  | array items => exact Or.inr ⟨items, rfl⟩
  | null | bool | int | float | text | timestamp | binary | foreign => exact Or.inl rfl

/-- Every value is reported as a plain payload. -/
theorem toJson_isPlain (v : TagValue) : v.toJson.IsPlain := by
  rcases v.toJson_cases with hsame | ⟨items, rfl⟩
  · rw [hsame]
    exact Json.isPlain_iff.mpr (Or.inl v.itemJson_isPrimitive)
  · intro payload hpayload
    obtain ⟨item, -, rfl⟩ := List.mem_map.mp hpayload
    exact item.itemJson_isPrimitive

/-! ## Writing -/

theorem isPlain_iff {v : TagValue} :
    v.IsPlain ↔ v.IsKept ∨ ∃ items, v = .array items ∧ ∀ item ∈ items, item.IsKept := by
  cases v with
  | array items => simp [IsPlain, IsKept]
  | null | bool | int | float | text | timestamp | binary | foreign => simp [IsPlain]

theorem ofJson_isKept {payload : Json} (hprimitive : payload.IsPrimitive) :
    (ofJson payload).IsKept := by
  cases payload with
  | int number =>
      rw [ofJson, Decimal.fitInt64_of_fits hprimitive.1 hprimitive.2]
      trivial
  | float number => exact hprimitive
  | null | bool | string => trivial
  | array | object => exact hprimitive.elim

theorem isKept_of_mem_ofJsonItems {items : List Json} (hitems : ∀ item ∈ items, item.IsPrimitive) :
    ∀ v ∈ ofJsonItems items, v.IsKept := by
  induction items with
  | nil => simp [ofJsonItems]
  | cons item rest ih =>
      obtain ⟨hitem, hrest⟩ := List.forall_mem_cons.mp hitems
      rw [ofJsonItems]
      exact List.forall_mem_cons.mpr ⟨ofJson_isKept hitem, ih hrest⟩

/-- What is written from a plain payload is plain. -/
theorem ofJson_isPlain {payload : Json} (hplain : payload.IsPlain) : (ofJson payload).IsPlain := by
  rcases Json.isPlain_iff.mp hplain with hprimitive | ⟨items, rfl, hitems⟩
  · exact isPlain_iff.mpr (Or.inl (ofJson_isKept hprimitive))
  · rw [ofJson]
    exact isKept_of_mem_ofJsonItems hitems

theorem ofJson_itemJson {v : TagValue} (hkept : v.IsKept) : ofJson v.itemJson = v := by
  cases v with
  | int number =>
      rw [itemJson, ofJson, Decimal.fitInt64_of_fits number.le_toInt number.toInt_lt]
      exact congrArg TagValue.int (Int64.ofInt_toInt number)
  | float number =>
      have hfinite : number.isFinite = true := hkept
      simp [itemJson, hfinite, ofJson]
  | null | bool | text => rfl
  | timestamp | binary | array | foreign => exact hkept.elim

theorem ofJsonItems_map_itemJson {items : List TagValue} (hitems : ∀ item ∈ items, item.IsKept) :
    ofJsonItems (items.map itemJson) = items := by
  induction items with
  | nil => rfl
  | cons item rest ih =>
      obtain ⟨hitem, hrest⟩ := List.forall_mem_cons.mp hitems
      rw [List.map_cons, ofJsonItems, ofJson_itemJson hitem, ih hrest]

/-- A plain value stays as it is. -/
theorem rewritten_of_plain {v : TagValue} (hplain : v.IsPlain) : v.rewritten = v := by
  rw [rewritten]
  rcases isPlain_iff.mp hplain with hkept | ⟨items, rfl, hitems⟩
  · have hsame : v.toJson = v.itemJson := by
      refine v.toJson_cases.resolve_right ?_
      rintro ⟨items, rfl⟩
      exact hkept
    rw [hsame, ofJson_itemJson hkept]
  · rw [toJson, ofJson, ofJsonItems_map_itemJson hitems]

/-- Whatever was written back is plain. -/
theorem rewritten_isPlain (v : TagValue) : v.rewritten.IsPlain :=
  ofJson_isPlain v.toJson_isPlain

/-! ## Equality of contents -/

/-- A finite number is equal to itself, and to no number that is not finite. -/
theorem finite_beq {x y : Float} (hfinite : x.isFinite = true) :
    (x == x) = true ∧ ((x == y) = true → y.isFinite = true) := by
  change x.toModel.unpack.isFinite = true at hfinite
  change x.toModel.unpack.beq x.toModel.unpack = true ∧
    (x.toModel.unpack.beq y.toModel.unpack = true → y.toModel.unpack.isFinite = true)
  generalize x.toModel.unpack = a, y.toModel.unpack = b at hfinite ⊢
  cases a with
  | infinity | notANumber => cases hfinite
  | zero sign =>
      refine ⟨rfl, ?_⟩
      intro heq
      cases b with
      | infinity sign' => cases sign' <;> cases heq
      | notANumber => cases heq
      | zero | finite => rfl
  | finite sign mantissa exponent hpos =>
      constructor
      · have hsame : (compare exponent exponent).then (compare mantissa mantissa) = .eq := by
          simp
        cases sign with
        | positive =>
            change (some ((compare exponent exponent).then (compare mantissa mantissa)) ==
              some Ordering.eq) = true
            rw [hsame]
            rfl
        | negative =>
            change (some ((compare exponent exponent).then (compare mantissa mantissa)).swap ==
              some Ordering.eq) = true
            rw [hsame]
            rfl
      · intro heq
        cases b with
        | infinity sign' => cases sign <;> cases sign' <;> cases heq
        | notANumber => cases sign <;> cases heq
        | zero | finite => rfl

theorem same_self_of_kept {v : TagValue} (hkept : v.IsKept) : same v v = true := by
  cases v with
  | float number => exact (finite_beq (y := number) hkept).1
  | null => rfl
  | bool | int | text => exact beq_self_eq_true _
  | timestamp | binary | array | foreign => exact hkept.elim

theorem sameItems_self_of_kept {items : List TagValue} (hitems : ∀ item ∈ items, item.IsKept) :
    sameItems items items = true := by
  induction items with
  | nil => rfl
  | cons item rest ih =>
      obtain ⟨hitem, hrest⟩ := List.forall_mem_cons.mp hitems
      rw [sameItems, same_self_of_kept hitem, ih hrest]
      rfl

theorem same_self_of_plain {v : TagValue} (hplain : v.IsPlain) : same v v = true := by
  rcases isPlain_iff.mp hplain with hkept | ⟨items, rfl, hitems⟩
  · exact same_self_of_kept hkept
  · exact sameItems_self_of_kept hitems

/-- What has the same contents as a primitive value that is kept is one, too. -/
theorem isKept_of_same {v w : TagValue} (hkept : v.IsKept) (hsame : same v w = true) :
    w.IsKept := by
  cases v with
  | float number =>
      cases w with
      | float other => exact (finite_beq hkept).2 hsame
      | null | bool | int | text | timestamp | binary | array | foreign => cases hsame
  | null | bool | int | text =>
      cases w with
      | null | bool | int | text => trivial
      | float | timestamp | binary | array | foreign => cases hsame
  | timestamp | binary | array | foreign => exact hkept.elim

theorem isKept_of_sameItems {items others : List TagValue} (hitems : ∀ item ∈ items, item.IsKept)
    (hsame : sameItems items others = true) : ∀ item ∈ others, item.IsKept := by
  induction items generalizing others with
  | nil =>
      cases others with
      | nil => simp
      | cons other rest => cases hsame
  | cons item rest ih =>
      cases others with
      | nil => cases hsame
      | cons other rest' =>
          obtain ⟨hitem, hrest⟩ := List.forall_mem_cons.mp hitems
          obtain ⟨hfirst, hlater⟩ := Bool.and_eq_true_iff.mp hsame
          exact List.forall_mem_cons.mpr ⟨isKept_of_same hitem hfirst, ih hrest hlater⟩

theorem isPlain_of_same {v w : TagValue} (hplain : v.IsPlain) (hsame : same v w = true) :
    w.IsPlain := by
  rcases isPlain_iff.mp hplain with hkept | ⟨items, rfl, hitems⟩
  · exact isPlain_iff.mpr (Or.inl (isKept_of_same hkept hsame))
  · cases w with
    | array others => exact isKept_of_sameItems hitems hsame
    | null | bool | int | float | text | timestamp | binary | foreign => cases hsame

/-! ## Normal forms -/

/-- A value that was reported and written back is equal to what it was, by its contents and
altogether, exactly where it is plain, and after once it stays as it is.  What is reported
holds no object, no array inside an array and no number that is not finite.  A payload that was
written and reported again stays as it is after once, too, and is what it was exactly where
it is plain. -/
theorem normal_forms :
    (∀ v : TagValue, (same v.rewritten v = true ↔ v.IsPlain) ∧ (v.rewritten = v ↔ v.IsPlain) ∧
      v.rewritten.rewritten = v.rewritten ∧ v.toJson.Flat) ∧
    ∀ payload : Json, (ofJson (ofJson payload).toJson).toJson = (ofJson payload).toJson ∧
      ((ofJson payload).toJson = payload ↔ payload.IsPlain) := by
  constructor
  · intro v
    have hplain := v.rewritten_isPlain
    refine ⟨⟨isPlain_of_same hplain, ?_⟩, ⟨?_, rewritten_of_plain⟩, rewritten_of_plain hplain,
      v.toJson_isPlain.flat⟩
    · intro hv
      rw [rewritten_of_plain hv]
      exact same_self_of_plain hv
    · exact fun hsame => hsame ▸ hplain
  · intro payload
    have hplain := (ofJson payload).toJson_isPlain
    refine ⟨toJson_ofJson hplain, ?_, toJson_ofJson⟩
    exact fun hsame => hsame ▸ hplain

/-- An array within an array comes back as a text, beside an item that is kept. -/
example : rewritten (.array [.array [.int 1], .null]) = .array [.text "[1]", .null] := by rfl

end TagValue

end TagRelay
