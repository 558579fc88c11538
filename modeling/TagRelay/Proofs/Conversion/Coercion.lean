import TagRelay.Conversion.Converter
import TagRelay.Proofs.Decimal.Whole
import TagRelay.Proofs.Json.Compact
import TagRelay.Proofs.Tag.Payload

/-!
# Values of a declared type

Coercion brings a value to the declared type or fails, and then the tag is reported as one
without a type.  The values of a type are those that coercion to it leaves as they are.  Whole
numbers and truth values survive the way through their text, with any blanks around it.
-/

namespace TagRelay

theorem Decimal.readInt64_wholeText (n : Int64) : readInt64 (wholeText n.toInt) = some n := by
  have hlower : -(Nat.pow 2 63 : Int) ≤ n.toInt := Int64.le_toInt n
  have hupper : n.toInt < Nat.pow 2 63 := Int64.toInt_lt n
  rw [readInt64, readWhole_wholeText, Option.bind_some, fitInt64_of_fits hlower hupper,
    Int64.ofInt_toInt]

namespace TagValue

/-- The values of a type. -/
inductive IsOf : Config.ValueType → TagValue → Prop
  | int (number : Int64) : IsOf .int (.int number)
  | double (number : Float) : IsOf .double (.float number)
  | float (number : Float) : IsOf .float (.float number)
  | string (text : String) : IsOf .string (.text text)
  | bool (flag : Bool) : IsOf .bool (.bool flag)

/-- The values that neither are numbers, truth values or texts nor stand for one. -/
inductive IsOpaque : TagValue → Prop
  | null : IsOpaque .null
  | timestamp (instant : Calendar.Instant) : IsOpaque (.timestamp instant)
  | binary (bytes : List UInt8) : IsOpaque (.binary bytes)
  | array (items : List TagValue) : IsOpaque (.array items)
  | foreign (text : String) : IsOpaque (.foreign text)

variable {type : Config.ValueType} {value coerced : TagValue}

theorem isOf_of_coerce (hcoerce : value.coerce type = some coerced) : IsOf type coerced := by
  cases type <;> obtain ⟨part, -, rfl⟩ := Option.map_eq_some_iff.mp hcoerce <;> constructor

theorem coerce_of_isOf (hvalue : IsOf type value) : value.coerce type = some value := by
  cases hvalue <;> rfl

/-- Coercion leaves the values of the type as they are, and no other. -/
theorem coerce_eq_self_iff : value.coerce type = some value ↔ IsOf type value :=
  ⟨isOf_of_coerce, coerce_of_isOf⟩

theorem coerce_string_eq_none_iff : value.coerce .string = none ↔ value = .null := by
  cases value <;> simp [coerce, toText?]

theorem coerce_int_of_isOpaque (hvalue : IsOpaque value) : value.coerce .int = none := by
  cases hvalue <;> rfl

theorem coerce_bool_of_isOpaque (hvalue : IsOpaque value) : value.coerce .bool = none := by
  cases hvalue <;> rfl

/-! ## Through a text and back -/

theorem coerce_int_of_wholeText {before after : String} (hbefore : Text.isMissing before = true)
    (hafter : Text.isMissing after = true) (number : Int64) :
    (text (before ++ Decimal.wholeText number.toInt ++ after)).coerce .int =
      some (.int number) := by
  have htrim := Text.trim_around hbefore (Decimal.solid_wholeText number.toInt) hafter
  rw [coerce, toInt?, htrim, Decimal.readInt64_wholeText]
  rfl

theorem coerce_bool_of_flagText {before after : String} (hbefore : Text.isMissing before = true)
    (hafter : Text.isMissing after = true) (flag : Bool) :
    (text (before ++ (bool flag).display ++ after)).coerce .bool = some (.bool flag) := by
  have hsolid : Text.Solid (bool flag).display.toList := by
    cases flag <;> exact Decimal.Visible.solid (by decide) (by decide)
  rw [coerce, toBool?, Text.trim_around hbefore hsolid hafter]
  cases flag <;> rfl

/-- A value that is coerced to a text, and that text, with blanks around it, back to the type. -/
def Survives (type : Config.ValueType) (value : TagValue) : Prop :=
  ∃ written, value.coerce .string = some (.text written) ∧
    ∀ before after, Text.isMissing before = true → Text.isMissing after = true →
      (text (before ++ written ++ after)).coerce type = some value

theorem survives_int (number : Int64) : Survives .int (.int number) :=
  ⟨_, rfl, fun _ _ hbefore hafter => coerce_int_of_wholeText hbefore hafter number⟩

theorem survives_bool (flag : Bool) : Survives .bool (.bool flag) :=
  ⟨_, rfl, fun _ _ hbefore hafter => coerce_bool_of_flagText hbefore hafter flag⟩

end TagValue

namespace Conversion

open TagValue

/-- The tag as it would be without a declared type. -/
def untyped (tag : Tag) : Tag := { tag with valueType := none }

theorem reportedValue_untyped {tag : Tag} {type : Config.ValueType}
    (htag : tag.valueType = some type) {reading : Reading}
    (hfails : reading.value.coerce type = none) :
    reportedValue tag reading = reportedValue (untyped tag) reading := by
  have hkept : trustedValue tag reading.value = reading.value := by
    simp [trustedValue, htag, hfails]
  rw [reportedValue, reportedValue, hkept]
  rfl

/-- Neither the key nor the time of an entry depends on the type. -/
theorem entry_untyped {tag : Tag} {type : Config.ValueType} (htag : tag.valueType = some type)
    {reading : Reading} (hfails : reading.value.coerce type = none) (u : Uplink)
    (acquiredAt : Int) :
    entry u tag reading acquiredAt = entry u (untyped tag) reading acquiredAt := by
  rw [entry, entry, reportedValue_untyped htag hfails]
  rfl

/-- What comes of coercing a value to the declared type of a tag. -/
inductive Coerced (type : Config.ValueType) (value : TagValue) : Prop
  | kept (hfails : value.coerce type = none)
      (hentry : ∀ (u : Uplink) (tag : Tag) (reading : Reading) (acquiredAt : Int),
        tag.valueType = some type → reading.value = value → reading.quality = .good →
          entry u tag reading acquiredAt = entry u (untyped tag) reading acquiredAt ∧
          (entry u tag reading acquiredAt).value = value.toJson)
  | brought (coerced : TagValue) (hcoerce : value.coerce type = some coerced)
      (htype : IsOf type coerced) (hagain : coerced.coerce type = some coerced)
      (hentry : ∀ (u : Uplink) (tag : Tag) (reading : Reading) (acquiredAt : Int),
        tag.valueType = some type → reading.value = value → reading.quality = .good →
          (entry u tag reading acquiredAt).value = coerced.toJson)

theorem reportedValue_of_good {tag : Tag} {type : Config.ValueType}
    (htag : tag.valueType = some type) {reading : Reading} (hgood : reading.quality = .good) :
    reportedValue tag reading = ((reading.value.coerce type).getD reading.value).toJson := by
  have htrusted : reading.quality.isGood = true := by simp [hgood, Quality.isGood]
  rw [reportedValue, if_pos htrusted, trustedValue, htag]

theorem coerced (type : Config.ValueType) (value : TagValue) : Coerced type value := by
  cases hcoerce : value.coerce type with
  | none =>
      apply Coerced.kept hcoerce
      rintro u tag reading acquiredAt htag rfl hgood
      refine ⟨entry_untyped htag hcoerce u acquiredAt, ?_⟩
      exact (reportedValue_of_good htag hgood).trans (by rw [hcoerce, Option.getD_none])
  | some coerced =>
      have htype := isOf_of_coerce hcoerce
      apply Coerced.brought coerced hcoerce htype (coerce_of_isOf htype)
      rintro u tag reading acquiredAt htag rfl hgood
      exact (reportedValue_of_good htag hgood).trans (by rw [hcoerce, Option.getD_some])

/-- A value that is coerced to a declared type becomes one of that type, which coercion then leaves
as it is, or it is reported as by a tag without a type.  Every whole number and every truth value
survives the way through its text.  Only null has no text, and what is opaque is never brought to
a number or a truth value. -/
theorem coerced_by_type :
    (∀ (type : Config.ValueType) (value : TagValue), Coerced type value) ∧
    (∀ number : Int64, Survives .int (.int number)) ∧
    (∀ flag : Bool, Survives .bool (.bool flag)) ∧
    (∀ value : TagValue, value.coerce .string = none ↔ value = .null) ∧
    ∀ value : TagValue, IsOpaque value → value.coerce .int = none ∧ value.coerce .bool = none := by
  refine ⟨coerced, survives_int, survives_bool, fun _ => coerce_string_eq_none_iff, ?_⟩
  intro value hvalue
  exact ⟨coerce_int_of_isOpaque hvalue, coerce_bool_of_isOpaque hvalue⟩

/-- The least number comes back from its text between a blank and the end of a line, and an array
of numbers is no number. -/
theorem coerced_by_type_of_least :
    (TagValue.text " -9223372036854775808\n").coerce .int = some (.int Int64.minValue) ∧
      (TagValue.array [.int 1]).coerce .int = none := by
  obtain ⟨-, hnumber, -, -, hforeign⟩ := coerced_by_type
  obtain ⟨written, hwritten, hback⟩ := hnumber Int64.minValue
  have htext : (TagValue.int Int64.minValue).coerce .string =
      some (.text "-9223372036854775808") := by rfl
  obtain rfl : "-9223372036854775808" = written := by simpa [htext] using hwritten
  exact ⟨hback " " "\n" rfl rfl, (hforeign _ (.array _)).1⟩

end Conversion

end TagRelay
