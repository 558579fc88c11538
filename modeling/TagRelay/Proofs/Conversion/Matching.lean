import TagRelay.Device

/-!
# Which reading a tag takes

A tag takes the reading at its own position if that has its path, and otherwise the first
one that has it.  So a tag goes without a reading exactly if no reading has its path.  Where
any two readings with one path are equal, as in the reply of a store that nobody writes to
meanwhile, neither the order of the readings nor their positions matter.
-/

namespace TagRelay.Conversion

variable {readings : List Reading} {index : Nat} {path : String} {reading : Reading}

/-- What a tag takes of a reply. -/
inductive Chosen (readings : List Reading) (index : Nat) (path : String) (reading : Reading) : Prop
  | inPlace (hplace : readings[index]? = some reading) (hpath : reading.path = path)
  | first (hplace : ∀ other, readings[index]? = some other → other.path ≠ path)
      (before after : List Reading) (hreadings : readings = before ++ reading :: after)
      (hpath : reading.path = path) (hbefore : ∀ other ∈ before, other.path ≠ path)

theorem readingFor_of_place (hplace : readings[index]? = some reading)
    (hpath : reading.path = path) : readingFor readings index path = some reading := by
  simp [readingFor, hplace, hpath]

theorem readingFor_of_not_place
    (hplace : ∀ other, readings[index]? = some other → other.path ≠ path) :
    readingFor readings index path = readings.find? fun r => r.path = path := by
  rw [readingFor]
  split
  case h_1 other hother => rw [if_neg (hplace other hother)]
  case h_2 => rfl

theorem find?_path_eq_some_iff :
    (readings.find? fun r => r.path = path) = some reading ↔
      ∃ before after, readings = before ++ reading :: after ∧ reading.path = path ∧
        ∀ other ∈ before, other.path ≠ path := by
  simp [List.find?_eq_some_iff_append, and_left_comm]

theorem readingFor_eq_some_iff :
    readingFor readings index path = some reading ↔ Chosen readings index path reading := by
  constructor
  · intro hchosen
    by_cases hplace : ∃ other, readings[index]? = some other ∧ other.path = path
    · obtain ⟨other, hother, hpath⟩ := hplace
      rw [readingFor_of_place hother hpath] at hchosen
      obtain rfl := Option.some.inj hchosen
      exact .inPlace hother hpath
    · have hnot : ∀ other, readings[index]? = some other → other.path ≠ path :=
        fun other hother hpath => hplace ⟨other, hother, hpath⟩
      rw [readingFor_of_not_place hnot, find?_path_eq_some_iff] at hchosen
      obtain ⟨before, after, hreadings, hpath, hbefore⟩ := hchosen
      exact .first hnot before after hreadings hpath hbefore
  · intro hchosen
    cases hchosen with
    | inPlace hplace hpath => exact readingFor_of_place hplace hpath
    | first hplace before after hreadings hpath hbefore =>
        rw [readingFor_of_not_place hplace, find?_path_eq_some_iff]
        exact ⟨before, after, hreadings, hpath, hbefore⟩

theorem readingFor_eq_none_iff :
    readingFor readings index path = none ↔ ∀ reading ∈ readings, reading.path ≠ path := by
  constructor
  · intro hnone
    have hplace : ∀ other, readings[index]? = some other → other.path ≠ path := by
      intro other hother hpath
      simp [readingFor_of_place hother hpath] at hnone
    simpa [readingFor_of_not_place hplace] using hnone
  · intro hreadings
    rw [readingFor_of_not_place fun other hother => hreadings other (List.mem_of_getElem? hother)]
    simpa using hreadings

theorem Chosen.mem (hchosen : Chosen readings index path reading) :
    reading ∈ readings ∧ reading.path = path := by
  cases hchosen with
  | inPlace hplace hpath => exact ⟨List.mem_of_getElem? hplace, hpath⟩
  | first _ before after hreadings hpath _ => exact ⟨by simp [hreadings], hpath⟩

theorem Chosen.unique {again : Reading} (hchosen : Chosen readings index path reading)
    (hagain : Chosen readings index path again) : reading = again := by
  have hsame := (readingFor_eq_some_iff.mpr hchosen).symm.trans (readingFor_eq_some_iff.mpr hagain)
  exact Option.some.inj hsame

/-! ## Replies that agree with themselves -/

/-- Readings with this path are equal. -/
def ConsistentAt (path : String) (readings : List Reading) : Prop :=
  ∀ reading ∈ readings, ∀ other ∈ readings, reading.path = path → other.path = path →
    reading = other

/-- Readings with one path are equal. -/
def Consistent (readings : List Reading) : Prop :=
  ∀ reading ∈ readings, ∀ other ∈ readings, reading.path = other.path → reading = other

theorem Consistent.at_path (hconsistent : Consistent readings) (path : String) :
    ConsistentAt path readings :=
  fun reading hreading other hother hpath hsame =>
    hconsistent reading hreading other hother (hpath.trans hsame.symm)

theorem readingFor_eq_some_iff_of_consistentAt (hconsistent : ConsistentAt path readings) :
    readingFor readings index path = some reading ↔ reading ∈ readings ∧ reading.path = path := by
  constructor
  · intro hchosen
    exact (readingFor_eq_some_iff.mp hchosen).mem
  · rintro ⟨hmem, hpath⟩
    cases hfound : readingFor readings index path with
    | none => exact absurd hpath (readingFor_eq_none_iff.mp hfound reading hmem)
    | some other =>
        obtain ⟨hother, hsame⟩ := (readingFor_eq_some_iff.mp hfound).mem
        rw [hconsistent other hother reading hmem hsame hpath]

/-! ## A small device -/

/-- A device with an attribute and a timeseries. -/
def boiler : Device where
  name := "boiler"
  profile := "default"
  tags :=
    [⟨"limit", "boiler.limit", .attributes, .gateway, none, none⟩,
      ⟨"pressure", "boiler.pressure", .timeseries, .gateway, none, none⟩]
  strategy := none
  updates := []
  methods := []
  converter := .standard

/-- Its readings in the order of the request. -/
def boilerReadings : List Reading :=
  [⟨"boiler.limit", .int 9, .good, none⟩, ⟨"boiler.pressure", .int 7, .good, none⟩]

end TagRelay.Conversion
