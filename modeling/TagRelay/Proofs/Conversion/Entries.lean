import TagRelay.Proofs.Conversion.Matching
import Mathlib.Data.List.Forall2

/-!
# The entries of a record

The standard converter goes through the tags of a device one by one.  A tag that has a
reading gives one entry in its section, and a tag that has none is counted as a failure.
What stands in an entry follows from the name of the device, the tag with the strategy
that applies to it, the time of the acquisition and the reading chosen for the tag; the
other tags have no part in it.
-/

namespace TagRelay.Conversion

/-! ## The tags with their positions -/

theorem matched_eq_map (readings : List Reading) (index : Nat) (tags : List Tag) :
    matched readings index tags =
      (tags.zipIdx index).map fun located =>
        (located.1, readingFor readings located.2 located.1.path) := by
  induction tags generalizing index with
  | nil => rfl
  | cons tag rest ih => rw [matched, ih, List.zipIdx_cons, List.map_cons]

theorem missing_eq_countP_zipIdx (u : Uplink) (unit : Acquisition) :
    missing u unit = u.tags.zipIdx.countP fun located =>
      (readingFor unit.readings located.2 located.1.path).isNone := by
  rw [missing, matched_eq_map, List.countP_map]
  rfl

theorem entries_eq_filterMap_zipIdx (u : Uplink) (unit : Acquisition) (place : Section) :
    entries u unit place = u.tags.zipIdx.filterMap fun located =>
      if located.1.place = place then
        (readingFor unit.readings located.2 located.1.path).map fun reading =>
          entry u located.1 reading unit.acquiredAt
      else none := by
  rw [entries, matched_eq_map, List.filterMap_map]
  rfl

theorem missing_eq_countP (u : Uplink) (unit : Acquisition) :
    missing u unit =
      u.tags.countP fun tag => ∀ reading ∈ unit.readings, reading.path ≠ tag.path := by
  calc missing u unit
      = u.tags.zipIdx.countP fun located =>
          decide (∀ reading ∈ unit.readings, reading.path ≠ located.1.path) := by
        rw [missing_eq_countP_zipIdx]
        apply List.countP_congr
        intro located _
        rw [Option.isNone_iff_eq_none, readingFor_eq_none_iff, decide_eq_true_iff]
    _ = (u.tags.zipIdx.map Prod.fst).countP fun tag =>
          decide (∀ reading ∈ unit.readings, reading.path ≠ tag.path) := by
        rw [List.countP_map]
        rfl
    _ = u.tags.countP fun tag => ∀ reading ∈ unit.readings, reading.path ≠ tag.path := by
        rw [List.zipIdx_map_fst]

/-- Every tag gives an entry in its section or is missing. -/
theorem length_entries (u : Uplink) (unit : Acquisition) :
    (entries u unit .attributes).length + (entries u unit .timeseries).length + missing u unit =
      u.tags.length := by
  have hlength : u.tags.zipIdx.length = u.tags.length := List.length_zipIdx
  rw [← hlength, missing_eq_countP_zipIdx, entries_eq_filterMap_zipIdx, entries_eq_filterMap_zipIdx]
  generalize u.tags.zipIdx = tags
  induction tags with
  | nil => rfl
  | cons located rest ih =>
      -- The tag is missing, or it stands in the one section of its place.
      rw [List.length_cons, ← ih]
      cases hreading : readingFor unit.readings located.2 located.1.path with
      | none => simp [hreading, ← Nat.add_assoc]
      | some reading =>
          cases hplace : located.1.place <;> simp [hreading, hplace] <;> omega

/-! ## What an entry is made of -/

/-- The entry of a tag, made of nothing but these. -/
def reported (device : String) (tag : Tag) (strategy : Option ReportStrategy) (acquiredAt : Int)
    (reading : Reading) : Telemetry where
  timestamp := reportedTime tag reading acquiredAt
  key :=
    match strategy with
    | some strategy => ((strategy.resolveKey device tag.key).toOption).getD tag.key
    | none => tag.key
  value := reportedValue tag reading

/-- The tags of a section that have a reading, with their positions among all tags. -/
def answered (u : Uplink) (readings : List Reading) (place : Section) : List (Tag × Nat) :=
  u.tags.zipIdx.filter fun located =>
    located.1.place = place ∧ ∃ reading ∈ readings, reading.path = located.1.path

/-- The entry is the one of the tag at this position. -/
def Reports (u : Uplink) (unit : Acquisition) (located : Tag × Nat) (entry : Telemetry) : Prop :=
  ∃ reading, Chosen unit.readings located.2 located.1.path reading ∧
    entry = reported u.name located.1 (u.strategyFor located.1) unit.acquiredAt reading

theorem forall₂_entries (u : Uplink) (unit : Acquisition) (place : Section) :
    List.Forall₂ (Reports u unit) (answered u unit.readings place) (entries u unit place) := by
  rw [answered, entries_eq_filterMap_zipIdx]
  generalize u.tags.zipIdx = tags
  induction tags with
  | nil => exact .nil
  | cons located rest ih =>
      by_cases hplace : located.1.place = place
      · cases hreading : readingFor unit.readings located.2 located.1.path with
        | none =>
            have hmissing : ¬∃ reading ∈ unit.readings, reading.path = located.1.path :=
              fun ⟨reading, hmem, hpath⟩ => readingFor_eq_none_iff.mp hreading reading hmem hpath
            simpa [hplace, hreading, hmissing] using ih
        | some reading =>
            have hchosen := readingFor_eq_some_iff.mp hreading
            have hanswered : ∃ reading ∈ unit.readings, reading.path = located.1.path :=
              ⟨reading, hchosen.mem⟩
            have hentry : Reports u unit located (entry u located.1 reading unit.acquiredAt) :=
              ⟨reading, hchosen, rfl⟩
            simpa [hplace, hreading, hanswered] using List.Forall₂.cons hentry ih
      · simpa [hplace] using ih

/-! ## The standard conversion -/

theorem standard_error_iff (u : Uplink) (unit : Acquisition) :
    (∃ cause, standard u unit = .error cause) ↔ u.tags ≠ [] ∧ unit.readings = [] := by
  rw [standard]
  split
  case isTrue hempty => simpa [Uplink.hasTags] using hempty
  case isFalse hempty => simpa [Uplink.hasTags] using hempty

theorem eq_of_standard_ok {u : Uplink} {unit : Acquisition} {conversion : Conversion}
    (hok : standard u unit = .ok conversion) :
    conversion.record.attributes = (entries u unit .attributes).map (fun e => (e.key, e.value)) ∧
      conversion.record.telemetry = entries u unit .timeseries ∧
      conversion.attempts = u.tags.length ∧ conversion.failures = missing u unit := by
  rw [standard] at hok
  split at hok
  case isTrue => simp at hok
  case isFalse =>
    obtain rfl := Except.ok.inj hok
    exact ⟨rfl, rfl, rfl, rfl⟩

/-- What has become of the tags of an uplink in a conversion. -/
structure Converted (u : Uplink) (unit : Acquisition) (conversion : Conversion) : Prop where
  attempts : conversion.attempts = u.tags.length
  failures : conversion.failures =
    u.tags.countP fun tag => ∀ reading ∈ unit.readings, reading.path ≠ tag.path
  count : conversion.record.attributes.length + conversion.record.telemetry.length +
    conversion.failures = conversion.attempts
  attributes : List.Forall₂
    (fun located shown => ∃ entry, Reports u unit located entry ∧ shown = (entry.key, entry.value))
    (answered u unit.readings .attributes) conversion.record.attributes
  telemetry : List.Forall₂ (Reports u unit)
    (answered u unit.readings .timeseries) conversion.record.telemetry
  /-- As the record is sent, every entry holds one key. -/
  one_key : ∃ attributes telemetry, conversion.record.toJson = .object
      [("deviceName", .string conversion.record.device),
        ("deviceType", .string conversion.record.profile),
        ("attributes", .array attributes), ("telemetry", .array telemetry)] ∧
    (∀ object ∈ attributes, ∃ key value, object = .object [(key, value)]) ∧
    ∀ object ∈ telemetry, ∃ time key value,
      object = .object [("ts", .int time), ("values", .object [(key, value)])]

theorem converted_of_ok {u : Uplink} {unit : Acquisition} {conversion : Conversion}
    (hok : standard u unit = .ok conversion) : Converted u unit conversion := by
  obtain ⟨hattributes, htelemetry, hattempts, hfailures⟩ := eq_of_standard_ok hok
  constructor
  case attempts => exact hattempts
  case failures => rw [hfailures, missing_eq_countP]
  case count =>
    rw [hattributes, htelemetry, hattempts, hfailures, List.length_map]
    exact length_entries u unit
  case attributes =>
    rw [hattributes, List.forall₂_map_right_iff]
    exact (forall₂_entries u unit .attributes).imp fun _ entry hreports => ⟨entry, hreports, rfl⟩
  case telemetry =>
    rw [htelemetry]
    exact forall₂_entries u unit .timeseries
  case one_key =>
    refine ⟨_, _, rfl, ?_, ?_⟩
    · intro object hobject
      obtain ⟨⟨key, value⟩, -, rfl⟩ := List.mem_map.mp hobject
      exact ⟨key, value, rfl⟩
    · intro object hobject
      obtain ⟨entry, -, rfl⟩ := List.mem_map.mp hobject
      exact ⟨entry.timestamp, entry.key, entry.value, rfl⟩

/-! ## What other tags have to do with an entry -/

/-- For this tag, which may stand at different positions, all is the same in two conversions
that its entry is made of. -/
structure SameBasis (u v : Uplink) (unit other : Acquisition) (tag : Tag) (i j : Nat) : Prop where
  name : u.name = v.name
  strategy : u.strategyFor tag = v.strategyFor tag
  acquiredAt : unit.acquiredAt = other.acquiredAt
  reading : readingFor unit.readings i tag.path = readingFor other.readings j tag.path

theorem Reports.unique {u v : Uplink} {unit other : Acquisition} {tag : Tag} {i j : Nat}
    (hbasis : SameBasis u v unit other tag i j) {entry later : Telemetry}
    (hentry : Reports u unit (tag, i) entry) (hlater : Reports v other (tag, j) later) :
    entry = later := by
  obtain ⟨reading, hchosen, rfl⟩ := hentry
  obtain ⟨again, hagain, rfl⟩ := hlater
  have hsame : some reading = some again := by
    rw [← readingFor_eq_some_iff.mpr hchosen, ← readingFor_eq_some_iff.mpr hagain]
    exact hbasis.reading
  rw [Option.some.inj hsame, hbasis.name, hbasis.strategy, hbasis.acquiredAt]

/-- The standard converter fails exactly if there are tags and no readings.  Otherwise it
gives, in order, one entry for every tag that has a reading, and counts the others; and the
entry of a tag is the same in any two conversions in which the name of the device, the
strategy for the tag, the time and the reading chosen for the tag are. -/
theorem converted_of_standard (u : Uplink) (unit : Acquisition) :
    ((∃ cause, Converter.standard.convert u unit = .error cause) ↔
      u.tags ≠ [] ∧ unit.readings = []) ∧
    ∀ conversion, Converter.standard.convert u unit = .ok conversion →
      Converted u unit conversion ∧
      ∀ v other again, Converter.standard.convert v other = .ok again →
        ∀ tag i j, SameBasis u v unit other tag i j →
          (∀ entry later,
            ((tag, i), entry) ∈
              (answered u unit.readings .attributes).zip conversion.record.attributes →
            ((tag, j), later) ∈
              (answered v other.readings .attributes).zip again.record.attributes →
            entry = later) ∧
          ∀ entry later,
            ((tag, i), entry) ∈
              (answered u unit.readings .timeseries).zip conversion.record.telemetry →
            ((tag, j), later) ∈
              (answered v other.readings .timeseries).zip again.record.telemetry →
            entry = later := by
  refine ⟨standard_error_iff u unit, ?_⟩
  intro conversion hok
  have hconverted := converted_of_ok hok
  refine ⟨hconverted, ?_⟩
  intro v other again hagain tag i j hbasis
  have hother := converted_of_ok hagain
  refine ⟨?_, ?_⟩
  · intro entry later hentry hlater
    obtain ⟨shown, hshown, rfl⟩ := List.forall₂_zip hconverted.attributes hentry
    obtain ⟨shownLater, hshownLater, rfl⟩ := List.forall₂_zip hother.attributes hlater
    rw [hshown.unique hbasis hshownLater]
  · intro entry later hentry hlater
    exact (List.forall₂_zip hconverted.telemetry hentry).unique hbasis
      (List.forall₂_zip hother.telemetry hlater)

/-- A boiler whose limit has no reading reports its pressure as ever. -/
theorem converted_of_standard_boiler :
    ∃ conversion again,
      Converter.standard.convert boiler.toUplink ⟨boilerReadings, 0⟩ = .ok conversion ∧
      Converter.standard.convert boiler.toUplink ⟨boilerReadings.tail, 0⟩ = .ok again ∧
      Converted boiler.toUplink ⟨boilerReadings, 0⟩ conversion ∧ conversion.failures = 0 ∧
      Converted boiler.toUplink ⟨boilerReadings.tail, 0⟩ again ∧ again.failures = 1 ∧
      again.record.telemetry = conversion.record.telemetry := by
  obtain ⟨hconverted, hothers⟩ :=
    (converted_of_standard boiler.toUplink ⟨boilerReadings, 0⟩).2 _ rfl
  have hagain := ((converted_of_standard boiler.toUplink ⟨boilerReadings.tail, 0⟩).2 _ rfl).1
  refine ⟨_, _, rfl, rfl, hconverted, rfl, hagain, rfl, ?_⟩
  have hsame := (hothers _ _ _ rfl
    ⟨"pressure", "boiler.pressure", .timeseries, .gateway, none, none⟩ 1 1
    ⟨rfl, rfl, rfl, rfl⟩).2 _ _ (List.mem_singleton.mpr rfl) (List.mem_singleton.mpr rfl)
  exact congrArg (fun entry => [entry]) hsame.symm

end TagRelay.Conversion
