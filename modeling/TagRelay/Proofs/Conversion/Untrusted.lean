import TagRelay.Proofs.Conversion.Entries

/-!
# What a conversion does not look at

The value of a reading that is not trusted has no part in a conversion, nor have timestamps
that no timeseries asks for or of which no instant can be made: the conversion of a reply is
that of the reply without them.  A tag with such a reading keeps its entry, with a diagnostic
text as its value, and an entry of the telemetry bears the instant of its own reading or the
time of the acquisition.
-/

namespace TagRelay

/-- A timestamp of which no instant can be made. -/
inductive Unusable : Option SourceTimestamp → Prop
  | absent : Unusable none
  | text {s : String} (hs : Calendar.readInstant s = none) : Unusable (some (.text s))
  | millis {n : Int} (hn : n ≤ 0) : Unusable (some (.millis n))

theorem unusable_iff {timestamp : Option SourceTimestamp} :
    Unusable timestamp ↔ timestamp.bind SourceTimestamp.toMillis = none := by
  constructor
  · intro hunusable
    cases hunusable with
    | absent => rfl
    | text hs => simp [SourceTimestamp.toMillis, hs]
    | millis hn => simp [SourceTimestamp.toMillis, Int.not_lt.mpr hn]
  · intro hnone
    rcases timestamp with _ | ⟨t⟩ | ⟨n⟩ | ⟨s⟩
    · exact .absent
    · simp [SourceTimestamp.toMillis] at hnone
    · apply Unusable.millis
      simpa [SourceTimestamp.toMillis] using hnone
    · apply Unusable.text
      simpa [SourceTimestamp.toMillis] using hnone

instance (timestamp : Option SourceTimestamp) : Decidable (Unusable timestamp) :=
  decidable_of_iff _ unusable_iff.symm

namespace Uplink

/-- A timeseries with this path wants the timestamps of the source. -/
def Dates (u : Uplink) (path : String) : Prop :=
  ∃ tag ∈ u.tags, tag.place = .timeseries ∧ tag.timestampLocation = .source ∧ tag.path = path

instance (u : Uplink) (path : String) : Decidable (u.Dates path) :=
  inferInstanceAs (Decidable (∃ tag ∈ u.tags, _))

/-- Two readings at one place of a reply that differ only in what must not matter. -/
structure Indistinct (u : Uplink) (reading other : Reading) : Prop where
  path : reading.path = other.path
  quality : reading.quality = other.quality
  value : reading.quality.code = 192 → reading.value = other.value
  timestamp : u.Dates reading.path → reading.timestamp = other.timestamp ∨
    Unusable reading.timestamp ∧ Unusable other.timestamp

end Uplink

theorem Quality.isGood_iff (q : Quality) : q.isGood = true ↔ q.code = 192 := by
  obtain ⟨code⟩ := q
  simp [Quality.isGood, Quality.good]

namespace Conversion

/-! ## Readings without what does not matter -/

/-- What an uplink takes notice of in a reading. -/
def noticed (u : Uplink) (reading : Reading) : Reading where
  path := reading.path
  value := if reading.quality.code = 192 then reading.value else .null
  quality := reading.quality
  timestamp :=
    if u.Dates reading.path ∧ ¬ Unusable reading.timestamp then reading.timestamp else none

theorem noticed_eq {u : Uplink} {reading other : Reading}
    (hindistinct : u.Indistinct reading other) : noticed u reading = noticed u other := by
  obtain ⟨hpath, hquality, hvalue, htimestamp⟩ := hindistinct
  rw [hpath] at htimestamp
  rw [hquality] at hvalue
  rw [noticed, noticed, hpath, hquality]
  congr 1
  · split
    case isTrue hgood => exact hvalue hgood
    case isFalse => rfl
  · by_cases hdates : u.Dates other.path
    · rcases htimestamp hdates with hsame | ⟨hunusable, hother⟩
      · rw [hsame]
      · simp [hunusable, hother]
    · simp [hdates]

theorem map_noticed_eq {u : Uplink} {readings later : List Reading}
    (hindistinct : List.Forall₂ u.Indistinct readings later) :
    readings.map (noticed u) = later.map (noticed u) := by
  rw [← List.forall₂_eq_eq_eq, List.forall₂_map_left_iff, List.forall₂_map_right_iff]
  exact hindistinct.imp fun _ _ => noticed_eq

theorem readingFor_noticed (u : Uplink) (readings : List Reading) (index : Nat) (path : String) :
    readingFor (readings.map (noticed u)) index path =
      (readingFor readings index path).map (noticed u) := by
  have hfind : (readings.map (noticed u)).find? (fun r => r.path = path) =
      (readings.find? fun r => r.path = path).map (noticed u) := List.find?_map
  rw [readingFor, readingFor, List.getElem?_map, hfind]
  cases readings[index]? with
  | none => rfl
  | some reading =>
      change (if reading.path = path then some (noticed u reading) else _) = _
      rw [apply_ite (Option.map (noticed u))]
      rfl

theorem reportedValue_noticed (u : Uplink) (tag : Tag) (reading : Reading) :
    reportedValue tag (noticed u reading) = reportedValue tag reading := by
  rw [reportedValue, reportedValue]
  by_cases hgood : reading.quality.isGood = true
  · have hcode := reading.quality.isGood_iff.mp hgood
    simp [noticed, hgood, hcode]
  · simp [noticed, hgood]

theorem reportedTime_noticed {u : Uplink} {tag : Tag} (htag : tag ∈ u.tags)
    (hplace : tag.place = .timeseries) {reading : Reading} (hpath : reading.path = tag.path)
    (acquiredAt : Int) :
    reportedTime tag (noticed u reading) acquiredAt = reportedTime tag reading acquiredAt := by
  rw [reportedTime, reportedTime]
  cases hlocation : tag.timestampLocation with
  | gateway => rfl
  | source =>
      have hdates : u.Dates reading.path := ⟨tag, htag, hplace, hlocation, hpath.symm⟩
      by_cases hunusable : Unusable reading.timestamp
      · simp [noticed, hunusable, unusable_iff.mp hunusable]
      · simp [noticed, hunusable, hdates]

theorem entry_noticed {u : Uplink} {tag : Tag} (htag : tag ∈ u.tags)
    (hplace : tag.place = .timeseries) {reading : Reading} (hpath : reading.path = tag.path)
    (acquiredAt : Int) :
    entry u tag (noticed u reading) acquiredAt = entry u tag reading acquiredAt := by
  rw [entry, entry, reportedTime_noticed htag hplace hpath, reportedValue_noticed]

/-! ## Conversion without what does not matter -/

theorem telemetry_noticed (u : Uplink) (readings : List Reading) (time : Int) :
    entries u ⟨readings.map (noticed u), time⟩ .timeseries =
      entries u ⟨readings, time⟩ .timeseries := by
  rw [entries_eq_filterMap_zipIdx, entries_eq_filterMap_zipIdx]
  apply List.filterMap_congr
  intro located hlocated
  have htag : located.1 ∈ u.tags := List.fst_mem_of_mem_zipIdx hlocated
  by_cases hplace : located.1.place = .timeseries
  · rw [if_pos hplace, if_pos hplace, readingFor_noticed, Option.map_map]
    apply Option.map_congr
    intro reading hreading
    have hpath := (readingFor_eq_some_iff.mp hreading).mem.2
    exact entry_noticed htag hplace hpath time
  · rw [if_neg hplace, if_neg hplace]

/-- Attributes are reported without a time. -/
theorem attributes_noticed (u : Uplink) (readings : List Reading) (time : Int) :
    (entries u ⟨readings.map (noticed u), time⟩ .attributes).map (fun e => (e.key, e.value)) =
      (entries u ⟨readings, time⟩ .attributes).map fun e => (e.key, e.value) := by
  rw [entries_eq_filterMap_zipIdx, entries_eq_filterMap_zipIdx, List.map_filterMap,
    List.map_filterMap]
  congr 1
  funext located
  by_cases hplace : located.1.place = .attributes
  · rw [if_pos hplace, if_pos hplace, readingFor_noticed, Option.map_map, Option.map_map,
      Option.map_map]
    congr 1
    funext reading
    exact congrArg (Prod.mk (reportedKey u located.1)) (reportedValue_noticed u located.1 reading)
  · rw [if_neg hplace, if_neg hplace]

theorem missing_noticed (u : Uplink) (readings : List Reading) (time : Int) :
    missing u ⟨readings.map (noticed u), time⟩ = missing u ⟨readings, time⟩ := by
  rw [missing_eq_countP_zipIdx, missing_eq_countP_zipIdx]
  congr 1
  funext located
  rw [readingFor_noticed, Option.isNone_map]

theorem standard_noticed (u : Uplink) (readings : List Reading) (time : Int) :
    standard u ⟨readings.map (noticed u), time⟩ = standard u ⟨readings, time⟩ := by
  rw [standard, standard, telemetry_noticed, attributes_noticed, missing_noticed,
    List.isEmpty_map]

theorem standard_of_forall₂ {u : Uplink} {readings later : List Reading}
    (hindistinct : List.Forall₂ u.Indistinct readings later) (time : Int) :
    standard u ⟨readings, time⟩ = standard u ⟨later, time⟩ := by
  calc standard u ⟨readings, time⟩
      = standard u ⟨readings.map (noticed u), time⟩ := (standard_noticed u readings time).symm
    _ = standard u ⟨later.map (noticed u), time⟩ := by rw [map_noticed_eq hindistinct]
    _ = standard u ⟨later, time⟩ := standard_noticed u later time

/-! ## What an entry shows of its reading -/

/-- The value in the entry of a tag with this reading. -/
inductive ShowsValue (tag : Tag) (reading : Reading) : Json → Prop
  | trusted (hgood : reading.quality.code = 192) :
      ShowsValue tag reading (trustedValue tag reading.value).toJson
  | diagnostic (hbad : reading.quality.code ≠ 192) :
      ShowsValue tag reading (.string ("BAD_QUALITY: " ++ reading.quality.display))

/-- The time in the entry of a tag with this reading. -/
inductive ShowsTime (tag : Tag) (reading : Reading) (acquiredAt : Int) : Int → Prop
  | source {timestamp : SourceTimestamp} {time : Int} (hlocation : tag.timestampLocation = .source)
      (htimestamp : reading.timestamp = some timestamp) (htime : timestamp.toMillis = some time) :
      ShowsTime tag reading acquiredAt time
  | acquired (hunusable : tag.timestampLocation = .source → Unusable reading.timestamp) :
      ShowsTime tag reading acquiredAt acquiredAt

theorem showsValue_reportedValue (tag : Tag) (reading : Reading) :
    ShowsValue tag reading (reportedValue tag reading) := by
  rw [reportedValue]
  split
  case isTrue hgood => exact .trusted (reading.quality.isGood_iff.mp hgood)
  case isFalse hbad => exact .diagnostic fun hgood => hbad (reading.quality.isGood_iff.mpr hgood)

theorem showsTime_reportedTime (tag : Tag) (reading : Reading) (acquiredAt : Int) :
    ShowsTime tag reading acquiredAt (reportedTime tag reading acquiredAt) := by
  rw [reportedTime]
  cases hlocation : tag.timestampLocation with
  | gateway => exact .acquired fun hsource => by simp [hlocation] at hsource
  | source =>
      cases husable : reading.timestamp.bind SourceTimestamp.toMillis with
      | none => exact .acquired fun _ => unusable_iff.mpr husable
      | some time =>
          obtain ⟨timestamp, htimestamp, htime⟩ := Option.bind_eq_some_iff.mp husable
          exact .source hlocation htimestamp htime

/-- What the entries of a record show of the readings. -/
structure Vetted (u : Uplink) (unit : Acquisition) (conversion : Conversion) : Prop where
  /-- A tag has its entry whatever the quality of its reading is. -/
  kept : ∀ (i : Nat) tag reading, u.tags[i]? = some tag → Chosen unit.readings i tag.path reading →
    (tag, i) ∈ answered u unit.readings tag.place
  attributes : List.Forall₂
    (fun located shown => ∃ reading, Chosen unit.readings located.2 located.1.path reading ∧
      ShowsValue located.1 reading shown.2)
    (answered u unit.readings .attributes) conversion.record.attributes
  telemetry : List.Forall₂
    (fun located entry => ∃ reading, Chosen unit.readings located.2 located.1.path reading ∧
      ShowsValue located.1 reading entry.value ∧
      ShowsTime located.1 reading unit.acquiredAt entry.timestamp)
    (answered u unit.readings .timeseries) conversion.record.telemetry

theorem vetted_of_ok {u : Uplink} {unit : Acquisition} {conversion : Conversion}
    (hok : standard u unit = .ok conversion) : Vetted u unit conversion := by
  have hconverted := converted_of_ok hok
  constructor
  case kept =>
    intro i tag reading htag hchosen
    have hlocated : (tag, i) ∈ u.tags.zipIdx := List.mem_zipIdx_iff_getElem?.mpr htag
    have hanswered : tag.place = tag.place ∧ ∃ reading ∈ unit.readings, reading.path = tag.path :=
      ⟨rfl, reading, hchosen.mem⟩
    exact List.mem_filter.mpr ⟨hlocated, decide_eq_true hanswered⟩
  case attributes =>
    refine hconverted.attributes.imp fun located shown hshown => ?_
    obtain ⟨entry, ⟨reading, hchosen, rfl⟩, rfl⟩ := hshown
    exact ⟨reading, hchosen, showsValue_reportedValue located.1 reading⟩
  case telemetry =>
    refine hconverted.telemetry.imp fun located entry hentry => ?_
    obtain ⟨reading, hchosen, rfl⟩ := hentry
    exact ⟨reading, hchosen, showsValue_reportedValue located.1 reading,
      showsTime_reportedTime located.1 reading unit.acquiredAt⟩

/-- The standard converter makes the same of two replies that differ, reading by reading, only in
values that are not trusted, in timestamps that no timeseries asks for, and in what stands for a
timestamp of which no instant can be made.  So it shows no untrusted value: a reading of any other
quality than 192 has an entry for its tag all the same, with a diagnostic text, and every
timestamp is the instant of its own reading or the time of the acquisition. -/
theorem standard_of_indistinct (u : Uplink) :
    (∀ (readings later : List Reading) (time : Int), List.Forall₂ u.Indistinct readings later →
      Converter.standard.convert u ⟨readings, time⟩ =
        Converter.standard.convert u ⟨later, time⟩) ∧
    ∀ (unit : Acquisition) (conversion : Conversion),
      Converter.standard.convert u unit = .ok conversion → Vetted u unit conversion := by
  refine ⟨?_, fun unit conversion => vetted_of_ok⟩
  intro readings later time hindistinct
  exact standard_of_forall₂ hindistinct time

/-- A tank with a mode and, by the clock of the source, a level. -/
def tank : Uplink where
  name := "tank"
  profile := "default"
  tags :=
    [⟨"mode", "tank.mode", .attributes, .source, none, none⟩,
      ⟨"level", "tank.level", .timeseries, .source, none, none⟩]
  strategy := none

/-- Its mode is not trusted, and the timestamp of its level is none. -/
def tankReadings (mode : TagValue) (modeAt levelAt : Option SourceTimestamp) : List Reading :=
  [⟨"tank.mode", mode, .bad, modeAt⟩, ⟨"tank.level", .int 4, .good, levelAt⟩]

/-- The record does not tell what the mode is, nor what the text in place of the timestamp was. -/
theorem standard_of_indistinct_tank :
    ∃ conversion,
      Converter.standard.convert tank
        ⟨tankReadings (.text "secret") (some (.millis 7)) (some (.text "soon")), 12⟩ =
          .ok conversion ∧
      Converter.standard.convert tank ⟨tankReadings .null none (some (.millis 0)), 12⟩ =
        .ok conversion ∧
      conversion.record.attributes = [("mode", .string "BAD_QUALITY: Bad (0)")] ∧
      Vetted tank ⟨tankReadings .null none (some (.millis 0)), 12⟩ conversion := by
  have hunread : Calendar.readInstant "soon" = none := by rfl
  have hundated : ¬ tank.Dates "tank.mode" := by decide
  have hindistinct : List.Forall₂ tank.Indistinct
      (tankReadings (.text "secret") (some (.millis 7)) (some (.text "soon")))
      (tankReadings .null none (some (.millis 0))) := by
    apply List.Forall₂.cons
    · exact ⟨rfl, rfl, fun hgood => absurd hgood (by decide), fun hdates => absurd hdates hundated⟩
    · apply List.Forall₂.cons _ List.Forall₂.nil
      exact ⟨rfl, rfl, fun _ => rfl, fun _ => Or.inr ⟨.text hunread, .millis (by decide)⟩⟩
  obtain ⟨hsame, hvetted⟩ := standard_of_indistinct tank
  refine ⟨_, (hsame _ _ 12 hindistinct).trans rfl, rfl, rfl, ?_⟩
  exact hvetted _ _ rfl

end Conversion

end TagRelay
