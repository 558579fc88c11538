import TagRelay.Proofs.Config.Checks
import TagRelay.Proofs.Pipeline.Strategies

/-!
# What is found in a record

A look-up in a record takes the first entry with a key.  The keys of a section are distinct in
every valid declaration, and as long as the strategies keep them they are distinct in the
record, too.  So a look-up finds what its tag was converted to, and finds nothing exactly if
there is no such tag or it has no reading.
-/

namespace TagRelay

/-! ## Looking up -/

/-- Under distinct keys, the first item with a key is the only one. -/
theorem find?_key_eq_some_iff {α : Type} {key : α → String} {items : List α}
    (hdistinct : (items.map key).Nodup) {name : String} {item : α} :
    (items.find? fun other => key other = name) = some item ↔ item ∈ items ∧ key item = name := by
  constructor
  · intro hfind
    exact ⟨List.mem_of_find?_eq_some hfind, by simpa using List.find?_some hfind⟩
  · rintro ⟨hitem, rfl⟩
    induction items with
    | nil => cases hitem
    | cons first rest ih =>
        obtain ⟨hfirst, hrest⟩ := List.nodup_cons.mp hdistinct
        rcases List.mem_cons.mp hitem with rfl | hitem
        · simp
        · have hother : key first ≠ key item :=
            fun hkey => hfirst (hkey ▸ List.mem_map_of_mem hitem)
          rw [List.find?_cons_of_neg (by simpa using hother)]
          exact ih hrest hitem

theorem Json.lookup_map {α : Type} (name : α → String) (value : α → Json) (items : List α)
    (key : String) :
    Json.lookup key (items.map fun item => (name item, value item)) =
      (items.find? fun item => name item = key).map value := by
  induction items with
  | nil => rfl
  | cons item rest ih =>
      rw [List.map_cons, Json.lookup]
      by_cases hkey : name item = key
      · simp [hkey]
      · simp [hkey, ih]

/-! ## Strategies that keep keys -/

/-- A key that it resolves stays as it is. -/
def ReportStrategy.KeepsKeys (s : ReportStrategy) : Prop :=
  ∀ device declared key, s.resolveKey device declared = .ok key → key = declared

theorem ReportStrategy.keepsKeys_configured (declared : Config.Strategy) :
    (configured declared).KeepsKeys := by
  intro device key resolved hresolved
  exact (Except.ok.inj hresolved).symm

/-- A declared strategy that can be used keeps keys. -/
theorem ReportStrategy.keepsKeys_of_bind {declared : Option Config.Strategy}
    {strategy : ReportStrategy} (hstrategy : declared.bind ofConfig? = some strategy) :
    strategy.KeepsKeys := by
  rw [bind_ofConfig?] at hstrategy
  obtain ⟨usable, -, rfl⟩ := Option.map_eq_some_iff.mp hstrategy
  exact keepsKeys_configured usable

/-- The strategies for its tags keep their keys. -/
def Uplink.KeepsKeys (u : Uplink) : Prop :=
  ∀ tag ∈ u.tags, ∀ strategy key, u.strategyFor tag = some strategy →
    strategy.resolveKey u.name tag.key = .ok key → key = tag.key

/-- A device keeps its keys if the strategy that it was given from elsewhere, if any, does. -/
theorem Device.keepsKeys_of_ofConfig {declared : Config.Device}
    {fallback : Option ReportStrategy} {registry : Registry} {device : Device}
    (hbuilt : ofConfig declared fallback registry = .ok device)
    (hfallback : ∀ strategy, fallback = some strategy → strategy.KeepsKeys) :
    device.KeepsKeys := by
  rw [toUplink_of_ofConfig hbuilt]
  intro tag htag strategy key hstrategy hkey
  have hkeeps : strategy.KeepsKeys := by
    rcases Option.or_eq_some_iff.mp hstrategy with hown | ⟨-, hdevice⟩
    · obtain ⟨place, own, rfl⟩ : ∃ place own, tag = tagOfConfig place own := by
        rcases List.mem_append.mp htag with htag | htag <;>
          obtain ⟨own, -, rfl⟩ := List.mem_map.mp htag <;> exact ⟨_, own, rfl⟩
      exact ReportStrategy.keepsKeys_of_bind hown
    · rcases Option.or_eq_some_iff.mp hdevice with hdeclared | ⟨-, hgiven⟩
      · exact ReportStrategy.keepsKeys_of_bind hdeclared
      · exact hfallback strategy hgiven
  exact hkeeps _ _ key hkey

namespace Conversion

variable {u : Uplink} {unit : Acquisition} {place : Section}

theorem reportedKey_of_keepsKeys (hkeeps : u.KeepsKeys) {tag : Tag} (htag : tag ∈ u.tags) :
    reportedKey u tag = tag.key := by
  have hdecides := decides_reportedKey u tag
  generalize hstrategy : u.strategyFor tag = strategy, reportedKey u tag = key at hdecides
  cases hdecides with
  | none => rfl
  | resolved hkey => exact hkeeps tag htag _ _ hstrategy hkey
  | failed => rfl

/-! ## The entries of a section -/

theorem mem_entries_iff {shown : Telemetry} :
    shown ∈ entries u unit place ↔
      ∃ (i : Nat) (tag : Tag) (reading : Reading), u.tags[i]? = some tag ∧ tag.place = place ∧
        Chosen unit.readings i tag.path reading ∧
        entry u tag reading unit.acquiredAt = shown := by
  rw [entries_eq_filterMap_zipIdx, List.mem_filterMap]
  constructor
  · rintro ⟨⟨tag, i⟩, hlocated, hshown⟩
    obtain ⟨hplace, hshown⟩ := Option.ite_none_right_eq_some.mp hshown
    obtain ⟨reading, hreading, hshown⟩ := Option.map_eq_some_iff.mp hshown
    exact ⟨i, tag, reading, List.mem_zipIdx_iff_getElem?.mp hlocated, hplace,
      readingFor_eq_some_iff.mp hreading, hshown⟩
  · rintro ⟨i, tag, reading, htag, hplace, hchosen, hshown⟩
    refine ⟨(tag, i), List.mem_zipIdx_iff_getElem?.mpr htag, ?_⟩
    rw [if_pos hplace, readingFor_eq_some_iff.mpr hchosen, Option.map_some, hshown]

/-- No two tags of a section have one key. -/
def DistinctKeys (u : Uplink) (place : Section) : Prop :=
  ((u.tags.filter fun tag => tag.place = place).map Tag.key).Nodup

theorem nodup_keys_entries (hkeeps : u.KeepsKeys) (hdistinct : DistinctKeys u place) :
    ((entries u unit place).map Telemetry.key).Nodup := by
  have hkeys : reportedKeys u unit.readings place =
      ((answered u unit.readings place).map Prod.fst).map Tag.key := by
    rw [reportedKeys, List.map_map]
    apply List.map_congr_left
    intro located hlocated
    have htag := List.fst_mem_of_mem_zipIdx (List.mem_of_mem_filter hlocated)
    exact reportedKey_of_keepsKeys hkeeps htag
  -- The answered tags are some of the tags in the section.
  have hanswered : ((answered u unit.readings place).map Prod.fst).Sublist
      (u.tags.filter fun tag => tag.place = place) := by
    have htags : (u.tags.zipIdx.filter fun located => located.1.place = place).map Prod.fst =
        u.tags.filter fun tag => tag.place = place := by
      rw [← List.zipIdx_map_fst 0 u.tags, List.filter_map, List.zipIdx_map_fst]
      rfl
    rw [← htags]
    apply List.Sublist.map
    apply List.monotone_filter_right
    intro located hlocated
    simpa using (of_decide_eq_true hlocated).1
  rw [keys_entries, hkeys]
  exact hdistinct.sublist (hanswered.map Tag.key)

theorem attribute?_of_ok {conversion : Conversion} (hok : standard u unit = .ok conversion)
    (key : String) :
    conversion.record.attribute? key =
      ((entries u unit .attributes).find? fun shown => shown.key = key).map Telemetry.value := by
  rw [Record.attribute?, (eq_of_standard_ok hok).1, Json.lookup_map]

theorem telemetry?_of_ok {conversion : Conversion} (hok : standard u unit = .ok conversion)
    (key : String) :
    conversion.record.telemetry? key =
      ((entries u unit .timeseries).find? fun shown => shown.key = key).map fun shown =>
        (shown.timestamp, shown.value) := by
  rw [Record.telemetry?, (eq_of_standard_ok hok).2.1]

end Conversion

/-! ## Looking up by declaration -/

namespace Config.Device

/-- The tags that a device declares in a section. -/
def tagsIn (d : Device) : Section → List Tag
  | .attributes => d.attributes
  | .timeseries => d.timeseries

/-- How many tags are polled before those of a section. -/
def before (d : Device) : Section → Nat
  | .attributes => 0
  | .timeseries => d.attributes.length

/-- The tag with this key in a section takes this reading. -/
def Takes (d : Device) (readings : List Reading) (place : Section) (key : String) (tag : Tag)
    (reading : Reading) : Prop :=
  ∃ i : Nat, (d.tagsIn place)[i]? = some tag ∧ tag.key = key ∧
    Conversion.Chosen readings (d.before place + i) tag.path reading

end Config.Device

namespace Device

variable {declared : Config.Device}

theorem getElem?_tags_iff (fallback : Option ReportStrategy) {i : Nat} {tag : Tag} :
    (uplinkOfConfig declared fallback).tags[i]? = some tag ↔
      ∃ (place : Section) (j : Nat) (own : Config.Tag), (declared.tagsIn place)[j]? = some own ∧
        declared.before place + j = i ∧ tagOfConfig place own = tag := by
  have hlength : (declared.attributes.map (tagOfConfig .attributes)).length =
      declared.attributes.length := List.length_map _
  constructor
  · intro htag
    change (_ ++ _)[i]? = some tag at htag
    rw [List.getElem?_append, hlength] at htag
    split at htag <;> rw [List.getElem?_map] at htag <;>
      obtain ⟨own, hown, rfl⟩ := Option.map_eq_some_iff.mp htag
    case isTrue => exact ⟨.attributes, i, own, hown, Nat.zero_add i, rfl⟩
    case isFalse hlater =>
      exact ⟨.timeseries, _, own, hown, Nat.add_sub_cancel' (Nat.not_lt.mp hlater), rfl⟩
  · rintro ⟨place, j, own, hown, rfl, rfl⟩
    change (_ ++ _)[_]? = _
    cases place with
    | attributes =>
        have hj : j < declared.attributes.length := (List.getElem?_eq_some_iff.mp hown).1
        rw [Config.Device.before, Nat.zero_add, List.getElem?_append_left (hlength ▸ hj),
          List.getElem?_map]
        exact congrArg (Option.map (tagOfConfig .attributes)) hown
    | timeseries =>
        rw [Config.Device.before, ← hlength, List.getElem?_append_right (Nat.le_add_right _ j),
          Nat.add_sub_cancel_left, List.getElem?_map]
        exact congrArg (Option.map (tagOfConfig .timeseries)) hown

theorem keys_tagsIn (declared : Config.Device) (fallback : Option ReportStrategy)
    (place : Section) :
    ((uplinkOfConfig declared fallback).tags.filter fun tag => tag.place = place).map Tag.key =
      (declared.tagsIn place).map Config.Tag.key := by
  rw [uplinkOfConfig, List.filter_append, List.filter_map, List.filter_map]
  cases place <;>
    simp [Function.comp_def, tagOfConfig, Config.Device.tagsIn]

theorem distinctKeys_of_valid (hvalid : declared.validate = .ok ())
    (fallback : Option ReportStrategy) (place : Section) :
    Conversion.DistinctKeys (uplinkOfConfig declared fallback) place := by
  have hsound := (Config.Device.validate_eq_ok_iff declared).mp hvalid
  rw [Conversion.DistinctKeys, keys_tagsIn]
  cases place with
  | attributes => exact hsound.attributes.distinct
  | timeseries => exact hsound.timeseries.distinct

end Device

namespace Conversion

variable {declared : Config.Device} {fallback : Option ReportStrategy}

/-- A tag takes a reading exactly if there is one for it. -/
theorem exists_takes_iff {readings : List Reading} {place : Section} {key : String} :
    (∃ tag reading, declared.Takes readings place key tag reading) ↔
      ∃ tag ∈ declared.tagsIn place, tag.key = key ∧ ∃ reading ∈ readings,
        reading.path = tag.path := by
  constructor
  · rintro ⟨tag, reading, i, htag, hkey, hchosen⟩
    exact ⟨tag, List.mem_of_getElem? htag, hkey, reading, hchosen.mem⟩
  · rintro ⟨tag, htag, hkey, reading, hreading, hpath⟩
    obtain ⟨i, htag⟩ := List.mem_iff_getElem?.mp htag
    cases hfound : readingFor readings (declared.before place + i) tag.path with
    | none => exact absurd hpath (readingFor_eq_none_iff.mp hfound reading hreading)
    | some taken => exact ⟨tag, taken, i, htag, hkey, readingFor_eq_some_iff.mp hfound⟩

/-- The entries with a key are those of its tag. -/
theorem mem_entries_of_key_iff (hkeeps : (Device.uplinkOfConfig declared fallback).KeepsKeys)
    {unit : Acquisition} {place : Section} {key : String} {shown : Telemetry} :
    shown ∈ entries (Device.uplinkOfConfig declared fallback) unit place ∧ shown.key = key ↔
      ∃ tag reading, declared.Takes unit.readings place key tag reading ∧
        entry (Device.uplinkOfConfig declared fallback) (Device.tagOfConfig place tag) reading
          unit.acquiredAt = shown := by
  rw [mem_entries_iff]
  constructor
  · rintro ⟨⟨i, tag, reading, htag, hplace, hchosen, rfl⟩, hkey⟩
    have hkept := reportedKey_of_keepsKeys hkeeps (List.mem_of_getElem? htag)
    obtain ⟨other, j, own, hown, rfl, rfl⟩ := (Device.getElem?_tags_iff fallback).mp htag
    obtain rfl : other = place := hplace
    exact ⟨own, reading, ⟨j, hown, hkept.symm.trans hkey, hchosen⟩, rfl⟩
  · rintro ⟨own, reading, ⟨j, hown, hkey, hchosen⟩, rfl⟩
    have htag := (Device.getElem?_tags_iff fallback).mpr ⟨place, j, own, hown, rfl, rfl⟩
    refine ⟨⟨_, _, reading, htag, rfl, hchosen, rfl⟩, ?_⟩
    exact (reportedKey_of_keepsKeys hkeeps (List.mem_of_getElem? htag)).trans hkey

theorem find?_entries_eq_some_iff (hvalid : declared.validate = .ok ())
    (hkeeps : (Device.uplinkOfConfig declared fallback).KeepsKeys) {unit : Acquisition}
    {place : Section} {key : String} {shown : Telemetry} :
    ((entries (Device.uplinkOfConfig declared fallback) unit place).find? fun other =>
        other.key = key) = some shown ↔
      ∃ tag reading, declared.Takes unit.readings place key tag reading ∧
        entry (Device.uplinkOfConfig declared fallback) (Device.tagOfConfig place tag) reading
          unit.acquiredAt = shown := by
  have hdistinct := Device.distinctKeys_of_valid hvalid fallback place
  rw [find?_key_eq_some_iff (nodup_keys_entries hkeeps hdistinct), mem_entries_of_key_iff hkeeps]

theorem find?_entries_eq_none_iff (hvalid : declared.validate = .ok ())
    (hkeeps : (Device.uplinkOfConfig declared fallback).KeepsKeys) {unit : Acquisition}
    {place : Section} {key : String} :
    ((entries (Device.uplinkOfConfig declared fallback) unit place).find? fun other =>
        other.key = key) = none ↔
      ¬∃ tag ∈ declared.tagsIn place, tag.key = key ∧ ∃ reading ∈ unit.readings,
        reading.path = tag.path := by
  rw [← exists_takes_iff, ← not_iff_not, not_not, ← ne_eq, Option.ne_none_iff_exists']
  constructor
  · rintro ⟨shown, hshown⟩
    obtain ⟨tag, reading, htakes, -⟩ := (find?_entries_eq_some_iff hvalid hkeeps).mp hshown
    exact ⟨tag, reading, htakes⟩
  · rintro ⟨tag, reading, htakes⟩
    exact ⟨_, (find?_entries_eq_some_iff hvalid hkeeps).mpr ⟨tag, reading, htakes, rfl⟩⟩

/-- What look-ups under a key find in a record. -/
structure FoundUnder (declared : Config.Device) (unit : Acquisition) (record : Record)
    (key : String) : Prop where
  inAttributes : ∀ value, record.attribute? key = some value ↔
    ∃ tag reading, declared.Takes unit.readings .attributes key tag reading ∧
      reportedValue (Device.tagOfConfig .attributes tag) reading = value
  notInAttributes : record.attribute? key = none ↔
    ¬∃ tag ∈ declared.attributes, tag.key = key ∧ ∃ reading ∈ unit.readings,
      reading.path = tag.path
  inTelemetry : ∀ time value, record.telemetry? key = some (time, value) ↔
    ∃ tag reading, declared.Takes unit.readings .timeseries key tag reading ∧
      reportedTime (Device.tagOfConfig .timeseries tag) reading unit.acquiredAt = time ∧
      reportedValue (Device.tagOfConfig .timeseries tag) reading = value
  notInTelemetry : record.telemetry? key = none ↔
    ¬∃ tag ∈ declared.timeseries, tag.key = key ∧ ∃ reading ∈ unit.readings,
      reading.path = tag.path

theorem foundUnder_of_valid (hvalid : declared.validate = .ok ())
    (hkeeps : (Device.uplinkOfConfig declared fallback).KeepsKeys) {unit : Acquisition}
    {conversion : Conversion}
    (hok : standard (Device.uplinkOfConfig declared fallback) unit = .ok conversion)
    (key : String) : FoundUnder declared unit conversion.record key := by
  constructor
  case inAttributes =>
    intro value
    rw [attribute?_of_ok hok, Option.map_eq_some_iff]
    simp only [find?_entries_eq_some_iff hvalid hkeeps]
    constructor
    · rintro ⟨-, ⟨tag, reading, htakes, rfl⟩, hvalue⟩
      exact ⟨tag, reading, htakes, hvalue⟩
    · rintro ⟨tag, reading, htakes, hvalue⟩
      exact ⟨_, ⟨tag, reading, htakes, rfl⟩, hvalue⟩
  case notInAttributes =>
    rw [attribute?_of_ok hok, Option.map_eq_none_iff]
    exact find?_entries_eq_none_iff hvalid hkeeps
  case inTelemetry =>
    intro time value
    rw [telemetry?_of_ok hok, Option.map_eq_some_iff]
    simp only [find?_entries_eq_some_iff hvalid hkeeps]
    constructor
    · rintro ⟨-, ⟨tag, reading, htakes, rfl⟩, hshown⟩
      exact ⟨tag, reading, htakes, Prod.mk.inj hshown⟩
    · rintro ⟨tag, reading, htakes, rfl, rfl⟩
      exact ⟨_, ⟨tag, reading, htakes, rfl⟩, rfl⟩
  case notInTelemetry =>
    rw [telemetry?_of_ok hok, Option.map_eq_none_iff]
    exact find?_entries_eq_none_iff hvalid hkeeps

/-- In the record of a device whose strategies keep its keys, a look-up among the attributes finds
the converted value of the attribute with that key, and one in the telemetry the timestamp and the
converted value of the timeseries with that key; each finds nothing exactly if there is no such tag
or no reading for it.  Declared strategies keep the keys, so they are kept unless the device was
given another strategy that does not. -/
theorem found_by_key {declared : Config.Device} {fallback : Option ReportStrategy}
    {registry : Registry} {device : Device}
    (hbuilt : Device.ofConfig declared fallback registry = .ok device) :
    (device.KeepsKeys → ∀ (unit : Acquisition) (conversion : Conversion),
      Converter.standard.convert device.toUplink unit = .ok conversion →
        ∀ key, FoundUnder declared unit conversion.record key) ∧
    ((∀ strategy, fallback = some strategy → strategy.KeepsKeys) → device.KeepsKeys) := by
  refine ⟨?_, Device.keepsKeys_of_ofConfig hbuilt⟩
  intro hkeeps unit conversion hok key
  have hvalid : declared.validate = .ok () := (Device.exists_ofConfig_iff.mp ⟨device, hbuilt⟩).valid
  rw [Device.toUplink_of_ofConfig hbuilt] at hkeeps hok
  exact foundUnder_of_valid hvalid hkeeps hok key

/-- An oven with one key in both sections. -/
def oven : Config.Device where
  name := "oven"
  strategy := some { kind := .onChange }
  attributes :=
    [{ key := "mode", path := "oven.mode" }, { key := "heat", path := "oven.target" }]
  timeseries := [{ key := "heat", path := "oven.heat", timestampLocation := .source }]

/-- Its readings, in an order of their own and without the mode. -/
def ovenReadings : List Reading :=
  [⟨"oven.heat", .int 70, .good, some (.millis 9)⟩, ⟨"oven.target", .int 80, .good, none⟩]

/-- The key means the target in the attributes and the heat in the telemetry. -/
theorem found_by_key_oven :
    ∃ device conversion, Device.ofConfig oven none .standard = .ok device ∧
      Converter.standard.convert device.toUplink ⟨ovenReadings, 12⟩ = .ok conversion ∧
      conversion.record.attribute? "heat" = some (.int 80) ∧
      conversion.record.telemetry? "heat" = some (9, .int 70) ∧
      conversion.record.attribute? "mode" = none := by
  obtain ⟨device, hbuilt⟩ : ∃ device, Device.ofConfig oven none .standard = .ok device := ⟨_, rfl⟩
  obtain ⟨hfound, hkeeps⟩ := found_by_key hbuilt
  have hkept : device.KeepsKeys := hkeeps fun strategy hnone => by cases hnone
  obtain ⟨conversion, hok⟩ : ∃ conversion,
      Converter.standard.convert device.toUplink ⟨ovenReadings, 12⟩ = .ok conversion := by
    rw [Device.toUplink_of_ofConfig hbuilt]
    exact ⟨_, rfl⟩
  have hheat := hfound hkept _ conversion hok "heat"
  have hmode := hfound hkept _ conversion hok "mode"
  have htarget : Chosen ovenReadings 1 "oven.target" ⟨"oven.target", .int 80, .good, none⟩ :=
    .inPlace rfl rfl
  have hown : Chosen ovenReadings 2 "oven.heat" ⟨"oven.heat", .int 70, .good, some (.millis 9)⟩ :=
    .first (fun _ hnone => by cases hnone) [] _ rfl rfl fun _ hnone => absurd hnone List.not_mem_nil
  refine ⟨device, conversion, hbuilt, hok, ?_, ?_, ?_⟩
  · exact (hheat.inAttributes _).mpr ⟨_, _, ⟨1, rfl, rfl, htarget⟩, rfl⟩
  · exact (hheat.inTelemetry _ _).mpr ⟨_, _, ⟨0, rfl, rfl, hown⟩, rfl, rfl⟩
  · apply hmode.notInAttributes.mpr
    simp [oven, ovenReadings]

end Conversion

end TagRelay
