import TagRelay.Proofs.Conversion.Entries

/-!
# Keys and strategies

A strategy has a say in the keys of entries and in nothing else: the conversion of a device is
the one without any strategies, with every entry put under the key that the strategy for its tag
decides.  Where that strategy fails, this is the declared key again.
-/

namespace TagRelay

def Tag.plain (tag : Tag) : Tag := { tag with strategy := none }

/-- The uplink without strategies. -/
def Uplink.plain (u : Uplink) : Uplink :=
  { u with tags := u.tags.map Tag.plain, strategy := none }

namespace Conversion

/-! ## The key of an entry -/

/-- The key that a strategy, if there is one, decides for a declared key. -/
inductive Decides (device declared : String) : Option ReportStrategy → String → Prop
  | none : Decides device declared none declared
  | resolved {strategy : ReportStrategy} {key : String}
      (hkey : strategy.resolveKey device declared = .ok key) :
      Decides device declared (some strategy) key
  | failed {strategy : ReportStrategy} {cause : StrategyError}
      (hcause : strategy.resolveKey device declared = .error cause) :
      Decides device declared (some strategy) declared

theorem decides_reportedKey (u : Uplink) (tag : Tag) :
    Decides u.name tag.key (u.strategyFor tag) (reportedKey u tag) := by
  rw [reportedKey]
  cases u.strategyFor tag with
  | none => exact .none
  | some strategy =>
      dsimp only
      cases hresolve : strategy.resolveKey u.name tag.key with
      | ok key => exact .resolved hresolve
      | error cause => exact .failed hresolve

/-- The keys of the entries of one section. -/
def reportedKeys (u : Uplink) (readings : List Reading) (place : Section) : List String :=
  (answered u readings place).map fun located => reportedKey u located.1

theorem decides_reportedKeys (u : Uplink) (readings : List Reading) (place : Section) :
    List.Forall₂ (fun located key => Decides u.name located.1.key (u.strategyFor located.1) key)
      (answered u readings place) (reportedKeys u readings place) := by
  rw [reportedKeys, List.forall₂_map_right_iff, List.forall₂_same]
  exact fun located _ => decides_reportedKey u located.1

theorem keys_entries (u : Uplink) (unit : Acquisition) (place : Section) :
    (entries u unit place).map Telemetry.key = reportedKeys u unit.readings place := by
  rw [reportedKeys, ← List.forall₂_eq_eq_eq, List.forall₂_map_left_iff,
    List.forall₂_map_right_iff]
  refine (forall₂_entries u unit place).flip.imp fun _ _ hreports => ?_
  obtain ⟨reading, -, rfl⟩ := hreports
  rfl

/-! ## Conversion without strategies -/

theorem answered_plain (u : Uplink) (readings : List Reading) (place : Section) :
    answered u.plain readings place = (answered u readings place).map (Prod.map Tag.plain id) := by
  have hlocated : u.plain.tags.zipIdx = u.tags.zipIdx.map (Prod.map Tag.plain id) :=
    List.zipIdx_map
  rw [answered, answered, hlocated, List.filter_map]
  rfl

theorem reportedKeys_plain (u : Uplink) (readings : List Reading) (place : Section) :
    reportedKeys u.plain readings place =
      (answered u readings place).map fun located => located.1.key := by
  rw [reportedKeys, answered_plain, List.map_map]
  rfl

theorem missing_plain (u : Uplink) (unit : Acquisition) :
    missing u.plain unit = missing u unit := by
  rw [missing_eq_countP, missing_eq_countP, Uplink.plain, List.countP_map]
  rfl

/-- Two entries of one tag, with its strategy and without, differ in their keys. -/
theorem Reports.rekeyed {u : Uplink} {unit : Acquisition} {located : Tag × Nat}
    {entry plain : Telemetry} (hentry : Reports u unit located entry)
    (hplain : Reports u.plain unit (located.map Tag.plain id) plain) :
    { plain with key := reportedKey u located.1 } = entry := by
  obtain ⟨reading, hchosen, rfl⟩ := hentry
  obtain ⟨again, hagain, rfl⟩ := hplain
  obtain rfl := hagain.unique hchosen
  rfl

theorem entries_eq_zipWith (u : Uplink) (unit : Acquisition) (place : Section) :
    entries u unit place =
      (reportedKeys u unit.readings place).zipWith (fun key entry => { entry with key := key })
        (entries u.plain unit place) := by
  have hentries := forall₂_entries u unit place
  have hplain := forall₂_entries u.plain unit place
  rw [answered_plain, List.forall₂_map_left_iff] at hplain
  rw [reportedKeys]
  -- Tag by tag along those that are answered, which are the same with and without strategies.
  generalize answered u unit.readings place = tags, entries u unit place = reports,
    entries u.plain unit place = plain at hentries hplain
  induction hentries generalizing plain with
  | nil => rfl
  | cons hentry _ ih =>
      cases hplain with
      | cons hfirst hrest =>
          rw [List.map_cons, List.zipWith_cons_cons, hentry.rekeyed hfirst, ← ih _ hrest]

/-- The conversion with the entries of each section under these keys. -/
def rekeyed (keys : Section → List String) (conversion : Conversion) : Conversion :=
  { conversion with
    record := { conversion.record with
      attributes :=
        (keys .attributes).zipWith (fun key entry => (key, entry.2)) conversion.record.attributes
      telemetry :=
        (keys .timeseries).zipWith (fun key entry => { entry with key := key })
          conversion.record.telemetry } }

theorem standard_eq_rekeyed (u : Uplink) (unit : Acquisition) :
    standard u unit = (standard u.plain unit).map (rekeyed (reportedKeys u unit.readings)) := by
  have htags : u.plain.hasTags = u.hasTags := congrArg not List.isEmpty_map
  rw [standard, standard, htags]
  split
  · rfl
  · rw [Except.map, rekeyed, missing_plain, entries_eq_zipWith u unit .attributes,
      entries_eq_zipWith u unit .timeseries, List.map_zipWith, List.zipWith_map_right,
      Uplink.plain, List.length_map]
    rfl

/-- The strategies decide these keys, and nothing else. -/
structure KeyedByStrategies (u : Uplink) (unit : Acquisition) (keys : Section → List String) :
    Prop where
  decided : ∀ place, List.Forall₂
    (fun located key => Decides u.name located.1.key (u.strategyFor located.1) key)
    (answered u unit.readings place) (keys place)
  rest : Converter.standard.convert u unit =
    (Converter.standard.convert u.plain unit).map (rekeyed keys)
  /-- Without strategies, all keys are the declared ones. -/
  declared : ∀ conversion, Converter.standard.convert u.plain unit = .ok conversion →
    conversion.record.attributes.map Prod.fst =
      (answered u unit.readings .attributes).map (fun located => located.1.key) ∧
    conversion.record.telemetry.map Telemetry.key =
      (answered u unit.readings .timeseries).map fun located => located.1.key

theorem keyedByStrategies (u : Uplink) (unit : Acquisition) :
    KeyedByStrategies u unit (reportedKeys u unit.readings) := by
  constructor
  case decided => exact decides_reportedKeys u unit.readings
  case rest => exact standard_eq_rekeyed u unit
  case declared =>
    intro conversion hok
    obtain ⟨hattributes, htelemetry, -⟩ := eq_of_standard_ok hok
    rw [hattributes, htelemetry, List.map_map, ← reportedKeys_plain, ← reportedKeys_plain,
      ← keys_entries, ← keys_entries]
    exact ⟨rfl, rfl⟩

end Conversion

end TagRelay
