import TagRelay.Proofs.Conversion.Keys
import TagRelay.Proofs.Pipeline.Assembly

/-!
# Strategies that cannot be used

A strategy that cannot be used counts as not declared, be it the one of a tag, of a device or of
the connector: a connector is the same without it.  So the first one that can be used, in this
order, is the one that decides the key of a tag.
-/

namespace TagRelay

/-! ## Declarations without unusable strategies -/

namespace Config

/-- Periodic, but with no period or an empty one. -/
def Strategy.Unusable (s : Strategy) : Prop :=
  s.kind.requiresPeriod = true ∧ (s.period = none ∨ s.period = some 0)

instance : DecidablePred Strategy.Unusable := fun _ => inferInstanceAs (Decidable (_ ∧ _))

/-- What is declared, unless it is unusable. -/
def usable? (declared : Option Strategy) : Option Strategy := declared.filter fun s => ¬ s.Unusable

/-- The first of these that is declared and not unusable. -/
def firstUsable (declared : List (Option Strategy)) : Option Strategy :=
  declared.findSome? usable?

def Tag.pruned (t : Tag) : Tag := { t with strategy := usable? t.strategy }

def Device.pruned (d : Device) : Device :=
  { d with
    strategy := usable? d.strategy
    attributes := d.attributes.map Tag.pruned
    timeseries := d.timeseries.map Tag.pruned }

def Connector.pruned (c : Connector) : Connector :=
  { c with strategy := usable? c.strategy, devices := c.devices.map Device.pruned }

@[simp]
theorem usable?_usable? (declared : Option Strategy) :
    usable? (usable? declared) = usable? declared := by
  simp [usable?, Option.filter_filter]

@[simp]
theorem firstUsable_nil : firstUsable [] = none := rfl

@[simp]
theorem firstUsable_cons (first : Option Strategy) (rest : List (Option Strategy)) :
    firstUsable (first :: rest) = (usable? first).or (firstUsable rest) := by
  rw [firstUsable, List.findSome?_cons]
  cases usable? first <;> rfl

/-! ## Validation -/

theorem tagViolations_pruned (device : String) (place : Section) (seen : List String)
    (tags : List Tag) :
    tagViolations device place seen (tags.map Tag.pruned) =
      tagViolations device place seen tags := by
  induction tags generalizing seen with
  | nil => rfl
  | cons tag rest ih =>
      rw [List.map_cons, tagViolations, tagViolations, ih]
      rfl

/-- Strategies have no part in validation. -/
theorem Device.validate_pruned (d : Device) : d.pruned.validate = d.validate := by
  rw [validate, validate, violations, violations, pruned, tagViolations_pruned,
    tagViolations_pruned]

end Config

/-! ## Strategies of built devices -/

namespace ReportStrategy

theorem ofConfig?_eq (declared : Config.Strategy) :
    ofConfig? declared = if declared.Unusable then none else some (configured declared) := by
  obtain ⟨kind, period⟩ := declared
  cases hkind : kind.requiresPeriod with
  | false => simp [ofConfig?, ofConfig, Config.Strategy.Unusable, hkind, Except.toOption]
  | true =>
      rcases period with _ | _ | period <;>
        simp [ofConfig?, ofConfig, Config.Strategy.Unusable, hkind, Except.toOption]

theorem bind_ofConfig? (declared : Option Config.Strategy) :
    declared.bind ofConfig? = (Config.usable? declared).map configured := by
  cases declared with
  | none => rfl
  | some s =>
      by_cases hunusable : s.Unusable <;>
        simp [ofConfig?_eq, Config.usable?, Option.filter_some, hunusable]

end ReportStrategy

namespace Device

theorem tagOfConfig_pruned (place : Section) (tag : Config.Tag) :
    tagOfConfig place tag.pruned = tagOfConfig place tag := by
  simp [tagOfConfig, Config.Tag.pruned, ReportStrategy.bind_ofConfig?]

theorem uplinkOfConfig_pruned (declared : Config.Device) (fallback : Option ReportStrategy) :
    uplinkOfConfig declared.pruned fallback = uplinkOfConfig declared fallback := by
  simp [uplinkOfConfig, Config.Device.pruned, ReportStrategy.bind_ofConfig?, Function.comp_def,
    tagOfConfig_pruned]

theorem ofConfig_pruned (declared : Config.Device) (fallback : Option ReportStrategy)
    (registry : Registry) :
    ofConfig declared.pruned fallback registry = ofConfig declared fallback registry := by
  rw [ofConfig, ofConfig, declared.validate_pruned, uplinkOfConfig_pruned]
  rfl

/-- Every tag goes by the first usable strategy of its own and of its device, and by the one that
the device was given only if there is none. -/
theorem strategies_of_ofConfig {declared : Config.Device} {fallback : Option ReportStrategy}
    {registry : Registry} {device : Device}
    (hbuilt : ofConfig declared fallback registry = .ok device) :
    List.Forall₂ (fun tag own => device.strategyFor own =
        ((Config.firstUsable [tag.strategy, declared.strategy]).map .configured).or fallback)
      (declared.attributes ++ declared.timeseries) device.tags := by
  rw [toUplink_of_ofConfig hbuilt]
  have htag : ∀ place tag, (uplinkOfConfig declared fallback).strategyFor (tagOfConfig place tag) =
      ((Config.firstUsable [tag.strategy, declared.strategy]).map .configured).or fallback := by
    intro place tag
    rw [Uplink.strategyFor, tagOfConfig, uplinkOfConfig, ReportStrategy.bind_ofConfig?,
      ReportStrategy.bind_ofConfig?]
    simp [Option.map_or, Option.or_assoc]
  apply List.rel_append <;> rw [List.forall₂_map_right_iff, List.forall₂_same] <;>
    exact fun tag _ => htag _ tag

end Device

namespace Connector

theorem buildDevices_pruned (strategy : Option ReportStrategy) (registry : Registry)
    (declared : List Config.Device) :
    buildDevices strategy registry (declared.map Config.Device.pruned) =
      buildDevices strategy registry declared := by
  induction declared with
  | nil => rfl
  | cons first rest ih =>
      rw [List.map_cons, buildDevices_cons, buildDevices_cons, Device.ofConfig_pruned, ih]

theorem build_pruned (declared : Config.Connector) (registry : Registry) :
    build declared.pruned registry = build declared registry := by
  have hfallback : fallback declared.pruned = fallback declared := by
    simp [fallback, Config.Connector.pruned, ReportStrategy.bind_ofConfig?]
  rw [build_eq, build_eq, hfallback, Config.Connector.pruned, buildDevices_pruned]
  rfl

/-- In a connector, the strategy of the connector comes last. -/
theorem strategies_of_build {declared : Config.Connector} {registry : Registry}
    {own : Config.Device} {entry : String × Device}
    (hbuilt : Built (fallback declared) registry own entry) :
    List.Forall₂ (fun tag built => entry.2.strategyFor built =
        (Config.firstUsable [tag.strategy, own.strategy, declared.strategy]).map .configured)
      (own.attributes ++ own.timeseries) entry.2.tags := by
  refine (Device.strategies_of_ofConfig hbuilt.built).imp fun tag built hstrategy => ?_
  rw [hstrategy, fallback, ReportStrategy.bind_ofConfig?]
  simp [Option.map_or, Option.or_assoc]

/-- Without its unusable strategies a declaration is built in the same way, or fails in the same
way, and gives the same devices.  Every tag goes by the first usable strategy of its own, of its
device and of the connector, and a strategy given from elsewhere comes last.  In the conversion,
the strategies for the tags decide the keys; where there is none or where it fails the declared
key stays, and apart from keys the conversion is the one without any strategies. -/
theorem strategies_fall_through (declared : Config.Connector) (registry : Registry) :
    build declared.pruned registry = build declared registry ∧
    (∀ c, build declared registry = .ok c → ∀ entry ∈ c.devices,
      ∃ own ∈ declared.devices, Built (fallback declared) registry own entry ∧
        List.Forall₂ (fun tag built => entry.2.strategyFor built =
            (Config.firstUsable [tag.strategy, own.strategy, declared.strategy]).map .configured)
          (own.attributes ++ own.timeseries) entry.2.tags) ∧
    (∀ (own : Config.Device) (strategy : Option ReportStrategy),
      Device.ofConfig own.pruned strategy registry = Device.ofConfig own strategy registry ∧
      ∀ device, Device.ofConfig own strategy registry = .ok device →
        List.Forall₂ (fun tag built => device.strategyFor built =
            ((Config.firstUsable [tag.strategy, own.strategy]).map .configured).or strategy)
          (own.attributes ++ own.timeseries) device.tags) ∧
    ∀ (u : Uplink) (unit : Acquisition), ∃ keys, Conversion.KeyedByStrategies u unit keys := by
  refine ⟨build_pruned declared registry, ?_, ?_, fun u unit =>
    ⟨_, Conversion.keyedByStrategies u unit⟩⟩
  · intro c hbuild entry hentry
    obtain ⟨earlier, own, later, hsplit, -, hbuilt⟩ := (assembled_of_build hbuild).last entry hentry
    have hown : own ∈ declared.devices := by
      rw [hsplit]
      exact List.mem_append_right _ (.head _)
    exact ⟨own, hown, hbuilt, strategies_of_build hbuilt⟩
  · intro own strategy
    exact ⟨Device.ofConfig_pruned own strategy registry,
      fun device hbuilt => Device.strategies_of_ofConfig hbuilt⟩

/-- A kiln that reports on change, because its own strategy has an empty period and that of its
tag none at all. -/
def periodlessKiln : Config.Connector where
  strategy := some { kind := .onChange }
  devices :=
    [{ name := "kiln"
       strategy := some { kind := .onReportPeriod, period := some 0 }
       attributes :=
        [{ key := "mode", path := "kiln.mode"
           strategy := some { kind := .onChangeOrReportPeriod } }] }]

/-- A strategy that resolves no key. -/
def outOfOrder : ReportStrategy := ⟨"out of order", fun _ _ => .error .zeroPeriod⟩

/-- The strategy of the connector applies to the kiln, and one that is out of order leaves the
conversion for a boiler as it was. -/
theorem strategies_fall_through_of_kiln :
    (∃ c device, build periodlessKiln .standard = .ok c ∧
      build periodlessKiln.pruned .standard = .ok c ∧ c.devices = [("kiln", device)] ∧
      ∀ tag ∈ device.tags, device.strategyFor tag = some (.configured { kind := .onChange })) ∧
    Converter.standard.convert { Conversion.boiler.toUplink with strategy := some outOfOrder }
        ⟨Conversion.boilerReadings, 0⟩ =
      Converter.standard.convert Conversion.boiler.toUplink ⟨Conversion.boilerReadings, 0⟩ := by
  obtain ⟨hpruned, hstrategies, -, hkeys⟩ := strategies_fall_through periodlessKiln .standard
  refine ⟨⟨_, _, rfl, hpruned, rfl, ?_⟩, ?_⟩
  · obtain ⟨own, hown, -, htags⟩ := hstrategies _ rfl _ (.head _)
    obtain rfl := List.mem_singleton.mp hown
    intro tag htag
    obtain rfl := List.mem_singleton.mp htag
    exact (List.forall₂_cons.mp htags).1
  · obtain ⟨keys, hkeyed⟩ := hkeys
      { Conversion.boiler.toUplink with strategy := some outOfOrder } ⟨Conversion.boilerReadings, 0⟩
    have hfails : ∀ declared key,
        Conversion.Decides "boiler" declared (some outOfOrder) key → key = declared := by
      intro declared key hkey
      cases hkey with
      | resolved hresolved => cases hresolved
      | failed => rfl
    have hdeclared : keys =
        Conversion.reportedKeys Conversion.boiler.toUplink Conversion.boilerReadings := by
      funext place
      cases place with
      | attributes =>
          obtain ⟨key, rest, hkey, hrest, hkeys⟩ :=
            List.forall₂_cons_left_iff.mp (hkeyed.decided .attributes)
          rw [hkeys, hfails _ _ hkey, List.forall₂_nil_left_iff.mp hrest]
          rfl
      | timeseries =>
          obtain ⟨key, rest, hkey, hrest, hkeys⟩ :=
            List.forall₂_cons_left_iff.mp (hkeyed.decided .timeseries)
          rw [hkeys, hfails _ _ hkey, List.forall₂_nil_left_iff.mp hrest]
          rfl
    rw [hkeyed.rest, hdeclared]
    rfl

end Connector

end TagRelay
