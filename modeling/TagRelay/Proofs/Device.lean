import TagRelay.Device

/-!
# Building devices

A device is built from its declaration if that is valid and its converter is registered, and is
refused otherwise, with the first of the two that fails.  Its tags are those of the attributes
followed by those of the timeseries.
-/

namespace TagRelay

/-- The id of the converter that a device wants. -/
def Config.Device.converterId (declared : Config.Device) : String :=
  declared.converter.getD Registry.defaultId

structure Config.Device.Buildable (declared : Config.Device) (registry : Registry) : Prop where
  valid : declared.validate = .ok ()
  registered : registry.contains declared.converterId = true

namespace Device

/-- Why a device is refused. -/
inductive Refused (registry : Registry) (declared : Config.Device) : ConnectorError → Prop
  | invalid {violation : Config.Violation} (hinvalid : declared.validate = .error violation) :
      Refused registry declared (.invalidDevice declared.name violation.message)
  | unregistered (hvalid : declared.validate = .ok ())
      (hunknown : registry.contains declared.converterId = false) :
      Refused registry declared (.unknownConverter declared.converterId)

/-- What a built device takes over from its declaration. -/
structure Mirrors (declared : Config.Device) (device : Device) : Prop where
  name : device.name = declared.name
  profile : device.profile = declared.profile
  tags : device.tags.map (fun tag =>
      (tag.place, tag.key, tag.path, tag.timestampLocation, tag.valueType)) =
    declared.attributes.map (fun tag =>
      (.attributes, tag.key, tag.path, tag.timestampLocation, tag.valueType)) ++
    declared.timeseries.map fun tag =>
      (.timeseries, tag.key, tag.path, tag.timestampLocation, tag.valueType)
  /-- The declared paths are asked for, those of the attributes first. -/
  asked : device.tagPaths =
    declared.attributes.map Config.Tag.path ++ declared.timeseries.map Config.Tag.path
  /-- Paths are asked for in the order of the tags. -/
  paths : ∀ i : Nat, device.tagPaths[i]? = device.tags[i]?.map Tag.path

variable {declared : Config.Device} {fallback : Option ReportStrategy} {registry : Registry}

theorem resolve_cases (registry : Registry) (declared : Config.Device) :
    (registry.contains declared.converterId = false ∧
      registry.resolve declared.converter = .error (.unknownConverter declared.converterId)) ∨
    (registry.contains declared.converterId = true ∧
      ∃ converter, registry.resolve declared.converter = .ok converter) := by
  unfold Registry.resolve Registry.contains Config.Device.converterId
  cases hfound : registry.converters.find? (declared.converter.getD Registry.defaultId) with
  | none => exact Or.inl ⟨rfl, by simp [hfound]⟩
  | some converter => exact Or.inr ⟨rfl, converter, by simp [hfound]⟩

/-- A device is refused, or built from its declaration. -/
theorem ofConfig_cases (declared : Config.Device) (fallback : Option ReportStrategy)
    (registry : Registry) :
    (∃ cause, Refused registry declared cause ∧
      ofConfig declared fallback registry = .error cause) ∨
    (declared.Buildable registry ∧
      ∃ device, ofConfig declared fallback registry = .ok device ∧
        device.toUplink = uplinkOfConfig declared fallback) := by
  cases hvalid : declared.validate with
  | error violation =>
      refine Or.inl ⟨_, .invalid hvalid, ?_⟩
      rw [ofConfig, hvalid]
  | ok =>
      rcases resolve_cases registry declared with
        ⟨hunknown, hresolve⟩ | ⟨hknown, converter, hresolve⟩
      · refine Or.inl ⟨_, .unregistered hvalid hunknown, ?_⟩
        simp only [ofConfig, hvalid, hresolve]
      · refine Or.inr ⟨⟨hvalid, hknown⟩, ?_⟩
        simp only [ofConfig, hvalid, hresolve]
        exact ⟨_, rfl, rfl⟩

theorem Refused.not_buildable {cause : ConnectorError}
    (hrefused : Refused registry declared cause) : ¬ declared.Buildable registry := by
  rintro ⟨hvalid, hknown⟩
  cases hrefused with
  | invalid hinvalid => simp [hvalid] at hinvalid
  | unregistered _ hunknown => simp [hknown] at hunknown

/-- A declaration is refused in one way. -/
theorem Refused.unique {cause other : ConnectorError} (hcause : Refused registry declared cause)
    (hother : Refused registry declared other) : cause = other := by
  cases hcause with
  | invalid hinvalid =>
      cases hother with
      | invalid hagain => rw [Except.error.inj (hinvalid.symm.trans hagain)]
      | unregistered hvalid _ => simp [hvalid] at hinvalid
  | unregistered hvalid _ =>
      cases hother with
      | invalid hinvalid => simp [hvalid] at hinvalid
      | unregistered => rfl

theorem ofConfig_eq_error_iff {cause : ConnectorError} :
    ofConfig declared fallback registry = .error cause ↔ Refused registry declared cause := by
  rcases ofConfig_cases declared fallback registry with
    ⟨other, hrefused, hbuilt⟩ | ⟨hbuildable, device, hbuilt, -⟩
  · rw [hbuilt, Except.error.injEq]
    constructor
    · rintro rfl
      exact hrefused
    · exact hrefused.unique
  · rw [hbuilt]
    constructor
    · intro hcause
      cases hcause
    · intro hrefused
      exact absurd hbuildable hrefused.not_buildable

theorem exists_ofConfig_iff :
    (∃ device, ofConfig declared fallback registry = .ok device) ↔
      declared.Buildable registry := by
  rcases ofConfig_cases declared fallback registry with
    ⟨other, hrefused, hbuilt⟩ | ⟨hbuildable, device, hbuilt, -⟩
  · simp [hbuilt, hrefused.not_buildable]
  · simp [hbuilt, hbuildable]

theorem toUplink_of_ofConfig {device : Device}
    (hbuilt : ofConfig declared fallback registry = .ok device) :
    device.toUplink = uplinkOfConfig declared fallback := by
  rcases ofConfig_cases declared fallback registry with
    ⟨other, -, hother⟩ | ⟨-, other, hother, huplink⟩
  · rw [hbuilt] at hother
    cases hother
  · rw [hbuilt] at hother
    cases hother
    exact huplink

theorem mirrors_of_ofConfig {device : Device}
    (hbuilt : ofConfig declared fallback registry = .ok device) : Mirrors declared device := by
  have huplink := toUplink_of_ofConfig hbuilt
  have htags : device.tags = declared.attributes.map (tagOfConfig .attributes) ++
      declared.timeseries.map (tagOfConfig .timeseries) := congrArg Uplink.tags huplink
  constructor
  case name => exact congrArg Uplink.name huplink
  case profile => exact congrArg Uplink.profile huplink
  case tags =>
    rw [htags, List.map_append, List.map_map, List.map_map]
    rfl
  case asked =>
    rw [Uplink.tagPaths, htags, List.map_append, List.map_map, List.map_map]
    rfl
  case paths =>
    intro i
    rw [Uplink.tagPaths, List.getElem?_map]

end Device

end TagRelay
