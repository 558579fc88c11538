import Mathlib.Data.List.Forall2
import TagRelay.Pipeline.Connector
import TagRelay.Proofs.Config.Checks
import TagRelay.Proofs.Device
import TagRelay.Proofs.Roster

/-!
# Assembly of connectors

A connector can be assembled exactly if every device it declares can be built, and the first
device that cannot is the reason why not.  Its devices stand in the order in which their names
were declared first, and each is built from the last declaration of its name; so a valid
configuration has just the devices that it declares.
-/

namespace TagRelay.Connector

/-! ## Lists of devices -/

section Devices

variable {strategy : Option ReportStrategy} {registry : Registry}

theorem buildDevices_cons (strategy : Option ReportStrategy) (registry : Registry)
    (declared : Config.Device) (rest : List Config.Device) :
    buildDevices strategy registry (declared :: rest) =
      match Device.ofConfig declared strategy registry with
      | .error cause => .error cause
      | .ok device => (buildDevices strategy registry rest).map (device :: ·) := by
  rw [buildDevices]
  cases Device.ofConfig declared strategy registry with
  | error cause => rfl
  | ok device => cases buildDevices strategy registry rest <;> rfl

theorem buildDevices_eq_ok_iff {declared : List Config.Device} {devices : List Device} :
    buildDevices strategy registry declared = .ok devices ↔
      List.Forall₂ (fun declared device => Device.ofConfig declared strategy registry = .ok device)
        declared devices := by
  induction declared generalizing devices with
  | nil => cases devices <;> simp [buildDevices]
  | cons first rest ih =>
      rw [buildDevices_cons]
      cases hfirst : Device.ofConfig first strategy registry with
      | error cause => cases devices <;> simp [hfirst]
      | ok device =>
          cases hrest : buildDevices strategy registry rest with
          | error cause => cases devices <;> simp [hfirst, Except.map, ← ih, hrest]
          | ok built => cases devices <;> simp [hfirst, Except.map, ← ih, hrest]

/-- The first device that is refused is reported. -/
theorem buildDevices_eq_error_iff {declared : List Config.Device} {cause : ConnectorError} :
    buildDevices strategy registry declared = .error cause ↔
      ∃ before refused after, declared = before ++ refused :: after ∧
        (∀ device ∈ before, device.Buildable registry) ∧
        Device.Refused registry refused cause := by
  induction declared with
  | nil => simp [buildDevices]
  | cons first rest ih =>
      have hrefused : Device.Refused registry first cause ↔
          Device.ofConfig first strategy registry = .error cause :=
        Device.ofConfig_eq_error_iff.symm
      have hbuildable : first.Buildable registry ↔
          ∃ device, Device.ofConfig first strategy registry = .ok device :=
        Device.exists_ofConfig_iff.symm
      rw [Config.exists_first_cons_iff, ← ih, hrefused, hbuildable, buildDevices_cons]
      cases Device.ofConfig first strategy registry with
      | error other => simp
      | ok device => cases buildDevices strategy registry rest <;> simp [Except.map]

theorem exists_buildDevices_iff {declared : List Config.Device} :
    (∃ devices, buildDevices strategy registry declared = .ok devices) ↔
      ∀ device ∈ declared, device.Buildable registry := by
  induction declared with
  | nil => simp [buildDevices]
  | cons first rest ih =>
      have hbuilds : first.Buildable registry ↔
          ∃ device, Device.ofConfig first strategy registry = .ok device :=
        Device.exists_ofConfig_iff.symm
      rw [List.forall_mem_cons, ← ih, hbuilds, buildDevices_cons]
      cases Device.ofConfig first strategy registry with
      | error cause => simp
      | ok device => cases buildDevices strategy registry rest <;> simp [Except.map]

end Devices

/-! ## Connectors -/

/-- The strategy of the devices that have none. -/
def fallback (declared : Config.Connector) : Option ReportStrategy :=
  declared.strategy.bind ReportStrategy.ofConfig?

/-- The connector with these devices. -/
def assemble (declared : Config.Connector) (devices : List Device) : Connector where
  name := declared.name
  id := declared.id
  server := declared.server
  devices := rosterOf devices
  type := declared.type

theorem build_eq (declared : Config.Connector) (registry : Registry) :
    build declared registry =
      (buildDevices (fallback declared) registry declared.devices).map (assemble declared) := by
  rw [build, fallback]
  cases buildDevices (declared.strategy.bind ReportStrategy.ofConfig?) registry declared.devices <;>
    rfl

theorem build_eq_ok_iff {declared : Config.Connector} {registry : Registry} {c : Connector} :
    build declared registry = .ok c ↔
      ∃ devices, buildDevices (fallback declared) registry declared.devices = .ok devices ∧
        assemble declared devices = c := by
  rw [build_eq]
  cases buildDevices (fallback declared) registry declared.devices <;> simp [Except.map]

theorem build_eq_error_iff {declared : Config.Connector} {registry : Registry}
    {cause : ConnectorError} :
    build declared registry = .error cause ↔
      buildDevices (fallback declared) registry declared.devices = .error cause := by
  rw [build_eq]
  cases buildDevices (fallback declared) registry declared.devices <;> simp [Except.map]

/-- A device under its name, built from a declaration. -/
structure Built (fallback : Option ReportStrategy) (registry : Registry)
    (declared : Config.Device) (entry : String × Device) : Prop where
  name : entry.1 = declared.name
  built : Device.ofConfig declared fallback registry = .ok entry.2
  mirrors : Device.Mirrors declared entry.2

section Entries

variable {strategy : Option ReportStrategy} {registry : Registry} {declared : List Config.Device}

/-- The devices of a list of declarations under their names. -/
theorem built_of_buildDevices {devices : List Device}
    (hdevices : buildDevices strategy registry declared = .ok devices) :
    List.Forall₂ (Built strategy registry) declared
      (devices.map fun device => (device.name, device)) := by
  rw [List.forall₂_map_right_iff]
  refine (buildDevices_eq_ok_iff.mp hdevices).imp fun first device hbuilt => ?_
  have hmirrors := Device.mirrors_of_ofConfig hbuilt
  exact ⟨hmirrors.name, hbuilt, hmirrors⟩

theorem names_of_built {entries : List (String × Device)}
    (hbuilt : List.Forall₂ (Built strategy registry) declared entries) :
    Roster.names entries = declared.map Config.Device.name := by
  rw [Roster.names, ← List.forall₂_eq_eq_eq, List.forall₂_map_left_iff,
    List.forall₂_map_right_iff]
  exact hbuilt.flip.imp fun _ _ hentry => hentry.name

/-- The declaration of a device, and those that come after it. -/
theorem declaration_of_built {before after : List (String × Device)} {entry : String × Device}
    (hbuilt : List.Forall₂ (Built strategy registry) declared (before ++ entry :: after)) :
    ∃ earlier own later, declared = earlier ++ own :: later ∧ Built strategy registry own entry ∧
      List.Forall₂ (Built strategy registry) later after := by
  induction before generalizing declared with
  | nil =>
      obtain ⟨own, later, hown, hlater, rfl⟩ := List.forall₂_cons_right_iff.mp hbuilt
      exact ⟨[], own, later, rfl, hown, hlater⟩
  | cons head before ih =>
      obtain ⟨first, rest, -, hrest, rfl⟩ := List.forall₂_cons_right_iff.mp hbuilt
      obtain ⟨earlier, own, later, rfl, hown, hlater⟩ := ih hrest
      exact ⟨first :: earlier, own, later, rfl, hown, hlater⟩

end Entries

/-- What the devices of a connector are. -/
structure Assembled (declared : Config.Connector) (registry : Registry) (c : Connector) :
    Prop where
  /-- Each name once, where it is declared first. -/
  names : c.devices.names = (declared.devices.map Config.Device.name).eraseDups
  distinct : c.devices.names.Nodup
  last : ∀ entry ∈ c.devices, ∃ earlier last later,
    declared.devices = earlier ++ last :: later ∧ (∀ other ∈ later, other.name ≠ last.name) ∧
      Built (fallback declared) registry last entry
  /-- A valid configuration has just the devices that it declares. -/
  valid : declared.validate = .ok () →
    List.Forall₂ (Built (fallback declared) registry) declared.devices c.devices

theorem assembled_of_build {declared : Config.Connector} {registry : Registry} {c : Connector}
    (hbuild : build declared registry = .ok c) : Assembled declared registry c := by
  obtain ⟨devices, hdevices, rfl⟩ := build_eq_ok_iff.mp hbuild
  have hbuilt := built_of_buildDevices hdevices
  have hnames := names_of_built hbuilt
  constructor
  case names => exact (Roster.names_ofList _).trans (congrArg List.eraseDups hnames)
  case distinct => exact Roster.nodup_ofList _
  case last =>
    intro entry hentry
    obtain ⟨before, after, hsplit, hafter⟩ := Roster.last_of_mem_ofList hentry
    rw [hsplit] at hbuilt
    obtain ⟨earlier, own, later, hdeclared, hown, hlater⟩ := declaration_of_built hbuilt
    refine ⟨earlier, own, later, hdeclared, fun other hother hname => ?_, hown⟩
    -- A later declaration of this name would have been entered after it.
    have hmem : own.name ∈ Roster.names after := by
      rw [names_of_built hlater]
      exact List.mem_map.mpr ⟨other, hother, hname⟩
    obtain ⟨again, hagain, heq⟩ := List.mem_map.mp hmem
    exact hafter again hagain (heq.trans hown.name.symm)
  case valid =>
    intro hvalid
    have hdistinct := ((Config.Connector.validate_eq_ok_iff declared).mp hvalid).distinct
    rw [← hnames] at hdistinct
    rw [assemble, rosterOf, Roster.ofList_of_nodup hdistinct]
    exact hbuilt

/-- A connector is built exactly if all its devices can be, and fails with the reason of the
first that cannot.  Its devices stand under distinct names in the order in which these were
declared first, each with what was declared last under its name, and have the tags of their
declarations in order. -/
theorem build_by_declaration (declared : Config.Connector) (registry : Registry) :
    ((∃ c, build declared registry = .ok c) ↔
      ∀ device ∈ declared.devices, device.Buildable registry) ∧
    (∀ cause, build declared registry = .error cause ↔
      ∃ before refused after, declared.devices = before ++ refused :: after ∧
        (∀ device ∈ before, device.Buildable registry) ∧
        Device.Refused registry refused cause) ∧
    ∀ c, build declared registry = .ok c → Assembled declared registry c := by
  refine ⟨?_, fun cause => build_eq_error_iff.trans buildDevices_eq_error_iff,
    fun c => assembled_of_build⟩
  rw [← exists_buildDevices_iff]
  constructor
  · rintro ⟨c, hbuild⟩
    obtain ⟨devices, hdevices, -⟩ := build_eq_ok_iff.mp hbuild
    exact ⟨devices, hdevices⟩
  · rintro ⟨devices, hdevices⟩
    exact ⟨_, build_eq_ok_iff.mpr ⟨devices, hdevices, rfl⟩⟩

/-- A kiln that is declared again after an oven, and then a vat with a converter of its own. -/
def repeatedKiln : Config.Connector where
  devices :=
    [{ name := "kiln", attributes := [{ key := "mode", path := "kiln.mode" }] }, { name := "oven" },
      { name := "kiln", profile := "rotary" }, { name := "vat", converter := some "brewing" }]

/-- The kiln keeps its place before the oven and is what was declared last; the vat can be built
only if there is such a converter. -/
theorem build_by_declaration_of_kiln :
    build repeatedKiln .standard = .error (.unknownConverter "brewing") ∧
      ∃ c, build repeatedKiln (Registry.standard.register "brewing" .standard) = .ok c ∧
        c.devices.names = ["kiln", "oven", "vat"] ∧
        (c.devices.find? "kiln").map (fun kiln => (kiln.profile, kiln.tagPaths)) =
          some ("rotary", []) := by
  refine ⟨?_, ?_⟩
  · refine ((build_by_declaration repeatedKiln .standard).2.1 _).mpr
      ⟨repeatedKiln.devices.take 3, { name := "vat", converter := some "brewing" }, [], rfl, ?_,
        .unregistered rfl rfl⟩
    intro device hdevice
    simp only [repeatedKiln, List.take, List.mem_cons, List.not_mem_nil, or_false] at hdevice
    rcases hdevice with rfl | rfl | rfl <;> exact ⟨rfl, rfl⟩
  · obtain ⟨-, -, hassembled⟩ :=
      build_by_declaration repeatedKiln (Registry.standard.register "brewing" .standard)
    exact ⟨_, rfl, (hassembled _ rfl).names, rfl⟩

end TagRelay.Connector
