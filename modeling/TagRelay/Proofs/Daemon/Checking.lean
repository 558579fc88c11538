import TagRelay.Daemon.Check
import TagRelay.Proofs.Config.Loading
import TagRelay.Proofs.Daemon.CommandLine
import TagRelay.Proofs.Pipeline.Assembly

/-!
# What a check accepts

A configuration is accepted exactly if it can be loaded and no device wants a converter other than
the standard one, which is when a connector can be built from it.  The summary is then that of the
declared devices, in their order.
-/

namespace TagRelay

/-! ## Connectors with the standard converter -/

/-- The device names no converter, or the standard one by either of its ids. -/
def Config.Device.WantsStandard (declared : Config.Device) : Prop :=
  ∀ id, declared.converter = some id → id = "default" ∨ id = "opcda"

theorem Registry.contains_standard_iff {id : String} :
    Registry.standard.contains id = true ↔ id = "default" ∨ id = "opcda" := by
  have hconverters :
      Registry.standard.converters = [("default", .standard), ("opcda", .standard)] := rfl
  rw [Registry.contains, hconverters]
  by_cases hdefault : id = "default"
  · simp [Roster.find?, hdefault]
  · by_cases hopcda : id = "opcda"
    · simp [Roster.find?, hopcda]
    · simp [Roster.find?, hdefault, hopcda, Ne.symm hdefault, Ne.symm hopcda]

theorem Device.contains_converterId_iff {declared : Config.Device} :
    Registry.standard.contains declared.converterId = true ↔ declared.WantsStandard := by
  rw [Registry.contains_standard_iff, Config.Device.converterId, Config.Device.WantsStandard]
  cases declared.converter with
  | none => simp [Registry.defaultId]
  | some id => simp

namespace Connector

theorem exists_build_iff {declared : Config.Connector} {registry : Registry} :
    (∃ c, build declared registry = .ok c) ↔
      ∀ device ∈ declared.devices, device.Buildable registry := by
  rw [← exists_buildDevices_iff, build_eq]
  cases buildDevices (fallback declared) registry declared.devices <;> simp [Except.map]

variable {declared : Config.Connector} (hsound : declared.Sound)
include hsound

theorem validate_of_sound {device : Config.Device} (hdevice : device ∈ declared.devices) :
    device.validate = .ok () :=
  device.validate_eq_ok_iff.mpr (hsound.devices device hdevice)

theorem buildable_iff {device : Config.Device} (hdevice : device ∈ declared.devices) :
    device.Buildable .standard ↔ device.WantsStandard := by
  rw [← Device.contains_converterId_iff]
  exact ⟨fun hbuildable => hbuildable.registered,
    fun hregistered => ⟨validate_of_sound hsound hdevice, hregistered⟩⟩

theorem exists_build_standard_iff :
    (∃ c, build declared .standard = .ok c) ↔
      ∀ device ∈ declared.devices, device.WantsStandard := by
  rw [exists_build_iff]
  exact forall₂_congr fun device hdevice => buildable_iff hsound hdevice

/-- The first device that wants another converter is reported, with the id of that. -/
theorem unknown_of_build {cause : ConnectorError}
    (hbuild : build declared .standard = .error cause) :
    ∃ before device after id, declared.devices = before ++ device :: after ∧
      (∀ other ∈ before, other.WantsStandard) ∧ device.converter = some id ∧
      id ≠ "default" ∧ id ≠ "opcda" ∧ cause = .unknownConverter id := by
  obtain ⟨before, device, after, hdevices, hbefore, hrefused⟩ :=
    buildDevices_eq_error_iff.mp (build_eq_error_iff.mp hbuild)
  have hmem : ∀ other ∈ before, other ∈ declared.devices := by
    intro other hother
    rw [hdevices]
    exact List.mem_append_left _ hother
  have hdevice : device ∈ declared.devices := by
    rw [hdevices]
    exact List.mem_append_right _ List.mem_cons_self
  have hstandard : ∀ other ∈ before, other.WantsStandard := fun other hother =>
    (buildable_iff hsound (hmem other hother)).mp (hbefore other hother)
  cases hrefused with
  | invalid hinvalid =>
      rw [validate_of_sound hsound hdevice] at hinvalid
      nomatch hinvalid
  | unregistered _ hunknown =>
      have hother : ¬device.WantsStandard := fun hwants => by
        rw [Device.contains_converterId_iff.mpr hwants] at hunknown
        nomatch hunknown
      simp only [Config.Device.WantsStandard, not_forall, not_or] at hother
      obtain ⟨id, hid, hdefault, hopcda⟩ := hother
      refine ⟨before, device, after, id, hdevices, hstandard, hid, hdefault, hopcda, ?_⟩
      rw [Config.Device.converterId, hid]
      rfl

end Connector

namespace Daemon

/-! ## Summaries -/

/-- What is printed of a declared device. -/
def declaredSummary (declared : Config.Device) : Json :=
  .object
    [("name", .string declared.name), ("profile", .string declared.profile),
      ("tags", Json.strings
        (declared.attributes.map Config.Tag.path ++ declared.timeseries.map Config.Tag.path))]

/-- What is printed of a configuration. -/
def listing (loaded : Config.Loaded) : Json :=
  .object
    [("connector", .string loaded.app.connector.name),
      ("devices", .array (loaded.app.connector.devices.map declaredSummary)),
      ("host", .string loaded.app.connector.server.host),
      ("poll_period_ms", .int loaded.app.connector.server.pollPeriod),
      ("server", .string loaded.app.connector.server.name), ("source", .string loaded.path)]

theorem deviceSummary_of_ofConfig {declared : Config.Device} {fallback : Option ReportStrategy}
    {registry : Registry} {device : Device}
    (hbuilt : Device.ofConfig declared fallback registry = .ok device) :
    deviceSummary device = declaredSummary declared := by
  have huplink := Device.toUplink_of_ofConfig hbuilt
  simp only [deviceSummary, declaredSummary, huplink, Uplink.tagPaths, Device.uplinkOfConfig,
    List.map_append, List.map_map]
  rfl

theorem summary_of_build {loaded : Config.Loaded} {registry : Registry} {c : Connector}
    (hsound : loaded.app.connector.Sound)
    (hbuild : Connector.build loaded.app.connector registry = .ok c) :
    summary loaded.path c = listing loaded := by
  have hvalid := (Config.Connector.validate_eq_ok_iff _).mpr hsound
  have hdevices : c.devices.items.map deviceSummary =
      loaded.app.connector.devices.map declaredSummary := by
    rw [Roster.items, List.map_map, ← List.forall₂_eq_eq_eq, List.forall₂_map_left_iff,
      List.forall₂_map_right_iff]
    exact ((Connector.assembled_of_build hbuild).valid hvalid).flip.imp
      fun entry declared hbuilt => deviceSummary_of_ofConfig hbuilt.built
  obtain ⟨devices, -, rfl⟩ := Connector.build_eq_ok_iff.mp hbuild
  rw [summary, hdevices]
  rfl

/-! ## Checks -/

/-- What comes of a check. -/
inductive Checks (files : Files) (environment : Option String) (options : CommandLine.Options) :
    Outcome → Prop
  | accepted {loaded : Config.Loaded}
      (hload : Config.load files environment (candidates options) = .ok loaded)
      (hstandard : ∀ device ∈ loaded.app.connector.devices, device.WantsStandard) :
      Checks files environment options { code := 0, output := (listing loaded).pretty ++ "\n" }
  | unloaded {cause : Config.LoadError}
      (hload : Config.load files environment (candidates options) = .error cause) :
      Checks files environment options (Failure.load cause).outcome
  | unknown {loaded : Config.Loaded} {before after : List Config.Device} {device : Config.Device}
      {id : String} (hload : Config.load files environment (candidates options) = .ok loaded)
      (hdevices : loaded.app.connector.devices = before ++ device :: after)
      (hbefore : ∀ other ∈ before, other.WantsStandard) (hid : device.converter = some id)
      (hdefault : id ≠ "default") (hopcda : id ≠ "opcda") :
      Checks files environment options (Failure.build (.unknownConverter id)).outcome

namespace Checks

variable {files : Files} {environment : Option String} {options : CommandLine.Options}
  {outcome : Outcome} (hchecks : Checks files environment options outcome)
include hchecks

theorem code_eq_zero_iff : outcome.code = 0 ↔
    ∃ loaded, Config.load files environment (candidates options) = .ok loaded ∧
      ∀ device ∈ loaded.app.connector.devices, device.WantsStandard := by
  cases hchecks with
  | @accepted loaded hload hstandard => exact iff_of_true rfl ⟨loaded, hload, hstandard⟩
  | unloaded hload => simp [Failure.outcome, hload]
  | unknown hload hdevices _ hid hdefault hopcda =>
      apply iff_of_false Nat.one_ne_zero
      rintro ⟨other, hother, hstandard⟩
      cases hload.symm.trans hother
      rw [hdevices] at hstandard
      have hwants := hstandard _ (List.mem_append_right _ List.mem_cons_self)
      exact (hwants _ hid).elim hdefault hopcda

/-- A configuration that is accepted is printed as it is declared. -/
theorem output_of_accepted {loaded : Config.Loaded}
    (hload : Config.load files environment (candidates options) = .ok loaded)
    (hcode : outcome.code = 0) : outcome.output = (listing loaded).pretty ++ "\n" := by
  cases hchecks with
  | accepted hother =>
      cases hload.symm.trans hother
      rfl
  | unloaded => nomatch hcode
  | unknown => nomatch hcode

theorem of_refused (hcode : outcome.code ≠ 0) : outcome.code = 1 ∧ outcome.output = "" := by
  cases hchecks with
  | accepted => exact absurd rfl hcode
  | unloaded => exact ⟨rfl, rfl⟩
  | unknown => exact ⟨rfl, rfl⟩

end Checks

section Checking

variable {files : Files} {environment : Option String} {options : CommandLine.Options}

theorem sound_of_load {candidates : List String} {loaded : Config.Loaded}
    (hload : Config.load files environment candidates = .ok loaded) :
    loaded.app.connector.Sound := by
  obtain ⟨-, text, -, -, hsound⟩ := Config.load_eq_ok_iff.mp hload
  exact hsound

theorem load_of_unloaded {cause : Config.LoadError}
    (hload : Config.load files environment (candidates options) = .error cause) :
    load files environment options = .error (.load cause) := by
  simp only [load, hload]

/-- A log format from the command line changes neither the connector nor the path. -/
theorem load_of_loaded {loaded : Config.Loaded}
    (hload : Config.load files environment (candidates options) = .ok loaded) :
    ∃ final, load files environment options = .ok final ∧
      final.app.connector = loaded.app.connector ∧ final.path = loaded.path := by
  simp only [load, hload]
  exact ⟨_, rfl, rfl, rfl⟩

theorem check_of_unloaded {cause : Config.LoadError}
    (hload : Config.load files environment (candidates options) = .error cause) :
    check files environment options = (Failure.load cause).outcome := by
  rw [check, load_of_unloaded hload]
  rfl

theorem check_of_built {loaded : Config.Loaded} {c : Connector}
    (hload : Config.load files environment (candidates options) = .ok loaded)
    (hbuild : Connector.build loaded.app.connector .standard = .ok c) :
    check files environment options =
      { code := 0, output := (summary loaded.path c).pretty ++ "\n" } := by
  obtain ⟨final, hfinal, hconnector, hpath⟩ := load_of_loaded hload
  rw [← hconnector] at hbuild
  rw [check, hfinal, ← hpath]
  simp only [bind, Except.bind, build, hbuild, pure, Except.pure]

theorem check_of_refused {loaded : Config.Loaded} {cause : ConnectorError}
    (hload : Config.load files environment (candidates options) = .ok loaded)
    (hbuild : Connector.build loaded.app.connector .standard = .error cause) :
    check files environment options = (Failure.build cause).outcome := by
  obtain ⟨final, hfinal, hconnector, -⟩ := load_of_loaded hload
  rw [← hconnector] at hbuild
  rw [check, hfinal]
  simp only [bind, Except.bind, build, hbuild]

/-- Of the options only the path matters. -/
theorem check_congr {other : CommandLine.Options} (hconfig : options.config = other.config) :
    check files environment options = check files environment other := by
  have hcandidates : candidates options = candidates other := by
    rw [candidates, candidates, hconfig]
  cases hload : Config.load files environment (candidates options) with
  | error cause => rw [check_of_unloaded hload, check_of_unloaded (hcandidates ▸ hload)]
  | ok loaded =>
      cases hbuild : Connector.build loaded.app.connector .standard with
      | ok c =>
          rw [check_of_built hload hbuild, check_of_built (hcandidates ▸ hload) hbuild]
      | error cause =>
          rw [check_of_refused hload hbuild, check_of_refused (hcandidates ▸ hload) hbuild]

theorem checks_check :
    Checks files environment options (check files environment options) := by
  cases hload : Config.load files environment (candidates options) with
  | error cause =>
      rw [check_of_unloaded hload]
      exact .unloaded hload
  | ok loaded =>
      have hsound := sound_of_load hload
      cases hbuild : Connector.build loaded.app.connector .standard with
      | ok c =>
          rw [check_of_built hload hbuild, summary_of_build hsound hbuild]
          exact .accepted hload ((Connector.exists_build_standard_iff hsound).mp ⟨c, hbuild⟩)
      | error cause =>
          rw [check_of_refused hload hbuild]
          obtain ⟨before, device, after, id, hdevices, hbefore, hid, hdefault, hopcda, rfl⟩ :=
            Connector.unknown_of_build hsound hbuild
          exact .unknown hload hdevices hbefore hid hdefault hopcda

/-- A run is given a connector exactly if one can be built from what is loaded. -/
theorem start_run_iff {arguments : List String}
    (harguments : CommandLine.ofArguments arguments = .command .run options) :
    (∃ app connector, start files environment arguments = .run app connector) ↔
      ∃ loaded connector, Config.load files environment (candidates options) = .ok loaded ∧
        Connector.build loaded.app.connector .standard = .ok connector := by
  simp only [start, harguments]
  cases hload : Config.load files environment (candidates options) with
  | error cause => simp [load_of_unloaded hload]
  | ok loaded =>
      obtain ⟨final, hfinal, hconnector, -⟩ := load_of_loaded hload
      simp only [hfinal, build, hconnector]
      cases hbuild : Connector.build loaded.app.connector .standard <;> simp [hbuild]

end Checking

/-- With any accepted arguments a check ends with code 0 exactly if the configuration can be
loaded and every device names no converter or the standard one by one of its ids, which is when a
connector can be built from what is loaded.  It prints the declared devices then, in order and
with the paths of their attributes before those of their timeseries, and otherwise nothing.  The
log format makes no difference, and a run is given a connector exactly if the check accepts. -/
theorem accepts_buildable (files : Files) (environment : Option String) {arguments : List String}
    {options : CommandLine.Options}
    (harguments : CommandLine.ofArguments arguments = .command .checkConfig options) :
    CommandLine.Accepted .checkConfig options arguments ∧
    ∃ outcome, start files environment arguments = .ended outcome ∧
      Checks files environment options outcome ∧
      (outcome.code = 0 ↔ ∃ loaded,
        Config.load files environment (options.config.toList ++
          ["configs/opcda.toml", "configs/opcda.example.toml"]) = .ok loaded ∧
        ∀ device ∈ loaded.app.connector.devices, device.WantsStandard) ∧
      (outcome.code = 0 ↔ ∃ loaded connector,
        Config.load files environment (candidates options) = .ok loaded ∧
        Connector.build loaded.app.connector .standard = .ok connector) ∧
      (∀ loaded, Config.load files environment (candidates options) = .ok loaded →
        outcome.code = 0 → outcome.output = (listing loaded).pretty ++ "\n") ∧
      (outcome.code ≠ 0 → outcome.code = 1 ∧ outcome.output = "") ∧
      (∀ other format,
        CommandLine.ofArguments other = .command .checkConfig { options with format } →
          start files environment other = .ended outcome) ∧
      ∀ other format, CommandLine.ofArguments other = .command .run { options with format } →
        ((∃ app connector, start files environment other = .run app connector) ↔
          outcome.code = 0) := by
  have hchecks : Checks files environment options (check files environment options) := checks_check
  have hbuilds : (check files environment options).code = 0 ↔ ∃ loaded connector,
      Config.load files environment (candidates options) = .ok loaded ∧
        Connector.build loaded.app.connector .standard = .ok connector := by
    rw [hchecks.code_eq_zero_iff]
    apply exists_congr
    intro loaded
    rw [exists_and_left]
    apply and_congr_right
    intro hload
    exact (Connector.exists_build_standard_iff (sound_of_load hload)).symm
  refine ⟨CommandLine.ofArguments_eq_command_iff.mp harguments, check files environment options,
    ?_, hchecks, hchecks.code_eq_zero_iff, hbuilds, fun loaded => hchecks.output_of_accepted,
    hchecks.of_refused, ?_, ?_⟩
  · simp only [start, harguments]
  · intro other format hother
    have hsame : check files environment { options with format } =
        check files environment options := check_congr rfl
    simp only [start, hother, hsame]
  · intro other format hother
    rw [start_run_iff hother, hbuilds]
    rfl

theorem load_ovenText : ∃ app,
    Config.load (Config.siteTree (.text Config.ovenText)).read none
      (candidates { config := some "spare.toml" }) = .ok ⟨app, "spare.toml"⟩ ∧
    Config.declaredPaths app = [("oven", none, ["oven.mode"], ["oven.heat"])] := by
  obtain ⟨app, hdescribes, hsound, hdevices⟩ := Config.describes_ovenText
  have hfile : (Config.siteTree (.text Config.ovenText)).read.read "spare.toml" =
      .ok Config.ovenText := rfl
  exact ⟨app, Config.load_eq_ok_iff.mpr
    ⟨Config.select_eq_iff.mp rfl, _, hfile, hdescribes, hsound⟩, hdevices⟩

/-- The oven is accepted and listed, in either log format; a file that is locked is not. -/
theorem accepts_buildable_of_oven :
    (∃ app outcome,
      Config.declaredPaths app = [("oven", none, ["oven.mode"], ["oven.heat"])] ∧
      start (Config.siteTree (.text Config.ovenText)).read none
        ["--config", "spare.toml", "check-config"] = .ended outcome ∧
      start (Config.siteTree (.text Config.ovenText)).read none
        ["--log-format=pretty", "--config=spare.toml", "check-config"] = .ended outcome ∧
      outcome.code = 0 ∧ outcome.output = (listing ⟨app, "spare.toml"⟩).pretty ++ "\n") ∧
    ∃ outcome,
      start (Config.siteTree .locked).read none ["--config", "spare.toml", "check-config"] =
        .ended outcome ∧
      outcome.code = 1 ∧ outcome.output = "" := by
  have harguments : CommandLine.ofArguments ["--config", "spare.toml", "check-config"] =
      .command .checkConfig { config := some "spare.toml" } := rfl
  constructor
  · obtain ⟨app, hload, hpaths⟩ := load_ovenText
    obtain ⟨-, outcome, hstart, -, hcode, -, houtput, -, hformat, -⟩ :=
      accepts_buildable (Config.siteTree (.text Config.ovenText)).read none harguments
    have hzero : outcome.code = 0 := by
      refine hcode.mpr ⟨_, hload, fun device hdevice id hid => ?_⟩
      have hmem : _ ∈ Config.declaredPaths app := List.mem_map.mpr ⟨device, hdevice, rfl⟩
      simp [hpaths, hid] at hmem
    exact ⟨app, outcome, hpaths, hstart, hformat _ (some .pretty) rfl, hzero,
      houtput _ hload hzero⟩
  · obtain ⟨-, outcome, hstart, -, hcode, -, -, hrefused, -⟩ :=
      accepts_buildable (Config.siteTree .locked).read none harguments
    have hlocked : Config.load (Config.siteTree .locked).read none
        (candidates { config := some "spare.toml" }) =
          .error (.unreadable "spare.toml" .denied) := rfl
    refine ⟨outcome, hstart, hrefused fun hzero => ?_⟩
    obtain ⟨loaded, hload, -⟩ := hcode.mp hzero
    nomatch hlocked.symm.trans hload

end Daemon

end TagRelay
