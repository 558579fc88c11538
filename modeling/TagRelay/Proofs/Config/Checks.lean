import Mathlib.Data.List.Nodup
import TagRelay.Config.Validate

/-!
# What validation checks

A configuration is valid exactly if it is sound: what has to be given is given, what must not be
zero is not, and nothing is declared twice.  A configuration that is not sound is reported with
the first of its checks, in their fixed order, that is violated.
-/

namespace TagRelay.Config

/-- Nothing but white space. -/
def Blank (text : String) : Prop := ∀ c ∈ text.toList, Text.isBlank c = true

/-! ## Sound configurations -/

/-- The tags of one section. -/
structure SoundTags (tags : List Tag) : Prop where
  key : ∀ tag ∈ tags, ¬ Blank tag.key
  path : ∀ tag ∈ tags, ¬ Blank tag.path
  distinct : (tags.map Tag.key).Nodup

structure Device.Sound (d : Device) : Prop where
  name : ¬ Blank d.name
  attributes : SoundTags d.attributes
  timeseries : SoundTags d.timeseries
  updates : ∀ update ∈ d.attributeUpdates, ¬ Blank update.path
  methods : ∀ method ∈ d.methods, ¬ Blank method.name ∧ ¬ Blank method.path

structure Server.Sound (s : Server) : Prop where
  name : ¬ Blank s.name
  pollPeriod : s.pollPeriod ≠ 0
  idleTick : s.idleTick ≠ 0
  reconnectDelay : s.reconnectDelay ≠ 0
  queueCapacity : s.queueCapacity ≠ 0

structure Connector.Sound (c : Connector) : Prop where
  server : c.server.Sound
  inhabited : c.devices ≠ []
  devices : ∀ device ∈ c.devices, device.Sound
  distinct : (c.devices.map Device.name).Nodup

/-! ## Checks in their order -/

/-- When a check is violated, and what is reported then. -/
structure Check where
  fails : Prop
  violation : Violation

/-- Items are checked one after the other, each with a view to those before it. -/
def inTurn {α : Type} (checks : (earlier : List α) → α → List Check) (items : List α) :
    List Check :=
  items.zipIdx.flatMap fun located => checks (items.take located.2) located.1

def Server.checks (s : Server) : List Check :=
  [⟨Blank s.name, .serverName⟩, ⟨s.pollPeriod = 0, .pollPeriod⟩, ⟨s.idleTick = 0, .idleTick⟩,
    ⟨s.reconnectDelay = 0, .reconnectDelay⟩, ⟨s.queueCapacity = 0, .queueCapacity⟩]

def Tag.checks (device : String) (place : Section) (earlier : List Tag) (tag : Tag) :
    List Check :=
  [⟨Blank tag.key, .missingKey device place⟩, ⟨Blank tag.path, .missingPath device tag.key place⟩,
    ⟨∃ other ∈ earlier, other.key = tag.key, .repeatedKey device tag.key place⟩]

def Device.checks (d : Device) : List Check :=
  [⟨Blank d.name, .deviceName⟩] ++ inTurn (Tag.checks d.name .attributes) d.attributes ++
    inTurn (Tag.checks d.name .timeseries) d.timeseries ++
    d.attributeUpdates.map (fun update =>
      ⟨Blank update.path, .updateWithoutPath d.name update.key⟩) ++
    d.methods.map fun method => ⟨Blank method.name ∨ Blank method.path, .incompleteMethod d.name⟩

/-- A device among those before it. -/
def Device.checksAfter (earlier : List Device) (d : Device) : List Check :=
  d.checks ++ [⟨∃ other ∈ earlier, other.name = d.name, .repeatedDevice d.name⟩]

def Connector.checks (c : Connector) : List Check :=
  c.server.checks ++ [⟨c.devices = [], .noDevices⟩] ++ inTurn Device.checksAfter c.devices

/-- All checks pass. -/
def Pass (checks : List Check) : Prop := ∀ check ∈ checks, ¬ check.fails

/-- The violation of the first check that fails. -/
def FirstFailing (checks : List Check) (violation : Violation) : Prop :=
  ∃ before check after, checks = before ++ check :: after ∧ check.fails ∧
    check.violation = violation ∧ Pass before

/-- What comes first of its kind stands at the head, or comes first in the rest. -/
theorem exists_first_cons_iff {α : Type} {passes stops : α → Prop} {item : α} {rest : List α} :
    (∃ before first after, item :: rest = before ++ first :: after ∧
        (∀ other ∈ before, passes other) ∧ stops first) ↔
      stops item ∨ passes item ∧ ∃ before first after, rest = before ++ first :: after ∧
        (∀ other ∈ before, passes other) ∧ stops first := by
  constructor
  · rintro ⟨before, first, after, hsplit, hbefore, hfirst⟩
    cases before with
    | nil =>
        obtain ⟨rfl, -⟩ := List.cons.inj hsplit
        exact Or.inl hfirst
    | cons head before =>
        obtain ⟨rfl, hrest⟩ := List.cons.inj hsplit
        obtain ⟨hitem, hbefore⟩ := List.forall_mem_cons.mp hbefore
        exact Or.inr ⟨hitem, before, first, after, hrest, hbefore, hfirst⟩
  · rintro (hitem | ⟨hitem, before, first, after, rfl, hbefore, hfirst⟩)
    · exact ⟨[], item, rest, rfl, List.forall_mem_nil _, hitem⟩
    · exact ⟨item :: before, first, after, rfl, List.forall_mem_cons.mpr ⟨hitem, hbefore⟩, hfirst⟩

theorem firstFailing_cons_iff {check : Check} {checks : List Check} {violation : Violation} :
    FirstFailing (check :: checks) violation ↔
      check.fails ∧ check.violation = violation ∨
        ¬ check.fails ∧ FirstFailing checks violation := by
  have hfirst : ∀ checks, FirstFailing checks violation ↔
      ∃ before first after, checks = before ++ first :: after ∧
        (∀ other ∈ before, ¬ other.fails) ∧ (first.fails ∧ first.violation = violation) := by
    intro checks
    simp only [FirstFailing, Pass, and_comm, and_left_comm, and_assoc]
  rw [hfirst, hfirst, exists_first_cons_iff]

/-! ## What the checks find -/

/-- The violations of the checks that fail, in their order. -/
inductive Finds : List Check → List Violation → Prop
  | nil : Finds [] []
  | fails {check : Check} {checks : List Check} {found : List Violation} (hfails : check.fails)
      (hrest : Finds checks found) : Finds (check :: checks) (check.violation :: found)
  | passes {check : Check} {checks : List Check} {found : List Violation}
      (hpasses : ¬ check.fails) (hrest : Finds checks found) : Finds (check :: checks) found

namespace Finds

variable {checks more : List Check} {found others : List Violation}

theorem append (hchecks : Finds checks found) (hmore : Finds more others) :
    Finds (checks ++ more) (found ++ others) := by
  induction hchecks with
  | nil => exact hmore
  | fails hfails _ ih => exact .fails hfails ih
  | passes hpasses _ ih => exact .passes hpasses ih

theorem one {fails : Prop} {condition : Bool} (hcondition : condition = true ↔ fails)
    (violation : Violation) : Finds [⟨fails, violation⟩] (violated condition violation) := by
  by_cases hfails : fails
  · rw [violated, if_pos (hcondition.mpr hfails)]
    exact .fails hfails .nil
  · rw [violated, if_neg fun htrue => hfails (hcondition.mp htrue)]
    exact .passes hfails .nil

/-- One check for each item. -/
theorem each {α : Type} {check : α → Check} {condition : α → Bool}
    (hcondition : ∀ item, condition item = true ↔ (check item).fails) (items : List α) :
    Finds (items.map check)
      (items.flatMap fun item => violated (condition item) (check item).violation) := by
  induction items with
  | nil => exact .nil
  | cons item rest ih => exact (one (hcondition item) (check item).violation).append ih

/-- Items that are checked in turn, where the names seen so far are kept, the latest first. -/
theorem inTurn {α : Type} {checks : List α → α → List Check} {name : α → String}
    {found : List String → List α → List Violation} (hnil : ∀ seen, found seen [] = [])
    (hcons : ∀ earlier item rest, ∃ first, Finds (checks earlier item) first ∧
      found (earlier.map name).reverse (item :: rest) =
        first ++ found (name item :: (earlier.map name).reverse) rest)
    (items : List α) : Finds (Config.inTurn checks items) (found [] items) := by
  -- Those that have been checked are kept as items on the one side, as names on the other.
  have hafter : ∀ (rest earlier : List α),
      Finds ((rest.zipIdx earlier.length).flatMap fun located =>
          checks ((earlier ++ rest).take located.2) located.1)
        (found (earlier.map name).reverse rest) := by
    intro rest
    induction rest with
    | nil =>
        intro earlier
        rw [hnil]
        exact .nil
    | cons item rest ih =>
        intro earlier
        obtain ⟨first, hfirst, hfound⟩ := hcons earlier item rest
        have hrest := ih (earlier ++ [item])
        simp only [List.length_append, List.length_singleton, List.append_assoc,
          List.singleton_append, List.map_append, List.map_singleton, List.reverse_append,
          List.reverse_singleton] at hrest
        rw [hfound, List.zipIdx_cons, List.flatMap_cons, List.take_left]
        exact hfirst.append hrest
  exact hafter items []

/-- Nothing is found where all checks pass, and otherwise the first that fails comes first. -/
theorem first (hfinds : Finds checks found) :
    (firstViolation found = .ok () ↔ Pass checks) ∧
      ∀ violation, firstViolation found = .error violation ↔ FirstFailing checks violation := by
  induction hfinds with
  | nil => simp [firstViolation, Pass, FirstFailing]
  | fails hfails => simp [firstViolation, Pass, firstFailing_cons_iff, hfails]
  | passes hpasses _ ih =>
      refine ⟨by simpa [Pass, hpasses] using ih.1, fun violation => ?_⟩
      rw [firstFailing_cons_iff, ih.2]
      simp [hpasses]

theorem eq_nil_iff (hfinds : Finds checks found) : found = [] ↔ Pass checks := by
  rw [← hfinds.first.1]
  cases found <;> simp [firstViolation]

end Finds

theorem isMissing_iff {text : String} : Text.isMissing text = true ↔ Blank text :=
  List.all_eq_true

theorem finds_server (s : Server) : Finds s.checks s.violations :=
  (((((Finds.one isMissing_iff _).append (.one beq_iff_eq _)).append (.one beq_iff_eq _)).append
    (.one beq_iff_eq _)).append (.one beq_iff_eq _))

theorem finds_tags (device : String) (place : Section) (tags : List Tag) :
    Finds (inTurn (Tag.checks device place) tags) (tagViolations device place [] tags) := by
  apply Finds.inTurn (fun _ => rfl)
  intro earlier tag rest
  refine ⟨_, ?_, rfl⟩
  refine ((Finds.one isMissing_iff _).append (.one isMissing_iff _)).append (.one ?_ _)
  simp

theorem finds_device (d : Device) : Finds d.checks d.violations := by
  refine ((((Finds.one isMissing_iff _).append (finds_tags _ _ _)).append
    (finds_tags _ _ _)).append ?_).append ?_
  · exact .each (fun _ => isMissing_iff) d.attributeUpdates
  · refine .each (fun method => ?_) d.methods
    rw [Bool.or_eq_true, isMissing_iff, isMissing_iff]

theorem finds_connector (c : Connector) : Finds c.checks c.violations := by
  refine ((finds_server c.server).append (.one List.isEmpty_iff _)).append ?_
  apply Finds.inTurn (fun _ => rfl)
  intro earlier device rest
  refine ⟨_, ?_, rfl⟩
  refine (finds_device device).append (.one ?_ _)
  simp

/-! ## What passes -/

theorem pass_append {checks more : List Check} : Pass (checks ++ more) ↔ Pass checks ∧ Pass more :=
  List.forall_mem_append

theorem pass_inTurn {α : Type} {checks : List α → α → List Check} {items : List α} :
    Pass (inTurn checks items) ↔
      ∀ i item, items[i]? = some item → Pass (checks (items.take i) item) := by
  constructor
  · intro hpass i item hitem check hcheck
    have hlocated : (item, i) ∈ items.zipIdx := List.mem_zipIdx_iff_getElem?.mpr hitem
    exact hpass check (List.mem_flatMap.mpr ⟨(item, i), hlocated, hcheck⟩)
  · intro hpass check hcheck
    obtain ⟨⟨item, i⟩, hlocated, hchecked⟩ := List.mem_flatMap.mp hcheck
    exact hpass i item (List.mem_zipIdx_iff_getElem?.mp hlocated) check hchecked

/-- Names are distinct if none of them has come before. -/
theorem nodup_iff_not_before {α : Type} (name : α → String) (items : List α) :
    (items.map name).Nodup ↔
      ∀ i item, items[i]? = some item → ¬ ∃ other ∈ items.take i, name other = name item := by
  rw [List.Nodup, List.pairwise_map, List.pairwise_iff_getElem]
  constructor
  · rintro hdistinct i item hitem ⟨other, hother, hname⟩
    obtain ⟨j, hj, rfl⟩ := List.mem_take_iff_getElem.mp hother
    obtain ⟨hi, rfl⟩ := List.getElem?_eq_some_iff.mp hitem
    exact hdistinct j i (by omega) hi (by omega) hname
  · intro hbefore j i hj hi hlt hname
    refine hbefore i items[i] (List.getElem?_eq_getElem hi) ⟨items[j], ?_, hname⟩
    exact List.mem_take_iff_getElem.mpr ⟨j, by omega, rfl⟩

/-- What holds of every item, whatever its place. -/
theorem forall_getElem?_iff {α : Type} {items : List α} {property : α → Prop} :
    (∀ (i : Nat) item, items[i]? = some item → property item) ↔ ∀ item ∈ items, property item := by
  constructor
  · intro hall item hitem
    obtain ⟨i, hplace⟩ := List.mem_iff_getElem?.mp hitem
    exact hall i item hplace
  · intro hall i item hplace
    exact hall item (List.mem_of_getElem? hplace)

theorem pass_server_iff (s : Server) : Pass s.checks ↔ s.Sound := by
  constructor
  · intro hpass
    simp only [Pass, Server.checks, List.forall_mem_cons, List.not_mem_nil, IsEmpty.forall_iff,
      implies_true, and_true] at hpass
    obtain ⟨hname, hpollPeriod, hidleTick, hreconnectDelay, hqueueCapacity⟩ := hpass
    exact ⟨hname, hpollPeriod, hidleTick, hreconnectDelay, hqueueCapacity⟩
  · rintro ⟨hname, hpollPeriod, hidleTick, hreconnectDelay, hqueueCapacity⟩
    simp only [Pass, Server.checks, List.forall_mem_cons, List.not_mem_nil, IsEmpty.forall_iff,
      implies_true, and_true]
    exact ⟨hname, hpollPeriod, hidleTick, hreconnectDelay, hqueueCapacity⟩

theorem pass_tags_iff (device : String) (place : Section) (tags : List Tag) :
    Pass (inTurn (Tag.checks device place) tags) ↔ SoundTags tags := by
  have htag : ∀ earlier tag, Pass (Tag.checks device place earlier tag) ↔
      ¬ Blank tag.key ∧ ¬ Blank tag.path ∧ ¬ ∃ other ∈ earlier, other.key = tag.key := by
    intro earlier tag
    simp [Pass, Tag.checks]
  simp only [pass_inTurn, htag, forall_and, ← nodup_iff_not_before, forall_getElem?_iff]
  exact ⟨fun ⟨hkey, hpath, hdistinct⟩ => ⟨hkey, hpath, hdistinct⟩,
    fun ⟨hkey, hpath, hdistinct⟩ => ⟨hkey, hpath, hdistinct⟩⟩

theorem pass_device_iff (d : Device) : Pass d.checks ↔ d.Sound := by
  have hupdates : Pass (d.attributeUpdates.map fun update =>
      ⟨Blank update.path, .updateWithoutPath d.name update.key⟩) ↔
      ∀ update ∈ d.attributeUpdates, ¬ Blank update.path := List.forall_mem_map
  have hmethods : Pass (d.methods.map fun method =>
      ⟨Blank method.name ∨ Blank method.path, .incompleteMethod d.name⟩) ↔
      ∀ method ∈ d.methods, ¬ Blank method.name ∧ ¬ Blank method.path := by
    simp [Pass]
  have hname : Pass [⟨Blank d.name, .deviceName⟩] ↔ ¬ Blank d.name := List.forall_mem_singleton
  rw [Device.checks, pass_append, pass_append, pass_append, pass_append, hname, pass_tags_iff,
    pass_tags_iff, hupdates, hmethods]
  constructor
  · rintro ⟨⟨⟨⟨hname, hattributes⟩, htimeseries⟩, hupdates⟩, hmethods⟩
    exact ⟨hname, hattributes, htimeseries, hupdates, hmethods⟩
  · rintro ⟨hname, hattributes, htimeseries, hupdates, hmethods⟩
    exact ⟨⟨⟨⟨hname, hattributes⟩, htimeseries⟩, hupdates⟩, hmethods⟩

theorem pass_connector_iff (c : Connector) : Pass c.checks ↔ c.Sound := by
  have hdevice : ∀ earlier device, Pass (Device.checksAfter earlier device) ↔
      device.Sound ∧ ¬ ∃ other ∈ earlier, other.name = device.name := by
    intro earlier device
    rw [Device.checksAfter, pass_append, pass_device_iff]
    exact and_congr_right fun _ => List.forall_mem_singleton
  have hdevices : Pass (inTurn Device.checksAfter c.devices) ↔
      (∀ device ∈ c.devices, device.Sound) ∧ (c.devices.map Device.name).Nodup := by
    simp only [pass_inTurn, hdevice, forall_and, ← nodup_iff_not_before, forall_getElem?_iff]
  have hinhabited : Pass [⟨c.devices = [], .noDevices⟩] ↔ c.devices ≠ [] :=
    List.forall_mem_singleton
  rw [Connector.checks, pass_append, pass_append, pass_server_iff, hinhabited, hdevices]
  constructor
  · rintro ⟨⟨hserver, hinhabited⟩, hdevices, hdistinct⟩
    exact ⟨hserver, hinhabited, hdevices, hdistinct⟩
  · rintro ⟨hserver, hinhabited, hdevices, hdistinct⟩
    exact ⟨⟨hserver, hinhabited⟩, hdevices, hdistinct⟩

theorem Server.violations_eq_nil_iff (s : Server) : s.violations = [] ↔ s.Sound :=
  (finds_server s).eq_nil_iff.trans (pass_server_iff s)

/-- A device by itself is valid exactly if it is sound. -/
theorem Device.validate_eq_ok_iff (d : Device) : d.validate = .ok () ↔ d.Sound := by
  rw [Device.validate, (finds_device d).first.1, pass_device_iff]

theorem Connector.validate_eq_ok_iff (c : Connector) : c.validate = .ok () ↔ c.Sound := by
  rw [Connector.validate, (finds_connector c).first.1, pass_connector_iff]

/-- A configuration is valid exactly if it is sound, and otherwise the first of its checks that
fails is reported. -/
theorem Connector.validate_by_checks (c : Connector) :
    (c.validate = .ok () ↔ c.Sound) ∧
      ∀ violation, c.validate = .error violation ↔ FirstFailing c.checks violation :=
  ⟨c.validate_eq_ok_iff, (finds_connector c).first.2⟩

/-- The missing path of a tag is reported before its repeated key, and both before the next
device. -/
example :
    Connector.validate
      { devices :=
          [{ name := "kiln"
             attributes :=
              [{ key := "mode", path := "kiln.mode" }, { key := "mode", path := " " }] },
            { name := "kiln" }] } = .error (.missingPath "kiln" "mode" .attributes) := by
  rfl

end TagRelay.Config
