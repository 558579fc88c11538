import TagRelay.Pipeline.Poll
import TagRelay.Proofs.Conversion.Matching
import TagRelay.Proofs.Link.Alone
import Mathlib.Logic.Relation

/-!
# Conversion and the order of the readings

A reply that agrees with itself may come in any order, say the same reading several times
and bring readings that nobody asked for: the standard converter makes the same of it.  A
session in memory answers from what it has stored, so that its replies agree with
themselves, and turning them around makes no difference.
-/

namespace TagRelay

namespace Conversion

/-! ## Rearranged replies -/

/-- One change to the reply for an uplink. -/
inductive Rearranges (u : Uplink) : (readings later : List Reading) → Prop
  | permute {readings later : List Reading} (hperm : readings.Perm later) :
      Rearranges u readings later
  /-- A reading is dropped that occurs elsewhere, too. -/
  | drop (before after : List Reading) {reading : Reading} (hagain : reading ∈ before ++ after) :
      Rearranges u (before ++ reading :: after) (before ++ after)
  /-- A reading comes in that no tag asked for. -/
  | insert (before after : List Reading) {reading : Reading}
      (hforeign : ∀ tag ∈ u.tags, tag.path ≠ reading.path) :
      Rearranges u (before ++ after) (before ++ reading :: after)

variable {u : Uplink} {readings later : List Reading}

/-- The readings of the tags are the same ones, whether they come once or several times. -/
structure SameReadings (u : Uplink) (readings later : List Reading) : Prop where
  mem_iff : ∀ reading, (∃ tag ∈ u.tags, tag.path = reading.path) →
    (reading ∈ readings ↔ reading ∈ later)
  eq_nil_of_eq_nil : later = [] → readings = []

theorem SameReadings.refl (u : Uplink) (readings : List Reading) :
    SameReadings u readings readings :=
  ⟨fun _ _ => Iff.rfl, id⟩

theorem SameReadings.trans {last : List Reading} (hfirst : SameReadings u readings later)
    (hsecond : SameReadings u later last) : SameReadings u readings last :=
  ⟨fun reading hasked => (hfirst.mem_iff reading hasked).trans (hsecond.mem_iff reading hasked),
    fun hnil => hfirst.eq_nil_of_eq_nil (hsecond.eq_nil_of_eq_nil hnil)⟩

theorem Rearranges.sameReadings (hrearranges : Rearranges u readings later) :
    SameReadings u readings later := by
  cases hrearranges with
  | permute hperm => exact ⟨fun _ _ => hperm.mem_iff, fun hnil => by simpa [hnil] using hperm⟩
  | drop before after hagain =>
      refine ⟨fun other _ => ?_, fun hnil => by simp [hnil] at hagain⟩
      rw [List.mem_append, List.mem_cons]
      constructor
      · rintro (hmem | rfl | hmem)
        · exact List.mem_append_left after hmem
        · exact hagain
        · exact List.mem_append_right before hmem
      · intro hmem
        exact (List.mem_append.mp hmem).imp_right Or.inr
  | @insert before after reading hforeign =>
      refine ⟨?_, by simp⟩
      rintro other ⟨tag, htag, hpath⟩
      -- What comes in is not the reading of a tag, and nothing else changes.
      have hne : other ≠ reading := fun heq => hforeign tag htag (heq ▸ hpath)
      simp [hne]

/-- A reply that has been changed any number of times. -/
theorem sameReadings_of_rearranged
    (hrearranged : Relation.ReflTransGen (Rearranges u) readings later) :
    SameReadings u readings later := by
  induction hrearranged with
  | refl => exact SameReadings.refl u readings
  | tail _ hstep ih => exact ih.trans hstep.sameReadings

/-! ## The conversion of a rearranged reply -/

theorem readingFor_of_sameReadings (hconsistent : Consistent readings)
    (hsame : SameReadings u readings later) {tag : Tag} (htag : tag ∈ u.tags) (index : Nat) :
    readingFor later index tag.path = readingFor readings index tag.path := by
  have hmem : ∀ {reading : Reading}, reading.path = tag.path →
      (reading ∈ readings ↔ reading ∈ later) :=
    fun hpath => hsame.mem_iff _ ⟨tag, htag, hpath.symm⟩
  -- Later on the readings may contradict each other, but not at the path of a tag.
  have hbefore : ConsistentAt tag.path readings := hconsistent.at_path tag.path
  have hafter : ConsistentAt tag.path later := fun reading hreading other hother hpath hagain =>
    hbefore reading ((hmem hpath).mpr hreading) other ((hmem hagain).mpr hother) hpath hagain
  ext reading
  rw [readingFor_eq_some_iff_of_consistentAt hbefore,
    readingFor_eq_some_iff_of_consistentAt hafter]
  exact and_congr_left fun hpath => (hmem hpath).symm

theorem matched_congr {tags : List Tag}
    (hreadings : ∀ tag ∈ tags, ∀ index,
      readingFor later index tag.path = readingFor readings index tag.path) (index : Nat) :
    matched later index tags = matched readings index tags := by
  induction tags generalizing index with
  | nil => rfl
  | cons tag rest ih =>
      rw [matched, matched, hreadings tag List.mem_cons_self,
        ih fun other hother => hreadings other (List.mem_cons_of_mem tag hother)]

theorem standard_of_sameReadings (hreadings : readings ≠ []) (hconsistent : Consistent readings)
    (hsame : SameReadings u readings later) (time : Int) :
    standard u ⟨later, time⟩ = standard u ⟨readings, time⟩ := by
  have hmatched : matched later 0 u.tags = matched readings 0 u.tags :=
    matched_congr (fun tag htag => readingFor_of_sameReadings hconsistent hsame htag) 0
  have hlater : later ≠ [] := fun hnil => hreadings (hsame.eq_nil_of_eq_nil hnil)
  simp [standard, entries, missing, hmatched, hreadings, hlater]

theorem standard_reverse (u : Uplink) (hconsistent : Consistent readings) (time : Int) :
    standard u ⟨readings.reverse, time⟩ = standard u ⟨readings, time⟩ := by
  by_cases hreadings : readings = []
  · rw [hreadings, List.reverse_nil]
  · have hturned : Rearranges u readings readings.reverse := .permute readings.reverse_perm.symm
    exact standard_of_sameReadings hreadings hconsistent hturned.sameReadings time

end Conversion

/-! ## Replies that are turned around -/

namespace Memory

/-- A session answers the same for the same path. -/
theorem consistent_answers (m : Memory) (paths : List String) :
    Conversion.Consistent (m.answers paths) := by
  intro reading hreading other hother hpath
  obtain ⟨path, -, rfl⟩ := List.mem_map.mp hreading
  obtain ⟨again, -, rfl⟩ := List.mem_map.mp hother
  rw [reading_path, reading_path] at hpath
  rw [hpath]

end Memory

namespace Conversion

/-- The link to the same session, which turns its replies around or does not. -/
def turned (link : Link Memory) (on : Bool) : Link Memory :=
  { link with session := link.session.reverseReplies on }

/-- What the standard converter makes of one poll of a device. -/
def polled (device : Device) (link : Link Memory) (time : Int) :
    Except SessionError (Except ConnectorError Conversion) :=
  (link.run (Poll.readTags device)).1.map fun readings =>
    Converter.standard.convert device.toUplink ⟨readings, time⟩

theorem run_readTags (device : Device) (link : Link Memory) :
    (link.run (Poll.readTags device)).1 =
      if device.hasTags then (link.session.read device.tagPaths).1 else .ok [] := by
  rw [Poll.readTags]
  split <;> rfl

theorem polled_turned (device : Device) (link : Link Memory) (time : Int) (on : Bool) :
    polled device (turned link on) time =
      if device.hasTags then
        (link.session.read device.tagPaths).1.map fun _ =>
          standard device.toUplink ⟨link.session.answers device.tagPaths, time⟩
      else .ok (standard device.toUplink ⟨[], time⟩) := by
  have hturn : standard device.toUplink
      ⟨if on then (link.session.answers device.tagPaths).reverse
        else link.session.answers device.tagPaths, time⟩ =
      standard device.toUplink ⟨link.session.answers device.tagPaths, time⟩ := by
    cases on with
    | false => rfl
    | true => exact standard_reverse _ (link.session.consistent_answers device.tagPaths) time
  rw [polled, run_readTags]
  split
  · rw [turned, Memory.read_reverseReplies]
    cases (link.session.read device.tagPaths).1 with
    | error cause => rfl
    | ok readings => exact congrArg Except.ok hturn
  · rfl

theorem polled_turned_ok {device : Device} {link : Link Memory}
    (hanswers : link.session.Answers device.tagPaths) (time : Int) (on : Bool) :
    polled device (turned link on) time =
      .ok (standard device.toUplink ⟨link.session.answers device.tagPaths, time⟩) := by
  rw [polled_turned, hanswers.read_ok]
  split
  case isTrue => rfl
  case isFalse htags =>
    have hpaths : device.tagPaths = [] := by simpa [Uplink.hasTags, Uplink.tagPaths] using htags
    rw [hpaths]
    rfl

/-- The standard converter makes the same of a reply that agrees with itself, in whatever order
the readings come, however often, and between whatever readings that nobody asked for.  So a
poll of a session in memory gives the same with its replies turned around, and gives it where
the session answers at all. -/
theorem standard_of_rearranged :
    (∀ (u : Uplink) (readings later : List Reading) (time : Int), readings ≠ [] →
      Consistent readings → Relation.ReflTransGen (Rearranges u) readings later →
        Converter.standard.convert u ⟨later, time⟩ =
          Converter.standard.convert u ⟨readings, time⟩) ∧
    ∀ (device : Device) (link : Link Memory) (time : Int),
      polled device (turned link true) time = polled device (turned link false) time ∧
        (link.session.Answers device.tagPaths → ∀ on,
          polled device (turned link on) time = .ok (Converter.standard.convert device.toUplink
            ⟨link.session.answers device.tagPaths, time⟩)) := by
  refine ⟨?_, ?_⟩
  · intro u readings later time hreadings hconsistent hrearranged
    exact standard_of_sameReadings hreadings hconsistent
      (sameReadings_of_rearranged hrearranged) time
  · intro device link time
    refine ⟨?_, ?_⟩
    · rw [polled_turned, polled_turned]
    · intro hanswers on
      exact polled_turned_ok hanswers time on

/-- The readings come the other way around, after one that was not asked for. -/
theorem standard_of_rearranged_boiler :
    Consistent boilerReadings ∧
      Converter.standard.convert boiler.toUplink
          ⟨⟨"boiler.level", .int 3, .good, none⟩ :: boilerReadings.reverse, 0⟩ =
        Converter.standard.convert boiler.toUplink ⟨boilerReadings, 0⟩ ∧
      polled boiler (turned (.fresh { opened := some ⟨"server", "host"⟩ } {}) true) 0 =
        .ok (Converter.standard.convert boiler.toUplink
          ⟨[.unknown "boiler.limit", .unknown "boiler.pressure"], 0⟩) := by
  have hconsistent : Consistent boilerReadings := by
    intro reading hreading other hother
    simp only [boilerReadings, List.mem_cons, List.not_mem_nil, or_false] at hreading hother
    rcases hreading with rfl | rfl <;> rcases hother with rfl | rfl <;> simp
  refine ⟨hconsistent, ?_, ?_⟩
  · have hturned : Rearranges boiler.toUplink boilerReadings boilerReadings.reverse :=
      .permute boilerReadings.reverse_perm.symm
    apply standard_of_rearranged.1 boiler.toUplink boilerReadings _ 0 (by simp [boilerReadings])
      hconsistent
    exact (Relation.ReflTransGen.single hturned).tail
      (.insert [] boilerReadings.reverse (by simp [boiler]))
  · exact (standard_of_rearranged.2 boiler _ 0).2 ⟨rfl, rfl, fun _ _ => List.not_mem_nil⟩ true

end Conversion

end TagRelay
