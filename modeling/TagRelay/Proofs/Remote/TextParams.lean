import TagRelay.Proofs.Json.Compact
import TagRelay.Proofs.Remote.PairText
import TagRelay.Proofs.Remote.ReadBack

/-!
# Parameters in a text

A call whose parameters are a text of pairs, in whatever spelling, does what the call with an
object does that names the target as a key of the device, where it is one, and otherwise as a
tag.  A text without pairs names the target of a read by itself.
-/

namespace TagRelay.Remote

/-! ## Targets and values -/

/-- The field that names a target: a key, where the device has it, and otherwise a tag. -/
def targetField (device : Device) (target : String) : String × Json :=
  (if (device.callPath? target).isSome then "key" else "tag", .string target)

/-- What the field means. -/
def fieldTarget (device : Device) (target : String) : Target :=
  if (device.callPath? target).isSome then .key target else .path target

/-- A key where there is one, otherwise a tag: this is what a name in a text means, too. -/
theorem resolve_fieldTarget (device : Device) (target : String) :
    (fieldTarget device target).resolve device = (Target.either target).resolve device := by
  rw [fieldTarget]
  cases hpath : device.callPath? target <;> simp [Target.resolve, hpath]

theorem ofReadParams_targetField (device : Device) (target : String) :
    Target.ofReadParams (.object [targetField device target]) =
      .ok (fieldTarget device target) := by
  rw [targetField, fieldTarget]
  split <;> rfl

theorem ofWriteParams_targetField (device : Device) (target : String) (value : Json) :
    Target.ofWriteParams (.object [targetField device target, ("value", value)]) =
      .ok (fieldTarget device target, value) := by
  rw [targetField, fieldTarget]
  split <;> rfl

/-- What a text stands for as a value: its compact text for a value, and a text that is no JSON
for itself. -/
inductive Stands : String → Json → Prop
  | compact {value : Json} (hread : Json.parse? value.compact = some value) :
      Stands value.compact value
  | itself {written : String} (htrim : Text.trim written = written)
      (hnone : Json.parse? written = none) : Stands written (.string written)

theorem Stands.trim_eq {written : String} {value : Json} (hstands : Stands written value) :
    Text.trim written = written := by
  cases hstands with
  | compact hread => rw [Text.trim, value.trimList_compact, String.ofList_toList]
  | itself htrim hnone => exact htrim

theorem Stands.writtenValue_eq {written : String} {value : Json} (hstands : Stands written value) :
    Target.writtenValue written = value := by
  cases hstands with
  | compact hread => rw [Target.writtenValue, hread, Option.getD_some]
  | itself htrim hnone => rw [Target.writtenValue, hnone, Option.getD_none]

/-! ## Texts -/

section Texts

variable {target text : String}

theorem plain_tag : Plain "tag" := plain_of_all (by decide)

theorem plain_value : Plain "value" := plain_of_all (by decide)

theorem clear_tag (htrim : Text.trim target = target) (hapart : ';' ∉ target.toList) :
    Clear ("tag", target) where
  name := plain_tag
  trimmed := htrim
  apart := hapart

theorem Stands.clear_value {written : String} {value : Json} (hstands : Stands written value)
    (hapart : ';' ∉ written.toList) : Clear ("value", written) where
  name := plain_value
  trimmed := hstands.trim_eq
  apart := hapart

theorem ofReadParams_of_spells (htrim : Text.trim target = target) (hapart : ';' ∉ target.toList)
    (hspells : Spells [("tag", target)] text) :
    Target.ofReadParams (.string text) = .ok (.either target) := by
  have htag : (pairs text).lookup "tag" = some target :=
    hspells.lookup_pairs (by simp) (List.forall_mem_singleton.mpr (clear_tag htrim hapart))
      (.head _)
  have hpairs : Target.ofPairs text = .ok (.either target) := by rw [Target.ofPairs, htag]
  rw [Target.ofReadParams, if_pos (Target.contains_of_ofPairs hpairs), hpairs]

/-- A text without pairs is a target itself. -/
theorem ofReadParams_of_bare (htrim : Text.trim target = target) (hnonempty : target ≠ "")
    (hmark : '=' ∉ target.toList) :
    Target.ofReadParams (.string target) = .ok (.either target) := by
  have hpresent : ¬Text.isMissing target = true := by
    intro hmissing
    rw [← htrim, Text.trim_of_isMissing hmissing] at hnonempty
    exact hnonempty rfl
  have hnoMark : ¬target.toList.contains '=' = true := by simpa using hmark
  rw [Target.ofReadParams, if_neg hnoMark, if_neg hpresent, htrim]

theorem ofWriteParams_of_spells {written : String} {value : Json}
    (htrim : Text.trim target = target) (hapart : ';' ∉ target.toList)
    (hstands : Stands written value) (hwritten : ';' ∉ written.toList)
    (hspells : Spells [("tag", target), ("value", written)] text) :
    Target.ofWriteParams (.string text) = .ok (.either target, value) := by
  have hclear : ∀ pair ∈ [("tag", target), ("value", written)], Clear pair :=
    List.forall_mem_cons.mpr
      ⟨clear_tag htrim hapart, List.forall_mem_singleton.mpr (hstands.clear_value hwritten)⟩
  have htag := hspells.lookup_pairs (by simp) hclear (.head _)
  have hvalue := hspells.lookup_pairs (by simp) hclear (.tail _ (.head _))
  have hpairs : Target.ofPairs text = .ok (.either target) := by rw [Target.ofPairs, htag]
  simp [Target.ofWriteParams, hpairs, hvalue, hstands.writtenValue_eq, bind, Except.bind]

end Texts

namespace PassThrough

/-- Only the plan depends on the parameters. -/
theorem answer_congr {p : PassThrough} {request other : Request}
    (hplan : p.plan request = p.plan other) (hdevice : request.device = other.device)
    (hmethod : request.method = other.method) : p.answer request = p.answer other := by
  have hname : p.countedName request = p.countedName other := by
    unfold countedName
    rw [hdevice, hmethod]
  rw [answer, answer, hplan, hname]

/-- A request to read a target reads its path. -/
theorem plan_of_read {p : PassThrough} {request : Request} {device : Device} {target : Target}
    {path : String} (hmethod : Method.ofText p.type request.method = .read)
    (hdevice : p.device request.device = .ok device)
    (hparams : Target.ofReadParams request.params = .ok target)
    (hpath : target.resolve device = .ok path) : p.plan request = .ok (.read path) := by
  simp [plan, hdevice, hmethod, hparams, hpath, bind, Except.bind, pure, Except.pure]

variable {σ : Type} [TagSession σ]

/-- A write or a read whose parameters are a text answers and does, on whatever link, what it does
with an object that names the same target, as a key of the device if it is one and otherwise as a
tag.  White space, letter case and order make no difference in the text, nor do further segments
under other names. -/
theorem text_params_agree (p : PassThrough) {name : String} {device : Device}
    (hdevice : p.device name = .ok device) {target : String}
    (htrim : Text.trim target = target) (hapart : ';' ∉ target.toList) (link : Link σ) :
    (∀ (request : Request) (text written : String) (value : Json),
      request.device = name → Method.ofText p.type request.method = .write →
      Stands written value → ';' ∉ written.toList →
      Spells [("tag", target), ("value", written)] text →
        link.run (p.answer { request with params := .string text }) =
          link.run (p.answer { request with
            params := .object [targetField device target, ("value", value)] })) ∧
    ∀ (request : Request) (text : String),
      request.device = name → Method.ofText p.type request.method = .read →
      Spells [("tag", target)] text ∨ (text = target ∧ target ≠ "" ∧ '=' ∉ target.toList) →
        link.run (p.answer { request with params := .string text }) =
          link.run (p.answer { request with params := .object [targetField device target] }) := by
  let path := (device.callPath? target).getD target
  have hresolve : (fieldTarget device target).resolve device = .ok path :=
    resolve_fieldTarget device target
  constructor
  · intro request text written value hname hmethod hstands hwritten hspells
    have hknown : p.device request.device = .ok device := by rw [hname, hdevice]
    have htext := ofWriteParams_of_spells htrim hapart hstands hwritten hspells
    have hobject := ofWriteParams_targetField device target value
    have htextPlan : p.plan { request with params := .string text } =
        .ok (.write path value value) := Writes.plan ⟨hmethod, hknown, htext, rfl⟩
    have hobjectPlan : p.plan { request with
        params := .object [targetField device target, ("value", value)] } =
          .ok (.write path value value) := Writes.plan ⟨hmethod, hknown, hobject, hresolve⟩
    exact congrArg link.run (answer_congr (htextPlan.trans hobjectPlan.symm) rfl rfl)
  · intro request text hname hmethod hnamed
    have hknown : p.device request.device = .ok device := by rw [hname, hdevice]
    have htext : Target.ofReadParams (.string text) = .ok (.either target) := by
      obtain hspells | ⟨rfl, hnonempty, hmark⟩ := hnamed
      · exact ofReadParams_of_spells htrim hapart hspells
      · exact ofReadParams_of_bare htrim hnonempty hmark
    have hobject := ofReadParams_targetField device target
    have htextPlan : p.plan { request with params := .string text } = .ok (.read path) :=
      plan_of_read hmethod hknown htext rfl
    have hobjectPlan : p.plan { request with params := .object [targetField device target] } =
        .ok (.read path) := plan_of_read hmethod hknown hobject hresolve
    exact congrArg link.run (answer_congr (htextPlan.trans hobjectPlan.symm) rfl rfl)

/-- A device with a polled tag whose key holds an equals sign. -/
def kiln : Device where
  name := "kiln"
  profile := "default"
  tags := []
  strategy := none
  updates := [("mode=a", "kiln.mode")]
  methods := []
  converter := .standard

def kilnRoom : PassThrough := ⟨[("kiln", kiln)], "opcda"⟩

/-- A text that writes the number 7 under this key. -/
def kilnText : String := Text.join ";" ["note", "VALUE = 7 ", "x=1", " Tag =mode=a"]

theorem kilnText_spells : Spells [("tag", "mode=a"), ("value", "7")] kilnText := by
  have htag : Gives "tag" "mode=a" (" " ++ "Tag" ++ " " ++ "=" ++ ("" ++ "mode=a" ++ "")) :=
    .intro (by decide) (by decide) (by decide) (by decide) (by decide)
  have hvalue : Gives "value" "7" ("" ++ "VALUE" ++ " " ++ "=" ++ (" " ++ "7" ++ " ")) :=
    .intro (by decide) (by decide) (by decide) (by decide) (by decide)
  have hothers : ∀ segment ∈ ["note", "x=1"], Foreign ["tag", "value"] segment := by
    simp only [foreign_iff]
    decide
  exact .intro (by decide) (.cons htag (.cons hvalue .nil)) hothers (by decide)

theorem text_params_agree_of_kiln :
    let text : Request := { device := "kiln", method := "set", params := .string kilnText }
    let object : Request :=
      { device := "kiln", method := "set",
        params := .object [("key", .string "mode=a"), ("value", .int 7)] }
    plantLink.run (kilnRoom.answer text) = plantLink.run (kilnRoom.answer object) ∧
      (plantLink.run (kilnRoom.answer object)).1.code = 200 ∧
      (plantLink.run (kilnRoom.answer object)).2.session.tags.find? "kiln.mode" =
        some ⟨.int 7, .good, none⟩ := by
  have hknown : kilnRoom.device "kiln" = .ok kiln := rfl
  have htrim : Text.trim "mode=a" = "mode=a" := by decide
  have hread : Json.parse? (Json.int 7).compact = some (.int 7) := by rfl
  have hstands : Stands "7" (.int 7) := .compact hread
  have hagree := (kilnRoom.text_params_agree hknown htrim (by decide) plantLink).1
    { device := "kiln", method := "set" } kilnText "7" (.int 7) rfl (by decide) hstands (by decide)
    kilnText_spells
  exact ⟨hagree, rfl, rfl⟩

end PassThrough

end TagRelay.Remote
