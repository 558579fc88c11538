import TagRelay.Proofs.Remote.Routes

/-!
# Updates of shared attributes

The keys of an update are taken one after the other, and none stands in the way of those
behind it.  A key without a tag is refused, and so is every key while the link is not
connected; every other key makes one call of the session, which takes its turn with the
failures that were prepared.  What is stored afterwards follows from the keys that were
answered with success, the later ones over the earlier ones.
-/

namespace TagRelay.Remote

open Session

/-! ## Keys with a tag -/

/-- The entries whose keys have a tag. -/
def mapped {α : Type} (device : Device) (entries : List (String × α)) : List (String × α) :=
  entries.filter fun entry => (device.updatePath? entry.1).isSome

/-- The paths to which entries are written, with their values. -/
def targets (device : Device) (data : List (String × Json)) : List (String × Json) :=
  data.filterMap fun entry => (device.updatePath? entry.1).map fun path => (path, entry.2)

/-- The entries that were answered with success. -/
def succeeded (data : List (String × Json)) (outcomes : List (String × Reply)) :
    List (String × Json) :=
  ((data.zip outcomes).filter fun both => both.2.2.code = 200).map Prod.fst

/-- The tags after values were written to paths, one after the other. -/
def stored (written : List (String × Json)) (tags : Roster StoredTag) : Roster StoredTag :=
  written.foldl (fun tags entry => tags.enter entry.1 ⟨TagValue.ofJson entry.2, .good, none⟩) tags

/-- The last value that was written to a path is the one that is found there. -/
theorem find?_stored (written : List (String × Json)) (tags : Roster StoredTag) (path : String) :
    (stored written tags).find? path =
      ((written.reverse.find? fun entry => entry.1 = path).map fun entry =>
        ⟨TagValue.ofJson entry.2, .good, none⟩).or (tags.find? path) := by
  induction written generalizing tags with
  | nil => rfl
  | cons entry rest ih =>
      have hrest : stored (entry :: rest) tags =
          stored rest (tags.enter entry.1 ⟨TagValue.ofJson entry.2, .good, none⟩) :=
        rfl
      rw [hrest, ih, List.reverse_cons, List.find?_append]
      cases rest.reverse.find? fun entry => entry.1 = path with
      | some later => rfl
      | none =>
          by_cases hpath : entry.1 = path
          · subst hpath
            simp
          · rw [Roster.find?_enter_of_ne (Ne.symm hpath)]
            simp [hpath]

/-- The reply to a key whose value was passed to the session. -/
def Reply.ofWrite (value : Json) : Except SessionError Unit → Reply
  | .ok () => .ok value
  | .error cause => .ofFailure (.session cause)

theorem Reply.code_ofWrite (value : Json) (result : Except SessionError Unit) :
    (ofWrite value result).code = 200 ↔ result.isOk = true := by
  cases result with
  | ok => exact iff_of_true rfl rfl
  | error cause =>
      refine iff_of_false ?_ (by simp [Except.isOk, Except.toBool])
      have hcode := (Failure.session cause).code_cases
      change (Failure.session cause).code ≠ 200
      omega

/-- A key that is answered with success has its value stored before all later ones. -/
theorem stored_ofWrite {device : Device} {key path : String}
    (hkey : device.updatePath? key = some path) (value : Json)
    (result : Except SessionError Unit) (rest : List (String × Json))
    (outcomes : List (String × Reply)) (tags : Roster StoredTag) :
    stored (targets device
        (succeeded ((key, value) :: rest) ((key, .ofWrite value result) :: outcomes))) tags =
      stored (targets device (succeeded rest outcomes))
        (if result.isOk then tags.enter path ⟨TagValue.ofJson value, .good, none⟩ else tags) := by
  by_cases hok : result.isOk = true
  · have hcode := (Reply.code_ofWrite value result).mpr hok
    simp [succeeded, hcode, hok, targets, hkey, stored]
  · have hcode := mt (Reply.code_ofWrite value result).mp hok
    simp [succeeded, hcode, hok]

namespace PassThrough

/-! ## One key -/

section Key

variable {device : Device} {key : String} (value : Json) (link : Link Memory)

theorem writeAttribute_of_unmapped (hkey : device.updatePath? key = none) :
    link.run (writeAttribute device key value) = (.error (.keyNotMapped device.name key), link) ∧
      link.exchanges (writeAttribute device key value) = [] := by
  rw [writeAttribute, hkey]
  exact ⟨rfl, rfl⟩

theorem writeAttribute_of_ne {path : String} (hkey : device.updatePath? key = some path)
    (hstate : link.state ≠ .connected) :
    link.run (writeAttribute device key value) = (.error .notConnected, link) ∧
      link.exchanges (writeAttribute device key value) = [] := by
  rw [writeAttribute, hkey]
  exact (Plan.write path value value).run_perform_of_ne hstate

theorem writeAttribute_of_connected {path : String} (hkey : device.updatePath? key = some path)
    (hstate : link.state = .connected) :
    Reply.ofResult (link.run (writeAttribute device key value)).1 =
        .ofWrite value (link.session.writeResult 0) ∧
      (link.run (writeAttribute device key value)).2 =
        { link with session := (link.session.write path (TagValue.ofJson value)).2 } ∧
      link.exchanges (writeAttribute device key value) =
        [⟨.write path (TagValue.ofJson value), link.session.writeResult 0⟩] := by
  have hresult : (link.session.write path (TagValue.ofJson value)).1 =
      link.session.writeResult 0 := by
    rw [Memory.write_eq]
  have hjudge : ∀ result : Except SessionError Unit,
      Reply.ofResult ((Plan.write path value value).judge result) = .ofWrite value result := by
    intro result
    cases result <;> rfl
  obtain ⟨hrun, hcalls⟩ := (Plan.write path value value).run_perform_of_connected hstate
  rw [writeAttribute, hkey]
  refine ⟨?_, ?_, ?_⟩
  · rw [hrun, ← hresult]
    exact hjudge _
  · rw [hrun]
    rfl
  · rw [hcalls, ← hresult]
    rfl

end Key

/-! ## All keys -/

/-- What comes of the entries of an update: the outcomes, the calls of the session and the
link. -/
structure Applied (device : Device) (data : List (String × Json)) (before : Link Memory)
    (outcomes : List (String × Reply)) (calls : List Exchange) (after : Link Memory) : Prop where
  keys : outcomes.map Prod.fst = data.map Prod.fst
  unmapped : ∀ outcome ∈ outcomes, device.updatePath? outcome.1 = none →
    outcome.2 = .ofFailure (.keyNotMapped device.name outcome.1)
  /-- Every key with a tag takes its turn with the session, or is refused without one. -/
  mapped : mapped device outcomes =
    if before.state = .connected then
      (mapped device data).mapIdx fun turn entry =>
        (entry.1, .ofWrite entry.2 (before.session.writeResult turn))
    else (mapped device data).map fun entry => (entry.1, .ofFailure .notConnected)
  called : calls =
    if before.state = .connected then
      (targets device data).mapIdx fun turn target =>
        ⟨.write target.1 (TagValue.ofJson target.2), before.session.writeResult turn⟩
    else []
  session : after.session =
    { before.session with
      calls.write := before.session.calls.write + calls.length
      writeFailures := before.session.writeFailures.drop calls.length
      tags := stored (targets device (succeeded data outcomes)) before.session.tags }
  state : after.state = before.state

theorem exchanges_writeAttributes_cons (device : Device) (key : String) (value : Json)
    (rest : List (String × Json)) (link : Link Memory) :
    link.exchanges (writeAttributes device ((key, value) :: rest)) =
      let first := link.run (writeAttribute device key value)
      let reply := Reply.ofResult first.1
      link.exchanges (writeAttribute device key value) ++
        (first.2.count (.call updateName reply.code)).exchanges (writeAttributes device rest) := by
  rw [writeAttributes, Link.exchanges_bind, Link.exchanges_bind, Link.exchanges_bind]
  simp [Link.act, Routine.perform, Link.exchange?]
  rfl

namespace Applied

variable {device : Device} {key path : String} {value : Json} {rest : List (String × Json)}
  {link next after : Link Memory} {outcomes : List (String × Reply)} {calls : List Exchange}

theorem nil (device : Device) (link : Link Memory) : Applied device [] link [] [] link := by
  constructor <;> simp [Remote.mapped, targets, stored, succeeded]

theorem of_unmapped (hkey : device.updatePath? key = none)
    (hrest : Applied device rest next outcomes calls after)
    (hsession : next.session = link.session) (hstate : next.state = link.state) :
    Applied device ((key, value) :: rest) link
      ((key, .ofFailure (.keyNotMapped device.name key)) :: outcomes) calls after := by
  constructor
  case keys => exact congrArg (key :: ·) hrest.keys
  case unmapped => exact List.forall_mem_cons.mpr ⟨fun _ => rfl, hrest.unmapped⟩
  case mapped => simpa [Remote.mapped, hkey, hstate, hsession] using hrest.mapped
  case called => simpa [targets, hkey, hstate, hsession] using hrest.called
  case session =>
    have hfailed : (Reply.ofFailure (.keyNotMapped device.name key)).code = 404 := rfl
    simpa [succeeded, hfailed, hsession] using hrest.session
  case state => exact hrest.state.trans hstate

theorem of_ne (hkey : device.updatePath? key = some path) (hnot : link.state ≠ .connected)
    (hrest : Applied device rest next outcomes calls after)
    (hsession : next.session = link.session) (hstate : next.state = link.state) :
    Applied device ((key, value) :: rest) link
      ((key, .ofFailure .notConnected) :: outcomes) calls after := by
  have hnext : next.state ≠ .connected := hstate ▸ hnot
  constructor
  case keys => exact congrArg (key :: ·) hrest.keys
  case unmapped =>
    refine List.forall_mem_cons.mpr ⟨fun hnone => ?_, hrest.unmapped⟩
    rw [hkey] at hnone
    cases hnone
  case mapped => simpa [Remote.mapped, hkey, hnot, hnext] using hrest.mapped
  case called => simpa [hnot, hnext] using hrest.called
  case session =>
    have hfailed : (Reply.ofFailure .notConnected).code = 503 := rfl
    simpa [succeeded, hfailed, hsession] using hrest.session
  case state => exact hrest.state.trans hstate

theorem of_connected (hkey : device.updatePath? key = some path)
    (hconnected : link.state = .connected)
    (hrest : Applied device rest next outcomes calls after)
    (hsession : next.session = (link.session.write path (TagValue.ofJson value)).2)
    (hstate : next.state = link.state) :
    Applied device ((key, value) :: rest) link
      ((key, .ofWrite value (link.session.writeResult 0)) :: outcomes)
      (⟨.write path (TagValue.ofJson value), link.session.writeResult 0⟩ :: calls) after := by
  have hnext : next.state = .connected := hstate.trans hconnected
  have hlater : ∀ turn, next.session.writeResult turn = link.session.writeResult (turn + 1) := by
    intro turn
    rw [hsession, Memory.writeResult_write]
  constructor
  case keys => exact congrArg (key :: ·) hrest.keys
  case unmapped =>
    refine List.forall_mem_cons.mpr ⟨fun hnone => ?_, hrest.unmapped⟩
    rw [hkey] at hnone
    cases hnone
  case mapped =>
    simpa [Remote.mapped, hkey, hconnected, hnext, hlater, List.mapIdx_cons] using hrest.mapped
  case called =>
    simpa [targets, hkey, hconnected, hnext, hlater, List.mapIdx_cons] using hrest.called
  case session =>
    rw [hrest.session, hsession, Memory.write_eq, stored_ofWrite hkey]
    simp [Nat.add_assoc, Nat.add_comm 1]
  case state => exact hrest.state.trans hstate

end Applied

/-- The keys of an update are answered one after the other. -/
theorem applied_writeAttributes (device : Device) (data : List (String × Json))
    (link : Link Memory) :
    Applied device data link (link.run (writeAttributes device data)).1
      (link.exchanges (writeAttributes device data))
      (link.run (writeAttributes device data)).2 := by
  induction data generalizing link with
  | nil => exact Applied.nil device link
  | cons entry rest ih =>
      obtain ⟨key, value⟩ := entry
      rw [run_writeAttributes_cons, exchanges_writeAttributes_cons]
      dsimp only
      cases hkey : device.updatePath? key with
      | none =>
          obtain ⟨hrun, hcalls⟩ := writeAttribute_of_unmapped value link hkey
          rw [hrun, hcalls]
          exact .of_unmapped hkey (ih _) rfl rfl
      | some path =>
          by_cases hstate : link.state = .connected
          · obtain ⟨hreply, hlink, hcalls⟩ :=
              writeAttribute_of_connected value link hkey hstate
            rw [hreply, hlink, hcalls]
            exact .of_connected hkey hstate (ih _) rfl rfl
          · obtain ⟨hrun, hcalls⟩ := writeAttribute_of_ne value link hkey hstate
            rw [hrun, hcalls]
            exact .of_ne hkey hstate (ih _) rfl rfl

/-- An update gives one outcome for each of its keys, in the order of the keys, whatever the
state of the link and of its session.  A key without a tag is answered with 404, and one with a
tag with 503 unless the link is connected; then each key with a tag makes one write of its own.
A path holds the value of the last key for it that was answered with success, or else what it
held before.  An update of a device that is not known leaves the session alone. -/
theorem update_applied (p : PassThrough) (u : Update) (link : Link Memory)
    (hordered : (u.data.map Prod.fst).Pairwise (· < ·)) :
    (∀ device, p.device u.device = .ok device →
      ∃ outcomes, (link.run (p.update u)).1 = .ok outcomes ∧
        (outcomes.map Prod.fst).Pairwise (· < ·) ∧
        (∀ outcome ∈ outcomes, device.updatePath? outcome.1 = none → outcome.2.code = 404) ∧
        (link.state ≠ .connected → ∀ outcome ∈ Remote.mapped device outcomes,
          outcome.2.code = 503) ∧
        Applied device u.data link outcomes (link.exchanges (p.update u))
          (link.run (p.update u)).2 ∧
        ∀ path, (link.run (p.update u)).2.session.tags.find? path =
          (((targets device (succeeded u.data outcomes)).reverse.find? fun entry =>
            entry.1 = path).map fun entry => ⟨TagValue.ofJson entry.2, .good, none⟩).or
              (link.session.tags.find? path)) ∧
    (p.devices.find? u.device = none →
      (link.run (p.update u)).1 = .error (.deviceNotFound u.device) ∧
        link.exchanges (p.update u) = [] ∧ (link.run (p.update u)).2.session = link.session) := by
  refine ⟨fun device hdevice => ?_, fun hunknown => ?_⟩
  · have happlied := applied_writeAttributes device u.data link
    have hcalls : link.exchanges (p.update u) = link.exchanges (writeAttributes device u.data) := by
      rw [update, hdevice]
      simp
    rw [run_update_of_ok hdevice, hcalls]
    refine ⟨_, rfl, ?_, ?_, ?_, happlied, fun path => ?_⟩
    · rw [happlied.keys]
      exact hordered
    · intro outcome houtcome hkey
      rw [happlied.unmapped outcome houtcome hkey]
      rfl
    · intro hstate outcome houtcome
      rw [happlied.mapped, if_neg hstate] at houtcome
      obtain ⟨entry, -, rfl⟩ := List.mem_map.mp houtcome
      rfl
    · rw [happlied.session]
      exact find?_stored _ _ path
  · have hdevice : p.device u.device = .error (.deviceNotFound u.device) := by
      rw [PassThrough.device, hunknown]
    rw [run_update_of_error hdevice]
    refine ⟨rfl, ?_, rfl⟩
    rw [update, hdevice]
    rfl

/-- A fan whose speed goes by two keys. -/
def ceilingFan : Device where
  name := "fan"
  profile := "default"
  tags := []
  strategy := none
  updates := [("angle", "fan.tilt"), ("rate", "fan.speed"), ("speed", "fan.speed")]
  methods := []
  converter := .standard

def fanShop : PassThrough := ⟨[("fan", ceilingFan)], "opcda"⟩

def fanUpdate : Update where
  device := "fan"
  data := [("angle", .int 5), ("rate", .int 1), ("shade", .int 9), ("speed", .int 2)]

/-- The first key of the update fails and the third has no tag; of the other two, which have
one tag, the later wins. -/
theorem update_applied_of_fan :
    ∃ outcomes, (fanLink.run (fanShop.update fanUpdate)).1 = .ok outcomes ∧
      outcomes.map (fun outcome => (outcome.1, outcome.2.code)) =
        [("angle", 504), ("rate", 200), ("shade", 404), ("speed", 200)] ∧
      (fanLink.exchanges (fanShop.update fanUpdate)).length = 3 ∧
      (fanLink.run (fanShop.update fanUpdate)).2.session.tags.find? "fan.tilt" = none ∧
      (fanLink.run (fanShop.update fanUpdate)).2.session.tags.find? "fan.speed" =
        some ⟨.int 2, .good, none⟩ := by
  have hordered : (fanUpdate.data.map Prod.fst).Pairwise (· < ·) := by decide
  obtain ⟨outcomes, hrun, -, -, -, happlied, hfound⟩ :=
    (fanShop.update_applied fanUpdate fanLink hordered).1 ceilingFan rfl
  have houtcomes : (.ok outcomes : Except Failure (List (String × Reply))) =
      .ok [("angle", .ofFailure (.session (.timeout ⟨0⟩))), ("rate", .ok (.int 1)),
        ("shade", .ofFailure (.keyNotMapped "fan" "shade")), ("speed", .ok (.int 2))] :=
    hrun.symm
  obtain rfl := Except.ok.inj houtcomes
  refine ⟨_, hrun, rfl, ?_, ?_, ?_⟩
  · rw [happlied.called]
    rfl
  · rw [hfound]
    rfl
  · rw [hfound]
    rfl

end PassThrough

end TagRelay.Remote
