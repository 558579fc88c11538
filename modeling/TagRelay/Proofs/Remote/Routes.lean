import TagRelay.Proofs.Remote.Counting

/-!
# The routes to a tag

A value reaches a tag by an update of a shared attribute, by a write that names the key or
the tag, or by a method of the device.  Each route finds the tag on its own, but all of
them end in the same write: on whatever link, they leave it alike but for the call that is
counted, and their replies are the same but for the value that a method answers.
-/

namespace TagRelay.Remote

/-- The reply with another value in place of its own, if it has one. -/
def Reply.answering (reply : Reply) (answer : Json) : Reply :=
  { reply with value := reply.value.map fun _ => answer }

theorem Reply.ofResult_map (result : Except Failure Json) (answer : Json) :
    ofResult (result.map fun _ => answer) = (ofResult result).answering answer := by
  cases result <;> rfl

variable {σ : Type} [TagSession σ]

namespace Plan

/-- What comes of a write of a value that answers the value itself, and the session after
it. -/
def written (link : Link σ) (path : String) (value : Json) : Except Failure Json × σ :=
  let done := link.run (Plan.write path value value).perform
  (done.1, done.2.session)

/-- What a write answers when it succeeds has no part in what it does. -/
theorem run_perform_write (path : String) (value told : Json) (link : Link σ) :
    link.run (Plan.write path value told).perform =
      ((written link path value).1.map fun _ => told,
        { link with session := (written link path value).2 }) := by
  by_cases hstate : link.state = .connected
  · have hcall : ∀ result : Except SessionError Unit,
        judge (.write path value told) result =
          (judge (.write path value value) result).map fun _ => told := by
      intro result
      cases result <;> rfl
    rw [written, (run_perform_of_connected _ hstate).1, (run_perform_of_connected _ hstate).1]
    exact Prod.ext (hcall _) rfl
  · rw [written, (run_perform_of_ne _ hstate).1, (run_perform_of_ne _ hstate).1]
    rfl

end Plan

namespace PassThrough

open Plan (written)

theorem written_answering (link : Link σ) (path : String) (value : Json) :
    (Reply.ofResult (written link path value).1).answering value =
      .ofResult (written link path value).1 := by
  have hsame := congrArg Prod.fst (Plan.run_perform_write path value value link)
  rw [← Reply.ofResult_map]
  exact congrArg Reply.ofResult hsame.symm

/-- A request that was resolved to a write. -/
theorem run_answer_of_write {p : PassThrough} {request : Request} {path : String}
    {value told : Json} (hplan : p.plan request = .ok (.write path value told)) (link : Link σ) :
    link.run (p.answer request) =
      let reply := (Reply.ofResult (written link path value).1).answering told
      (reply, { link with session := (written link path value).2 }.count
        (.call (p.countedName request) reply.code)) := by
  have hrun : link.run (p.answer request) =
      let done := link.run (Plan.write path value told).perform
      (.ofResult done.1,
        done.2.count (.call (p.countedName request) (Reply.ofResult done.1).code)) := by
    simp [answer, hplan, Link.act, Routine.perform, Link.perform]
  rw [hrun, Plan.run_perform_write path value told link, ← Reply.ofResult_map]

/-- An update of one attribute that has a tag. -/
theorem run_update_of_mapped {p : PassThrough} {name key path : String} {device : Device}
    (hdevice : p.device name = .ok device) (hkey : device.updatePath? key = some path)
    (value : Json) (link : Link σ) :
    link.run (p.update ⟨name, [(key, value)]⟩) =
      let reply := Reply.ofResult (written link path value).1
      (.ok [(key, reply)], { link with session := (written link path value).2 }.count
        (.call updateName reply.code)) := by
  have hwrite : writeAttribute device key value = (Plan.write path value value).perform := by
    rw [writeAttribute, hkey]
  have hreply : Reply.ofResult ((written link path value).1.map fun _ => value) =
      Reply.ofResult (written link path value).1 := by
    rw [Reply.ofResult_map, written_answering]
  rw [run_update_of_ok hdevice, run_writeAttributes_cons, hwrite, Plan.run_perform_write]
  dsimp only
  rw [hreply]
  rfl

/-! ## Requests that reach a tag -/

/-- A request that writes `value` to the tag at `path`, and what it answers on success. -/
inductive Route (p : PassThrough) (device : Device) (path : String) (value : Json) :
    Request → Json → Prop
  /-- A write that names the key of an update. -/
  | key {request : Request} {key : String}
      (hmethod : Method.ofText p.type request.method = .write)
      (hkey : device.updatePath? key = some path)
      (hparams : request.params = .object [("key", .string key), ("value", value)]) :
      Route p device path value request value
  /-- A write that names the tag. -/
  | tag {request : Request} (hmethod : Method.ofText p.type request.method = .write)
      (hparams : request.params = .object [("tag", .string path), ("value", value)]) :
      Route p device path value request value
  /-- A method of the device, which is called with the value. -/
  | declared {request : Request} {name : String} {method : Config.Method}
      (hmethod : Method.ofText p.type request.method = .declared name)
      (hdeclared : device.method? name = some method) (hpath : method.path = path)
      (hparams : request.params = value) (hpresent : value.isNull = false) :
      Route p device path value request (.string "success")
  /-- A method of the device, which is called without a value and brings its own. -/
  | preset {request : Request} {name : String} {method : Config.Method}
      (hmethod : Method.ofText p.type request.method = .declared name)
      (hdeclared : device.method? name = some method) (hpath : method.path = path)
      (hparams : request.params = .null) (hvalue : method.value = some value) :
      Route p device path value request (.string "success")

theorem Route.plan {p : PassThrough} {device : Device} {path : String} {value told : Json}
    {request : Request} (hroute : Route p device path value request told)
    (hdevice : p.device request.device = .ok device) :
    p.plan request = .ok (.write path value told) := by
  cases hroute with
  | key hmethod hkey hparams =>
      simp [PassThrough.plan, hdevice, hmethod, hparams, Target.ofWriteParams, Target.ofObject,
        Target.textUnder, Json.lookup, Json.string?, Target.resolve, Device.callPath?, hkey,
        Except.map, bind, Except.bind, pure, Except.pure]
  | tag hmethod hparams =>
      simp [PassThrough.plan, hdevice, hmethod, hparams, Target.ofWriteParams, Target.ofObject,
        Target.textUnder, Json.lookup, Json.string?, Target.resolve, Except.map, bind, Except.bind,
        pure, Except.pure]
  | declared hmethod hdeclared hpath hparams hpresent =>
      simp [PassThrough.plan, hdevice, hmethod, planDeclared, hdeclared, hparams, hpresent, hpath,
        bind, Except.bind]
  | preset hmethod hdeclared hpath hparams hvalue =>
      simp [PassThrough.plan, hdevice, hmethod, planDeclared, hdeclared, hparams, hvalue, hpath,
        Json.isNull, bind, Except.bind]

/-- Whatever the state of link and session, there is one reply and one session for all routes
by which a value reaches a tag.  An update of a key of the tag gives this reply, and so does a
write that names the key or the tag; a method gives it with `"success"` for the value.  Each
leaves the link with this session, and otherwise as it was but for the call that it counts. -/
theorem routes_agree (p : PassThrough) {name : String} {device : Device}
    (hdevice : p.device name = .ok device) (path : String) (value : Json) (link : Link σ) :
    ∃ (reply : Reply) (session : σ), reply.answering value = reply ∧
      (∀ key, device.updatePath? key = some path →
        link.run (p.update ⟨name, [(key, value)]⟩) =
          (.ok [(key, reply)],
            { link with session := session }.count (.call updateName reply.code))) ∧
      ∀ request told, request.device = name → Route p device path value request told →
        link.run (p.answer request) =
          (reply.answering told,
            { link with session := session }.count (.call (p.countedName request) reply.code)) := by
  refine ⟨.ofResult (written link path value).1, (written link path value).2,
    written_answering link path value, ?_, ?_⟩
  · intro key hkey
    exact run_update_of_mapped hdevice hkey value link
  · intro request told hname hroute
    exact run_answer_of_write (hroute.plan (hname ▸ hdevice)) link

/-- A device whose speed can be set by an update and by a method. -/
def fan : Device where
  name := "fan"
  profile := "default"
  tags := []
  strategy := none
  updates := [("speed", "fan.speed")]
  methods := [("spin", { name := "spin", path := "fan.speed", value := some (.int 3) })]
  converter := .standard

def fanRoom : PassThrough := ⟨[("fan", fan)], "opcda"⟩

/-- A session whose next write times out. -/
def fanLink : Link Memory :=
  { plantLink with session := plantLink.session.failNextWrite (.timeout ⟨0⟩) }

/-- Every way to set the speed is answered with the same failure, and none stores it. -/
theorem routes_agree_of_timeout :
    ∃ (reply : Reply) (session : Memory), reply.code = 504 ∧ session.tags = [] ∧
      (fanLink.run (fanRoom.update ⟨"fan", [("speed", .int 3)]⟩)).1 = .ok [("speed", reply)] ∧
      ∀ request : Request, request.device = "fan" →
        (request.method, request.params) ∈
            [("set", .object [("key", .string "speed"), ("value", .int 3)]),
              ("write", .object [("tag", .string "fan.speed"), ("value", .int 3)]),
              ("spin", .int 3), ("opcda_spin", .null)] →
          (fanLink.run (fanRoom.answer request)).1 = reply ∧
            (fanLink.run (fanRoom.answer request)).2.session = session := by
  have hdevice : fanRoom.device "fan" = .ok fan := rfl
  obtain ⟨reply, session, -, hupdate, hrequest⟩ :=
    fanRoom.routes_agree hdevice "fan.speed" (.int 3) fanLink
  have hupdated := hupdate "speed" rfl
  have hreply : Reply.ofFailure (.session (.timeout ⟨0⟩)) = reply := by
    injection congrArg Prod.fst hupdated with hreplies
    injection hreplies with hentry
    exact congrArg Prod.snd hentry
  have hsession : (fanLink.session.call (.write "fan.speed" (.int 3))).2 = session :=
    congrArg (fun done => done.2.session) hupdated
  -- A failure has no value that a method could answer otherwise.
  have hsame : ∀ told, reply.answering told = reply := by
    rw [← hreply]
    exact fun _ => rfl
  refine ⟨reply, session, hreply ▸ rfl, hsession ▸ rfl, congrArg Prod.fst hupdated, ?_⟩
  intro request hdevice hasked
  have hset : Method.ofText "opcda" "set" = .write := by decide
  have hwrite : Method.ofText "opcda" "write" = .write := by decide
  have hspin : Method.ofText "opcda" "spin" = .declared "spin" := by decide
  have hprefixed : Method.ofText "opcda" "opcda_spin" = .declared "spin" := by decide
  have hroute : ∃ told, Route fanRoom fan "fan.speed" (.int 3) request told := by
    obtain ⟨device, id, method, params⟩ := request
    simp only [List.mem_cons, Prod.mk.injEq, List.not_mem_nil, or_false] at hasked
    rcases hasked with ⟨rfl, rfl⟩ | ⟨rfl, rfl⟩ | ⟨rfl, rfl⟩ | ⟨rfl, rfl⟩
    · exact ⟨_, .key hset (by rfl) rfl⟩
    · exact ⟨_, .tag hwrite rfl⟩
    · exact ⟨_, .declared hspin rfl rfl rfl rfl⟩
    · exact ⟨_, .preset hprefixed rfl rfl rfl rfl⟩
  obtain ⟨told, hroute⟩ := hroute
  rw [hrequest request told hdevice hroute]
  exact ⟨hsame told, rfl⟩

end PassThrough

end TagRelay.Remote
