import TagRelay.Proofs.Remote.Routes
import TagRelay.Proofs.Text.Blank
import TagRelay.Proofs.Text.Parts

/-!
# Methods that devices declare

The name of a method is taken without the blanks at its ends and without a lead-in, and then
it may be that of a built-in method.  A declared name that none of this changes is called by
itself, and so is every method with such a name; of several declarations the last counts.  A
name that is changed is not called by itself but as what remains of it, even if a method was
declared under it.
-/

namespace TagRelay.Remote

open Session

/-! ## Names -/

namespace Method

/-- The names of the built-in methods, in small letters. -/
def builtInNames : List String := builtIn.map Prod.fst

/-- A name that is called by itself. -/
structure Bare (type name : String) : Prop where
  trimmed : Text.trimList name.toList = name.toList
  no_leadIn : ¬ leadIn type <+: name.toList.map Char.toLower
  not_builtIn : Text.lower name ∉ builtInNames

theorem leadIn_ne_nil (type : String) : leadIn type ≠ [] := by
  rw [leadIn, String.toList_append]
  simp

/-- A lead-in is dropped, and nothing else. -/
theorem strip_cases (type : String) (name : List Char) :
    (¬ leadIn type <+: name.map Char.toLower ∧ strip type name = name) ∨
      (leadIn type <+: name.map Char.toLower ∧ (strip type name).length < name.length) := by
  cases hrest : Text.afterPrefix (leadIn type) (name.map Char.toLower) with
  | none =>
      refine Or.inl ⟨?_, by rw [strip, hrest]⟩
      rintro ⟨rest, heq⟩
      rw [Text.afterPrefix_eq_some_iff.mpr heq.symm] at hrest
      cases hrest
  | some rest =>
      have heq := Text.afterPrefix_eq_some_iff.mp hrest
      refine Or.inr ⟨⟨rest, heq.symm⟩, ?_⟩
      have hlength : name.length = (leadIn type).length + rest.length := by
        simpa using congrArg List.length heq
      have hpositive := List.length_pos_iff.mpr (leadIn_ne_nil type)
      rw [strip, hrest, List.length_drop]
      omega

theorem lookup_builtIn_eq_none_iff {name : String} :
    builtIn.lookup name = none ↔ name ∉ builtInNames := by
  simp [builtIn, builtInNames, List.lookup_eq_none_iff]

theorem ofText_eq_declared_iff {type text name : String} :
    ofText type text = .declared name ↔
      strip type (Text.trimList text.toList) = name.toList ∧ Text.lower name ∉ builtInNames := by
  have hbuiltIn : ∀ {small : String} {method : Method}, builtIn.lookup small = some method →
      method ≠ .declared name := by
    rintro small _ hlookup rfl
    obtain ⟨before, after, heq, -⟩ := List.lookup_eq_some_iff.mp hlookup
    have hmem : (small, Method.declared name) ∈ builtIn := by simp [heq]
    simp [builtIn] at hmem
  rw [ofText]
  cases hlookup : builtIn.lookup
      (Text.lower (String.ofList (strip type (Text.trimList text.toList)))) with
  | some method =>
      refine ⟨fun hname => absurd hname (hbuiltIn hlookup), ?_⟩
      rintro ⟨hname, hnone⟩
      rw [hname, String.ofList_toList, lookup_builtIn_eq_none_iff.mpr hnone] at hlookup
      cases hlookup
  | none =>
      have hnone := lookup_builtIn_eq_none_iff.mp hlookup
      constructor
      · intro hname
        obtain rfl := Method.declared.inj hname
        exact ⟨(String.toList_ofList).symm, hnone⟩
      · rintro ⟨hname, -⟩
        rw [hname, String.ofList_toList]
        rfl

/-- A text asks for the declared method of just this name exactly where the name is bare. -/
theorem ofText_self_iff {type name : String} :
    ofText type name = .declared name ↔ Bare type name := by
  rw [ofText_eq_declared_iff]
  constructor
  · rintro ⟨hname, hbuiltIn⟩
    -- Neither trimming nor the lead-in has taken anything away, or the name would be shorter.
    have hlength : (strip type (Text.trimList name.toList)).length ≤
        (Text.trimList name.toList).length := by
      rcases strip_cases type (Text.trimList name.toList) with ⟨-, hsame⟩ | ⟨-, hshorter⟩
      · rw [hsame]
      · exact hshorter.le
    have htrimmed := Text.trimList_eq_of_length (hname ▸ hlength)
    rw [htrimmed] at hname
    rcases strip_cases type name.toList with ⟨hleadIn, -⟩ | ⟨-, hshorter⟩
    · exact ⟨htrimmed, hleadIn, hbuiltIn⟩
    · rw [hname] at hshorter
      exact absurd hshorter (lt_irrefl _)
  · intro hbare
    refine ⟨?_, hbare.not_builtIn⟩
    rw [hbare.trimmed]
    rcases strip_cases type name.toList with ⟨-, hsame⟩ | ⟨hleadIn, -⟩
    · exact hsame
    · exact absurd hleadIn hbare.no_leadIn

end Method

/-! ## Declarations -/

/-- The last declaration of its name. -/
def LastOf (methods : List Config.Method) (last : Config.Method) : Prop :=
  ∃ earlier later, methods = earlier ++ last :: later ∧ ∀ other ∈ later, other.name ≠ last.name

theorem exists_lastOf {methods : List Config.Method} {method : Config.Method}
    (hmethod : method ∈ methods) : ∃ last, LastOf methods last ∧ last.name = method.name := by
  obtain ⟨earlier, last, later, hmethods, hname, hlater⟩ :=
    Roster.exists_last Config.Method.name hmethod
  exact ⟨last, ⟨earlier, later, hmethods, hlater⟩, hname⟩

/-- A device knows the last declaration of each name. -/
theorem method?_of_lastOf {declared : Config.Device} {fallback : Option ReportStrategy}
    {registry : Registry} {device : Device}
    (hbuilt : Device.ofConfig declared fallback registry = .ok device) {last : Config.Method}
    (hlast : LastOf declared.methods last) : device.method? last.name = some last := by
  obtain ⟨earlier, later, hmethods, hlater⟩ := hlast
  have hroster : device.methods =
      Roster.ofList (declared.methods.map fun method => (method.name, method)) := by
    rw [Device.ofConfig] at hbuilt
    split at hbuilt
    · cases hbuilt
    · split at hbuilt
      · cases hbuilt
      · cases hbuilt
        rfl
  rw [Device.method?, hroster]
  refine Roster.find?_ofList_of_last (by rw [hmethods, List.map_append, List.map_cons]) ?_
  simpa using hlater

/-! ## Calls -/

/-- The value that a call of a method brings, or that of its declaration. -/
def broughtValue? (method : Config.Method) (params : Json) : Option Json :=
  if params.isNull then method.value else some params

/-- A value was written to a tag, and the write was answered with success and counted under a
name. -/
structure Carried {σ : Type} [TagSession σ] (path : String) (value : Json) (name : String)
    (link : Link σ) (reply : Reply) (calls : List Exchange) (after : Link σ) : Prop where
  reply : reply = .ok (.string "success")
  calls : calls = [⟨.write path (TagValue.ofJson value), .ok ()⟩]
  session : after.session =
    (TagSession.call (.write path (TagValue.ofJson value)) link.session).2
  state : after.state = link.state
  metrics : after.metrics = link.metrics.record (.call name 200)
  counted : after.metrics.calls.count (name, 200) = link.metrics.calls.count (name, 200) + 1

section Calls

variable {p : PassThrough} {device : Device} {request : Request} {method : Config.Method}
  {value : Json}

/-- A call of a declared method is resolved to a write of its tag. -/
theorem plan_of_declared (hdevice : p.device request.device = .ok device)
    (hname : Method.ofText p.type request.method = .declared method.name)
    (hmethod : device.method? method.name = some method)
    (hvalue : broughtValue? method request.params = some value) :
    p.plan request = .ok (.write method.path value (.string "success")) := by
  rw [broughtValue?] at hvalue
  split at hvalue
  · rename_i hnull
    have hparams : request.params = .null := by
      cases hparams : request.params <;> simp_all [Json.isNull]
    exact (PassThrough.Route.preset hname hmethod rfl hparams hvalue).plan hdevice
  · rename_i hpresent
    obtain rfl := Option.some.inj hvalue
    exact (PassThrough.Route.declared hname hmethod rfl rfl (by simpa using hpresent)).plan hdevice

theorem countedName_of_declared (hdevice : p.device request.device = .ok device)
    (hname : Method.ofText p.type request.method = .declared method.name)
    (hmethod : device.method? method.name = some method) :
    p.countedName request = method.name := by
  have hfound : p.devices.find? request.device = some device := by
    rw [PassThrough.device] at hdevice
    split at hdevice
    · rename_i hfound
      rw [hfound, Except.ok.inj hdevice]
    · cases hdevice
  unfold PassThrough.countedName
  rw [hname]
  simp [hfound, hmethod]

theorem carried_of_declared {σ : Type} [TagSession σ]
    (hdevice : p.device request.device = .ok device)
    (hname : Method.ofText p.type request.method = .declared method.name)
    (hmethod : device.method? method.name = some method)
    (hvalue : broughtValue? method request.params = some value) {link : Link σ}
    (hstate : link.state = .connected)
    (haccepts : (TagSession.call (.write method.path (TagValue.ofJson value)) link.session).1 =
      .ok ()) :
    Carried method.path value method.name link (link.run (p.answer request)).1
      (link.exchanges (p.answer request)) (link.run (p.answer request)).2 := by
  have hplan := plan_of_declared hdevice hname hmethod hvalue
  have hcounted := countedName_of_declared hdevice hname hmethod
  obtain ⟨hrun, hcalls⟩ :=
    (Plan.write method.path value (.string "success")).run_perform_of_connected hstate
  have hresult : (TagSession.call (Plan.write method.path value (.string "success")).call
      link.session).1 = .ok () :=
    haccepts
  rw [hresult] at hrun hcalls
  have hanswer : link.run (p.answer request) =
      (.ok (.string "success"),
        (link.perform (.call (.write method.path (TagValue.ofJson value)))).2.count
          (.call method.name 200)) := by
    simp [PassThrough.answer, hplan, Link.act, Routine.perform, hrun, hcounted, Link.perform]
    exact ⟨rfl, rfl⟩
  have hexchanges : link.exchanges (p.answer request) =
      [⟨.write method.path (TagValue.ofJson value), .ok ()⟩] := by
    simp [PassThrough.answer, hplan, Link.act, Routine.perform, Link.exchange?, hcalls]
    exact ⟨rfl, HEq.rfl⟩
  rw [hanswer, hexchanges]
  constructor
  case reply | calls | session | state | metrics => rfl
  case counted =>
    change Tally.count _ (Tally.add _ 1 _) = _
    rw [Tally.count_add, Tally.sharing_self, if_pos rfl]
    rfl

end Calls

/-- What a call that was carried out has stored in a session in memory. -/
theorem Carried.stored {path : String} {value : Json} {name : String} {link after : Link Memory}
    {reply : Reply} {calls : List Exchange}
    (hcarried : Carried path value name link reply calls after)
    (haccepts : (TagSession.call (.write path (TagValue.ofJson value)) link.session).1 = .ok ()) :
    after.session.tags.find? path = some ⟨TagValue.ofJson value, .good, none⟩ := by
  have hresult : (link.session.write path (TagValue.ofJson value)).1 = .ok () := haccepts
  have hsession : after.session = (link.session.write path (TagValue.ofJson value)).2 :=
    hcarried.session
  rw [hsession]
  rcases link.session.write_cases path (TagValue.ofJson value) with ⟨cause, rest, heq⟩ | heq
  · rw [heq] at hresult
    cases hresult
  · rw [heq]
    exact Roster.find?_enter_self path _ _

/-- A declared method is called by its own name exactly where the name is bare.  Such a call
brings a value, or else that of the last declaration of the name; over a connected link whose
session accepts it, the value is written to the tag of that declaration. -/
theorem PassThrough.declared_called_by_name {p : PassThrough} {declared : Config.Device}
    {fallback : Option ReportStrategy} {registry : Registry} {device : Device} {request : Request}
    {method : Config.Method}
    (hbuilt : Device.ofConfig declared fallback registry = .ok device)
    (hdevice : p.device request.device = .ok device) (hmethod : method ∈ declared.methods)
    (hname : request.method = method.name) :
    (Method.ofText p.type request.method = .declared method.name ↔
      Method.Bare p.type method.name) ∧
    (Method.Bare p.type method.name →
      ∃ last, LastOf declared.methods last ∧ last.name = method.name ∧
        ∀ value, broughtValue? last request.params = some value →
          (∀ {σ : Type} [TagSession σ] (link : Link σ), link.state = .connected →
            (TagSession.call (.write last.path (TagValue.ofJson value)) link.session).1 = .ok () →
            Carried last.path value method.name link (link.run (p.answer request)).1
              (link.exchanges (p.answer request)) (link.run (p.answer request)).2) ∧
          ∀ link : Link Memory, link.state = .connected →
            (link.session.write last.path (TagValue.ofJson value)).1 = .ok () →
            (link.run (p.answer request)).2.session.tags.find? last.path =
              some ⟨TagValue.ofJson value, .good, none⟩) := by
  rw [hname]
  refine ⟨Method.ofText_self_iff, fun hbare => ?_⟩
  obtain ⟨last, hlast, hsame⟩ := exists_lastOf hmethod
  have hknown := method?_of_lastOf hbuilt hlast
  have hasked : Method.ofText p.type request.method = .declared last.name := by
    rw [hname, hsame]
    exact Method.ofText_self_iff.mpr hbare
  refine ⟨last, hlast, hsame, fun value hvalue => ⟨?_, ?_⟩⟩
  · intro σ _ link hstate haccepts
    rw [← hsame]
    exact carried_of_declared hdevice hasked hknown hvalue hstate haccepts
  · intro link hstate haccepts
    exact (carried_of_declared hdevice hasked hknown hvalue hstate haccepts).stored haccepts

/-- A press whose reset was declared twice; one of its methods carries the lead-in, and one
has blanks at its ends. -/
def press : Config.Device where
  name := "press"
  methods :=
    [{ name := "reset", path := "press.reset", value := some (.bool true) },
      { name := "opcda_stop", path := "press.stop", value := some (.bool true) },
      { name := " halt ", path := "press.halt", value := some (.bool true) },
      { name := "reset", path := "press.clear" }]

def pressDevice : Device :=
  { Device.uplinkOfConfig press none with
    updates := []
    methods := Roster.ofList (press.methods.map fun method => (method.name, method))
    converter := .standard }

def pressShop : PassThrough := ⟨[("press", pressDevice)], "opcda"⟩

/-- A call to reset the press, with a value. -/
def resetting : Request where
  device := "press"
  method := "reset"
  params := .int 7

/-- Its value goes to the tag of the second declaration. -/
theorem PassThrough.declared_called_by_name_of_reset :
    Carried "press.clear" (.int 7) "reset" plantLink
        (plantLink.run (pressShop.answer resetting)).1
        (plantLink.exchanges (pressShop.answer resetting))
        (plantLink.run (pressShop.answer resetting)).2 ∧
      (plantLink.run (pressShop.answer resetting)).2.session.tags.find? "press.clear" =
        some ⟨.int 7, .good, none⟩ := by
  have hbuilt : Device.ofConfig press none Registry.standard = .ok pressDevice := by rfl
  have hdevice : pressShop.device resetting.device = .ok pressDevice := rfl
  have hclear : (⟨"reset", "press.clear", none⟩ : Config.Method) ∈ press.methods := by simp [press]
  have hbare : Method.Bare "opcda" "reset" := ⟨by decide, by decide, by decide⟩
  obtain ⟨last, hlast, hname, hcarried⟩ :=
    (PassThrough.declared_called_by_name hbuilt hdevice hclear rfl).2 hbare
  have hknown : pressDevice.method? "reset" = some last := by
    have hfound := method?_of_lastOf hbuilt hlast
    rwa [hname] at hfound
  obtain rfl : ⟨"reset", "press.clear", none⟩ = last := Option.some.inj hknown
  obtain ⟨hcall, hstored⟩ := hcarried (.int 7) rfl
  exact ⟨hcall plantLink rfl rfl, hstored plantLink rfl rfl⟩

/-- Two methods of the press are not found under their own names, and nothing is written. -/
theorem PassThrough.exists_not_called_by_name :
    Device.ofConfig press none Registry.standard = .ok pressDevice ∧
      ∀ name ∈ ["opcda_stop", " halt "],
        (∃ method ∈ press.methods, method.name = name ∧ method.value = some (.bool true) ∧
          (plantLink.session.write method.path (.bool true)).1 = .ok ()) ∧
        Text.lower (Text.trim name) ∉ Method.builtInNames ∧
        (plantLink.run (pressShop.answer ⟨"press", none, name, .null⟩)).1 =
          .ofFailure (.methodNotFound name) ∧
        plantLink.exchanges (pressShop.answer ⟨"press", none, name, .null⟩) = [] := by
  have hbuilt : Device.ofConfig press none Registry.standard = .ok pressDevice := by rfl
  refine ⟨hbuilt, ?_⟩
  simp only [List.forall_mem_cons, List.not_mem_nil, IsEmpty.forall_iff, implies_true, and_true]
  refine ⟨⟨⟨_, .tail _ (.head _), rfl, rfl, rfl⟩, by decide, rfl, rfl⟩,
    ⟨_, .tail _ (.tail _ (.head _)), rfl, rfl, rfl⟩, by decide, rfl, rfl⟩

end TagRelay.Remote
