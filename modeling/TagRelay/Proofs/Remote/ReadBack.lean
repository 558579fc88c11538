import TagRelay.Proofs.Conversion.Entries
import TagRelay.Proofs.Conversion.Reordering
import TagRelay.Proofs.Link.Sequence
import TagRelay.Proofs.Remote.Answering
import TagRelay.Proofs.Tag.Payload

/-!
# Reading back what was written

A write that is answered with success has stored its value under one path.  There it stays,
whatever is asked of the link, until somebody writes this path anew, and it is what every
later read of the path answers and what every later poll reports for it.  A read with the
parameters of the write is a read of its path.
-/

namespace TagRelay

/-! ## Parts of a text -/

namespace Text

theorem mem_of_splitFirst {separator : Char} {text : List Char} {parts : List Char × List Char}
    (hsplit : splitFirst separator text = some parts) : separator ∈ text := by
  induction text generalizing parts with
  | nil => simp [splitFirst] at hsplit
  | cons c rest ih =>
      by_cases hc : c = separator
      · simp [hc]
      · rw [splitFirst, if_neg hc] at hsplit
        obtain ⟨inner, hinner, -⟩ := Option.map_eq_some_iff.mp hsplit
        exact List.mem_cons_of_mem c (ih hinner)

theorem mem_of_mem_pieces {separator c : Char} {text piece : List Char}
    (hpiece : piece ∈ pieces separator text) (hc : c ∈ piece) : c ∈ text := by
  induction text generalizing piece with
  | nil =>
      obtain rfl : piece = [] := by simpa [pieces] using hpiece
      exact hc
  | cons head rest ih =>
      rw [pieces] at hpiece
      split at hpiece
      · rcases List.mem_cons.mp hpiece with rfl | hpiece
        · simp at hc
        · exact List.mem_cons_of_mem head (ih hpiece hc)
      · split at hpiece
        · obtain rfl : piece = [head] := by simpa using hpiece
          exact List.mem_cons.mpr (Or.inl (by simpa using hc))
        · rename_i first others hpieces
          rw [hpieces] at ih
          rcases List.mem_cons.mp hpiece with rfl | hpiece
          · rcases List.mem_cons.mp hc with rfl | hc
            · exact List.mem_cons_self
            · exact List.mem_cons_of_mem head (ih List.mem_cons_self hc)
          · exact List.mem_cons_of_mem head (ih (List.mem_cons_of_mem first hpiece) hc)

end Text

/-! ## Stored values -/

namespace Memory

/-- A value is stored as it was written. -/
def Holds (m : Memory) (path : String) (value : TagValue) : Prop :=
  m.tags.find? path = some ⟨value, .good, none⟩

theorem Holds.reading {m : Memory} {path : String} {value : TagValue}
    (hholds : m.Holds path value) : m.reading path = ⟨path, value, .good, none⟩ := by
  have hfound : m.tags.find? path = some ⟨value, .good, none⟩ := hholds
  simp [Memory.reading, hfound]

theorem holds_of_write {m : Memory} {path : String} {value : TagValue}
    (hwritten : (m.write path value).1 = .ok ()) : (m.write path value).2.Holds path value := by
  rcases m.write_cases path value with ⟨cause, rest, heq⟩ | heq
  · simp [heq] at hwritten
  · simp [heq, Holds]

/-- Whatever a read answers was taken from the store. -/
theorem reply_of_read {m : Memory} {paths : List String} {readings : List Reading}
    (hread : (m.read paths).1 = .ok readings) : readings = m.reply paths := by
  rw [read_result] at hread
  split at hread
  · simp at hread
  · split at hread
    · split at hread
      · simp at hread
      · exact (Except.ok.inj hread).symm
    · simp at hread

theorem mem_reply {m : Memory} {paths : List String} {reading : Reading} :
    reading ∈ m.reply paths ↔
      ∃ path ∈ paths, path ∉ m.omittedPaths ∧ reading = m.reading path := by
  have hanswers : reading ∈ m.reply paths ↔ reading ∈ m.answers paths := by
    rw [reply]
    split
    · exact List.mem_reverse
    · exact Iff.rfl
  rw [hanswers, answers, List.mem_map]
  constructor
  · rintro ⟨path, hpath, rfl⟩
    obtain ⟨hpath, homitted⟩ := List.mem_filter.mp hpath
    exact ⟨path, hpath, by simpa using homitted, rfl⟩
  · rintro ⟨path, hpath, homitted, rfl⟩
    exact ⟨path, List.mem_filter.mpr ⟨hpath, by simpa using homitted⟩, rfl⟩

theorem eq_of_mem_reply {m : Memory} {paths : List String} {reading : Reading}
    (hmem : reading ∈ m.reply paths) : reading = m.reading reading.path := by
  obtain ⟨path, -, -, rfl⟩ := mem_reply.mp hmem
  rw [reading_path]

end Memory

namespace Link

open Routine Session

/-! ## What stays stored -/

/-- A call leaves what is stored at a path, unless it writes it with success. -/
theorem find?_call (m : Memory) {c : Call} {path : String}
    (hwrites : ∀ value, (⟨c, (TagSession.call c m).1⟩ : Exchange) ≠ ⟨.write path value, .ok ()⟩) :
    (TagSession.call c m).2.tags.find? path = m.tags.find? path := by
  rcases m.call_tags c with hsame | ⟨other, value, rfl, hresult, htags⟩
  · exact congrArg (Roster.find? path) hsame
  · have hother : path ≠ other := by
      rintro rfl
      apply hwrites value
      exact Sigma.ext rfl (heq_of_eq hresult)
    calc (TagSession.call (.write other value) m).2.tags.find? path
        = (m.tags.enter other ⟨value, .good, none⟩).find? path := congrArg (Roster.find? path) htags
      _ = m.tags.find? path := Roster.find?_enter_of_ne hother _ _

/-- A routine leaves what is stored at a path, unless it writes it with success. -/
theorem find?_run (link : Link Memory) {α : Type} (routine : Program α) {path : String}
    (hwrites : ∀ value, ⟨.write path value, .ok ()⟩ ∉ link.exchanges routine) :
    (link.run routine).2.session.tags.find? path = link.session.tags.find? path := by
  induction routine generalizing link with
  | done result => rfl
  | act action next ih =>
      have hlater : ∀ value, ⟨.write path value, .ok ()⟩ ∉
          (link.perform action).2.exchanges (next (link.perform action).1) := by
        intro value hmem
        apply hwrites value
        rw [exchanges_act]
        exact List.mem_append_right _ hmem
      rw [run_act, ih _ _ hlater, perform_session]
      cases action with
      | call c =>
          apply find?_call
          intro value heq
          apply hwrites value
          rw [exchanges_act, ← heq]
          exact List.mem_append_left _ (List.mem_singleton_self _)
      | look | move | halt | publish | count => rfl

/-- The use writes nothing at a path with success. -/
def Use.Spares (path : String) (link : Link Memory) : Use → Prop
  | .answer p request => ∀ value, ⟨.write path value, .ok ()⟩ ∉ link.exchanges (p.answer request)
  | .update p u => ∀ value, ⟨.write path value, .ok ()⟩ ∉ link.exchanges (p.update u)
  | .prepare (.store other _) => other ≠ path
  | _ => True

theorem find?_use (target : Endpoint) {path : String} {link : Link Memory} {u : Use}
    (hspares : u.Spares path link) :
    (link.use target u).session.tags.find? path = link.session.tags.find? path := by
  cases u with
  | connect =>
      rcases run_connect_cases link target with
        ⟨-, heq⟩ | ⟨-, cause, -, -, -, hsession⟩ | ⟨-, -, -, -, hsession⟩
      · rw [use, heq]
      · rw [use, hsession, find?_call _ (by simp)]
      · rw [use, hsession, find?_call _ (by simp), find?_call _ (by simp)]
  | disconnect => rw [use, run_disconnect_session, find?_call _ (by simp)]
  | markLost cause => rw [use, run_markLost_session]
  | stop => rw [use, run_stop_session, find?_call _ (by simp)]
  | acquire device =>
      apply find?_run
      intro value
      rw [Poll.readTags]
      split <;> simp [act, Routine.perform, exchange?]
  | answer p request => exact find?_run link _ hspares
  | update p u => exact find?_run link _ hspares
  | prepare preparation =>
      cases preparation with
      | store other tag =>
          have hother : path ≠ other := Ne.symm hspares
          exact Roster.find?_enter_of_ne hother tag link.session.tags
      | failConnects | failNextRead | failNextWrite | failInfo | reverseReplies | rejectReads
        | omitPath | delayReads => rfl

/-- What may come between a write and a read: any uses that do not write the path again, and
the loss of the connection at any time. -/
inductive Meanwhile (path : String) (link : Link Memory) : Link Memory → Prop
  | nothing : Meanwhile path link link
  | use {between : Link Memory} (target : Endpoint) (u : Use)
      (hbetween : Meanwhile path link between) (hspares : u.Spares path between) :
      Meanwhile path link (between.use target u)
  | drop {between : Link Memory} (hbetween : Meanwhile path link between) :
      Meanwhile path link { between with session := between.session.drop }

theorem Meanwhile.holds {path : String} {value : TagValue} {link later : Link Memory}
    (hlater : Meanwhile path link later) (hholds : link.session.Holds path value) :
    later.session.Holds path value := by
  induction hlater with
  | nothing => exact hholds
  | use target u hbetween hspares ih => exact (find?_use target hspares).trans ih
  | drop hbetween ih => exact ih

/-- Uses that write other paths may come between. -/
theorem meanwhile_useAll {path : String} (target : Endpoint) {uses : List Use}
    (hspares : ∀ u ∈ uses, ∀ link, u.Spares path link) (link : Link Memory) :
    Meanwhile path link (link.useAll target uses) := by
  suffices hgeneral : ∀ between, Meanwhile path link between →
      Meanwhile path link (between.useAll target uses) from hgeneral link .nothing
  induction uses with
  | nil => exact fun between hbetween => hbetween
  | cons u uses ih =>
      obtain ⟨hu, huses⟩ := List.forall_mem_cons.mp hspares
      intro between hbetween
      exact ih huses _ (.use target u hbetween (hu between))

end Link

namespace Remote

open Session

/-! ## Requests with the same target -/

namespace Target

theorem contains_of_ofPairs {text : String} {target : Target}
    (hpairs : ofPairs text = .ok target) : text.toList.contains '=' = true := by
  have hsome : pairs text ≠ [] := by
    intro hempty
    simp [ofPairs, hempty] at hpairs
  obtain ⟨pair, hpair⟩ := List.exists_mem_of_ne_nil _ hsome
  rw [pairs, List.mem_reverse, List.mem_filterMap] at hpair
  obtain ⟨piece, hpiece, hsplit⟩ := hpair
  obtain ⟨parts, hparts, -⟩ := Option.map_eq_some_iff.mp hsplit
  rw [List.contains_iff_mem]
  exact Text.mem_of_mem_pieces hpiece (Text.mem_of_splitFirst hparts)

/-- The parameters of a write name its target to a read, too. -/
theorem ofReadParams_of_ofWriteParams {params value : Json} {target : Target}
    (hwrite : ofWriteParams params = .ok (target, value)) : ofReadParams params = .ok target := by
  cases params with
  | string text =>
      cases hpairs : ofPairs text with
      | error failure => simp [ofWriteParams, hpairs, bind, Except.bind] at hwrite
      | ok found =>
          have htarget : found = target := by
            simp only [ofWriteParams, hpairs, bind, Except.bind] at hwrite
            split at hwrite
            · exact congrArg Prod.fst (Except.ok.inj hwrite)
            · simp at hwrite
          rw [ofReadParams, if_pos (contains_of_ofPairs hpairs), hpairs, htarget]
  | object fields =>
      rw [ofWriteParams] at hwrite
      split at hwrite
      · rw [ofReadParams]
        cases hfields : ofObject fields with
        | error failure => simp [hfields, Except.map] at hwrite
        | ok found =>
            rw [hfields] at hwrite
            exact congrArg Except.ok (congrArg Prod.fst (Except.ok.inj hwrite))
      · simp at hwrite
  | null | bool | int | float | array => simp [ofWriteParams] at hwrite

end Target

namespace PassThrough

/-- A request to write. -/
structure Writes (p : PassThrough) (request : Request) (device : Device) (target : Target)
    (path : String) (value : Json) : Prop where
  isWrite : Method.ofText p.type request.method = .write
  onDevice : p.device request.device = .ok device
  withParams : Target.ofWriteParams request.params = .ok (target, value)
  atPath : target.resolve device = .ok path

theorem Writes.plan {p : PassThrough} {request : Request} {device : Device} {target : Target}
    {path : String} {value : Json} (hwrites : p.Writes request device target path value) :
    p.plan request = .ok (.write path value value) := by
  simp [PassThrough.plan, hwrites.onDevice, hwrites.isWrite, hwrites.withParams, hwrites.atPath,
    bind, Except.bind, pure, Except.pure]

/-- A read of the target of a write reads its path. -/
theorem Writes.plan_read {p : PassThrough} {request again : Request} {device : Device}
    {target : Target} {path : String} {value : Json}
    (hwrites : p.Writes request device target path value)
    (hmethod : Method.ofText p.type again.method = .read)
    (hdevice : again.device = request.device)
    (hparams : Target.ofReadParams again.params = .ok target) :
    p.plan again = .ok (.read path) := by
  simp [PassThrough.plan, hdevice, hwrites.onDevice, hmethod, hparams, hwrites.atPath, bind,
    Except.bind, pure, Except.pure]

/-! ## Requests that succeed -/

theorem run_answer_of_success {p : PassThrough} {request : Request} {plan : Plan}
    {link : Link Memory} (hplan : p.plan request = .ok plan)
    (hcode : (link.run (p.answer request)).1.code = 200) :
    ∃ told, plan.judge (TagSession.call plan.call link.session).1 = .ok told ∧
      (link.run (p.answer request)).1 = .ok told ∧
      (link.run (p.answer request)).2.session = (TagSession.call plan.call link.session).2 := by
  have hreply : (link.run (p.answer request)).1 = .ofResult (link.run plan.perform).1 := by
    simp [answer, hplan, Link.act, Routine.perform]
  have hsession : (link.run (p.answer request)).2.session =
      (link.run plan.perform).2.session := by
    simp [answer, hplan, Link.act, Routine.perform, Link.perform_session]
  rw [hreply] at hcode ⊢
  rw [hsession]
  by_cases hstate : link.state = .connected
  · rw [(plan.run_perform_of_connected hstate).1] at hcode ⊢
    cases hjudge : plan.judge (TagSession.call plan.call link.session).1 with
    | ok told => exact ⟨told, rfl, rfl, rfl⟩
    | error failure =>
        rw [hjudge] at hcode
        have hsuccess := (Reply.coherent_ofResult (.error failure)).success_iff_code.mpr hcode
        simp [Reply.ofResult, Reply.ofFailure] at hsuccess
  · rw [(plan.run_perform_of_ne hstate).1] at hcode
    simp [Reply.ofResult, Reply.ofFailure, Failure.code] at hcode

/-- A write that is answered with success has stored its value. -/
theorem Writes.holds {p : PassThrough} {request : Request} {device : Device} {target : Target}
    {path : String} {value : Json} {link : Link Memory}
    (hwrites : p.Writes request device target path value)
    (hcode : (link.run (p.answer request)).1.code = 200) :
    (link.run (p.answer request)).2.session.Holds path (TagValue.ofJson value) := by
  obtain ⟨told, hjudge, -, hsession⟩ := run_answer_of_success hwrites.plan hcode
  rw [hsession]
  apply Memory.holds_of_write
  cases hresult : (link.session.write path (TagValue.ofJson value)).1 with
  | ok _ => rfl
  | error cause =>
      have hcall : (TagSession.call (Plan.write path value value).call link.session).1 =
          .error cause := hresult
      simp [Plan.judge, hcall] at hjudge

/-- A read that is answered with success answers what is stored. -/
theorem value_of_read {p : PassThrough} {request : Request} {path : String} {value : TagValue}
    {link : Link Memory} (hholds : link.session.Holds path value)
    (hplan : p.plan request = .ok (.read path))
    (hcode : (link.run (p.answer request)).1.code = 200) :
    (link.run (p.answer request)).1.value =
      some (.object [("quality", .int 192), ("tag", .string path), ("value", value.toJson)]) := by
  obtain ⟨told, hjudge, hreply, -⟩ := run_answer_of_success hplan hcode
  have htold : told = readAnswer path ⟨path, value, .good, none⟩ := by
    cases hresult : (link.session.read [path]).1 with
    | error cause =>
        have hcall : (TagSession.call (Plan.read path).call link.session).1 = .error cause :=
          hresult
        simp [Plan.judge, hcall] at hjudge
    | ok readings =>
        have hcall : (TagSession.call (Plan.read path).call link.session).1 = .ok readings :=
          hresult
        simp only [Plan.judge, hcall] at hjudge
        split at hjudge
        · rename_i reading hfound
          have hmem : reading ∈ link.session.reply [path] := by
            rw [← Memory.reply_of_read hresult]
            exact List.mem_of_find?_eq_some hfound
          have hpath : reading.path = path := by simpa using List.find?_some hfound
          have hreading : reading = ⟨path, value, .good, none⟩ := by
            rw [Memory.eq_of_mem_reply hmem, hpath, hholds.reading]
          rw [← Except.ok.inj hjudge, hreading]
        · simp at hjudge
  rw [hreply, htold]
  rfl

end PassThrough

end Remote

/-! ## Requests elsewhere -/

namespace Link

open Remote Routine Session

variable {path : String}

theorem exchanges_perform (plan : Plan) (link : Link Memory) :
    link.exchanges plan.perform = [] ∨
      link.exchanges plan.perform = [⟨plan.call, (TagSession.call plan.call link.session).1⟩] := by
  by_cases hstate : link.state = .connected
  · exact Or.inr (plan.run_perform_of_connected hstate).2
  · exact Or.inl (plan.run_perform_of_ne hstate).2

theorem not_mem_exchanges_perform {plan : Plan}
    (hplan : ∀ value answer, plan ≠ .write path value answer) (link : Link Memory)
    (value : TagValue) : ⟨.write path value, .ok ()⟩ ∉ link.exchanges plan.perform := by
  intro hmem
  rcases exchanges_perform plan link with hnone | hcall
  · simp [hnone] at hmem
  · rw [hcall, List.mem_singleton] at hmem
    cases plan with
    | read other => cases congrArg Sigma.fst hmem
    | write other written answer =>
        obtain ⟨rfl, -⟩ := Call.write.inj (congrArg Sigma.fst hmem)
        exact hplan written answer rfl

/-- A request that is no write of a path does not write it. -/
theorem spares_of_plan {p : PassThrough} {request : Request}
    (hplan : ∀ value answer, p.plan request ≠ .ok (.write path value answer))
    (link : Link Memory) : (Use.answer p request).Spares path link := by
  intro value
  cases hresolved : p.plan request with
  | error failure => simp [PassThrough.answer, hresolved, act, Routine.perform, exchange?]
  | ok plan =>
      have hother : ∀ value answer, plan ≠ .write path value answer := by
        rintro value answer rfl
        exact hplan value answer hresolved
      simpa [PassThrough.answer, hresolved, act, Routine.perform, exchange?] using
        not_mem_exchanges_perform hother link value

theorem not_mem_exchanges_writeAttributes {device : Device} {data : List (String × Json)}
    (hdata : ∀ entry ∈ data, device.updatePath? entry.1 ≠ some path) (link : Link Memory)
    (value : TagValue) :
    ⟨.write path value, .ok ()⟩ ∉ link.exchanges (PassThrough.writeAttributes device data) := by
  induction data generalizing link with
  | nil => simp [PassThrough.writeAttributes]
  | cons entry rest ih =>
      obtain ⟨hentry, hrest⟩ := List.forall_mem_cons.mp hdata
      have hone : ⟨.write path value, .ok ()⟩ ∉
          link.exchanges (PassThrough.writeAttribute device entry.1 entry.2) := by
        rw [PassThrough.writeAttribute]
        split
        · rename_i other hother
          apply not_mem_exchanges_perform
          intro written answer hplan
          obtain ⟨rfl, -⟩ := Plan.write.inj hplan
          exact hentry hother
        · simp
      rw [PassThrough.writeAttributes]
      simp only [exchanges_bind, exchanges_pure, List.mem_append, List.not_mem_nil, or_false,
        not_or]
      refine ⟨hone, ?_, ih hrest _⟩
      simp [act, Routine.perform, exchange?]

/-- An update that maps none of its keys to a path does not write it. -/
theorem spares_of_update {p : PassThrough} {u : Update}
    (hdata : ∀ device, p.device u.device = .ok device →
      ∀ entry ∈ u.data, device.updatePath? entry.1 ≠ some path)
    (link : Link Memory) : (Use.update p u).Spares path link := by
  intro value
  cases hdevice : p.device u.device with
  | error failure => simp [PassThrough.update, hdevice, act, Routine.perform, exchange?]
  | ok device =>
      simpa [PassThrough.update, hdevice] using
        not_mem_exchanges_writeAttributes (hdata device hdevice) link value

end Link

/-! ## Polls -/

namespace Conversion

theorem exists_mem_zip {α β : Type} {R : α → β → Prop} {left : List α} {right : List β}
    (hforall : List.Forall₂ R left right) {a : α} (ha : a ∈ left) :
    ∃ b, (a, b) ∈ left.zip right ∧ R a b := by
  induction hforall with
  | nil => simp at ha
  | @cons x y left right hxy hrest ih =>
      rcases List.mem_cons.mp ha with rfl | ha
      · exact ⟨y, by simp, hxy⟩
      · obtain ⟨b, hb, hab⟩ := ih ha
        exact ⟨b, by simp [hb], hab⟩

/-- Every tag at a path that declares no type has an entry of its own with this value, and
with the time of the acquisition if it is a timeseries. -/
structure Tells (u : Uplink) (unit : Acquisition) (path : String) (told : Json)
    (conversion : Conversion) : Prop where
  attributes : ∀ tag i, (tag, i) ∈ u.tags.zipIdx → tag.place = .attributes → tag.path = path →
    tag.valueType = none → ((tag, i), (reportedKey u tag, told)) ∈
      (answered u unit.readings .attributes).zip conversion.record.attributes
  telemetry : ∀ tag i, (tag, i) ∈ u.tags.zipIdx → tag.place = .timeseries → tag.path = path →
    tag.valueType = none → ((tag, i), ⟨unit.acquiredAt, reportedKey u tag, told⟩) ∈
      (answered u unit.readings .timeseries).zip conversion.record.telemetry

/-- The entry of a tag whose reading was written and has no timestamp of its own. -/
theorem reported_of_written (u : Uplink) {tag : Tag} (huntyped : tag.valueType = none)
    (acquiredAt : Int) (path : String) (value : TagValue) :
    reported u.name tag (u.strategyFor tag) acquiredAt ⟨path, value, .good, none⟩ =
      ⟨acquiredAt, reportedKey u tag, value.toJson⟩ := by
  have htime : reportedTime tag ⟨path, value, .good, none⟩ acquiredAt = acquiredAt := by
    rw [reportedTime]
    split <;> rfl
  have hvalue : reportedValue tag ⟨path, value, .good, none⟩ = value.toJson := by
    simp [reportedValue, trustedValue, huntyped, Quality.isGood]
  exact congrArg₂ (fun time told => (⟨time, reportedKey u tag, told⟩ : Telemetry)) htime hvalue

theorem tells_of_holds {m : Memory} {path : String} {value : TagValue}
    (hholds : m.Holds path value) (homitted : path ∉ m.omittedPaths) {u : Uplink}
    {readings : List Reading} (hread : (m.read u.tagPaths).1 = .ok readings) {acquiredAt : Int}
    {conversion : Conversion} (hok : standard u ⟨readings, acquiredAt⟩ = .ok conversion) :
    Tells u ⟨readings, acquiredAt⟩ path value.toJson conversion := by
  have hreply : readings = m.reply u.tagPaths := Memory.reply_of_read hread
  have hreading : m.reading path = ⟨path, value, .good, none⟩ := hholds.reading
  have hconverted := converted_of_ok hok
  have hanswered : ∀ {tag : Tag} {i : Nat}, (tag, i) ∈ u.tags.zipIdx → tag.path = path →
      (tag, i) ∈ answered u readings tag.place := by
    intro tag i htag hpath
    have hasked : path ∈ u.tagPaths :=
      List.mem_map.mpr ⟨tag, List.fst_mem_of_mem_zipIdx htag, hpath⟩
    have hmem : m.reading path ∈ readings := by
      rw [hreply]
      exact Memory.mem_reply.mpr ⟨path, hasked, homitted, rfl⟩
    refine List.mem_filter.mpr ⟨htag, ?_⟩
    simp only [true_and, decide_eq_true_eq]
    exact ⟨m.reading path, hmem, by rw [Memory.reading_path, hpath]⟩
  -- The store gives the same reading for a path wherever it stands in the reply.
  have hentry : ∀ {tag : Tag} {i : Nat} {entry : Telemetry}, tag.path = path →
      tag.valueType = none → Reports u ⟨readings, acquiredAt⟩ (tag, i) entry →
        entry = ⟨acquiredAt, reportedKey u tag, value.toJson⟩ := by
    rintro tag i entry hpath huntyped ⟨reading, hchosen, rfl⟩
    obtain ⟨hmem, hsame⟩ := hchosen.mem
    have hfrom : reading = m.reading reading.path := by
      rw [show readings = _ from hreply] at hmem
      exact Memory.eq_of_mem_reply hmem
    rw [hfrom, hsame, show (tag, i).1.path = path from hpath, hreading]
    exact reported_of_written u huntyped acquiredAt path value
  constructor
  · intro tag i htag hplace hpath huntyped
    obtain ⟨shown, hshown, entry, hreports, rfl⟩ :=
      exists_mem_zip hconverted.attributes (hplace ▸ hanswered htag hpath)
    rw [hentry hpath huntyped hreports] at hshown
    exact hshown
  · intro tag i htag hplace hpath huntyped
    obtain ⟨entry, hshown, hreports⟩ :=
      exists_mem_zip hconverted.telemetry (hplace ▸ hanswered htag hpath)
    rw [hentry hpath huntyped hreports] at hshown
    exact hshown

end Conversion

namespace Remote.PassThrough

open Conversion (Tells)

/-- After a write that was answered with success, and whatever came since but another write of
its path: a read of the path that is answered with success answers the value with good quality,
and so does a read with the target of the write; every conversion of a poll that asked for the
path, where it is not left out of replies, has the value for every untyped tag; and this value
is the one that was sent, if that is plain. -/
theorem read_back_of_write {p : PassThrough} {request : Request} {device : Device}
    {target : Target} {path : String} {value : Json} {link later : Link Memory}
    (hwrites : p.Writes request device target path value)
    (hcode : (link.run (p.answer request)).1.code = 200)
    (hlater : Link.Meanwhile path (link.run (p.answer request)).2 later) :
    let told := (TagValue.ofJson value).toJson
    (∀ (q : PassThrough) (again : Request), q.plan again = .ok (.read path) →
      (later.run (q.answer again)).1.code = 200 →
        (later.run (q.answer again)).1.value =
          some (.object [("quality", .int 192), ("tag", .string path), ("value", told)])) ∧
    (∀ again : Request, Method.ofText p.type again.method = .read →
      again.device = request.device →
        (again.params = request.params ∨ Target.ofReadParams again.params = .ok target) →
          p.plan again = .ok (.read path)) ∧
    (∀ (polled : Device) (readings : List Reading) (time : Int) (conversion : Conversion),
      path ∉ later.session.omittedPaths →
        (later.run (Poll.readTags polled)).1 = .ok readings →
          Converter.standard.convert polled.toUplink ⟨readings, time⟩ = .ok conversion →
            Tells polled.toUplink ⟨readings, time⟩ path told conversion) ∧
    (value.IsPlain → told = value) := by
  intro told
  have hholds : later.session.Holds path (TagValue.ofJson value) :=
    hlater.holds (hwrites.holds hcode)
  refine ⟨?_, ?_, ?_, TagValue.toJson_ofJson⟩
  · intro q again hplan hanswered
    exact value_of_read hholds hplan hanswered
  · intro again hmethod hdevice hparams
    refine hwrites.plan_read hmethod hdevice ?_
    rcases hparams with hsame | htarget
    · rw [hsame]
      exact Target.ofReadParams_of_ofWriteParams hwrites.withParams
    · exact htarget
  · intro polled readings time conversion homitted hread hok
    rw [Conversion.run_readTags] at hread
    split at hread
    · exact Conversion.tells_of_holds hholds homitted hread hok
    · -- A device without tags has nothing to tell.
      rename_i htags
      have hnone : polled.tags = [] := by simpa [Uplink.hasTags] using htags
      constructor <;> simp [hnone]

/-- A plant whose device polls the tag that is written. -/
def boilerRoom : PassThrough := ⟨[("boiler", Conversion.boiler)], "opcda"⟩

/-- A request to write the limit of the boiler, named by its key. -/
def limiting : Request where
  device := "boiler"
  method := "set"
  params := .object [("key", .string "limit"), ("value", .array [.int 9, .null])]

/-- A request to write another tag. -/
def pressing : Request where
  device := "boiler"
  method := "set"
  params := .object [("tag", .string "boiler.pressure"), ("value", .int 7)]

/-- What comes after the limit was written: the connection is lost and opened again, another
tag is written, in vain at first, and an update has no tag to write. -/
def aftermath : List Link.Use :=
  [.markLost .notConnected, .disconnect, .connect, .prepare (.failNextWrite (.other "busy")),
    .answer boilerRoom pressing, .answer boilerRoom pressing,
    .update boilerRoom ⟨"boiler", [("limit", .int 1)]⟩, .acquire Conversion.boiler]

theorem spares_of_mem_aftermath {u : Link.Use} (hu : u ∈ aftermath) (link : Link Memory) :
    u.Spares "boiler.limit" link := by
  have hpressing : ∀ value answer,
      boilerRoom.plan pressing ≠ .ok (.write "boiler.limit" value answer) := by
    have hplan : boilerRoom.plan pressing = .ok (.write "boiler.pressure" (.int 7) (.int 7)) := by
      rfl
    simp [hplan]
  simp only [aftermath, List.mem_cons, List.not_mem_nil, or_false] at hu
  rcases hu with rfl | rfl | rfl | rfl | rfl | rfl | rfl | rfl
  case inr.inr.inr.inr.inr.inr.inl =>
    apply Link.spares_of_update
    intro device hdevice
    obtain rfl : Conversion.boiler = device := Except.ok.inj hdevice
    simp [Conversion.boiler, Device.updatePath?, Roster.find?]
  all_goals first
    | exact Link.spares_of_plan hpressing link
    | trivial

/-- The link when all this is over. -/
def aftermathLink : Link Memory :=
  (plantLink.run (boilerRoom.answer limiting)).2.useAll ⟨"server", "host"⟩ aftermath

/-- The limit is answered and reported as it was written. -/
theorem read_back_of_limit :
    let reading := aftermathLink.run (boilerRoom.answer { limiting with method := "get" })
    (plantLink.run (boilerRoom.answer limiting)).1.code = 200 ∧ reading.1.code = 200 ∧
      reading.1.value = some (.object
        [("quality", .int 192), ("tag", .string "boiler.limit"),
          ("value", .array [.int 9, .null])]) ∧
      ∃ readings conversion,
        (aftermathLink.run (Poll.readTags Conversion.boiler)).1 = .ok readings ∧
        Converter.standard.convert Conversion.boiler.toUplink ⟨readings, 5⟩ = .ok conversion ∧
        Tells Conversion.boiler.toUplink ⟨readings, 5⟩ "boiler.limit" (.array [.int 9, .null])
          conversion := by
  have hwrites : boilerRoom.Writes limiting Conversion.boiler (.key "limit") "boiler.limit"
      (.array [.int 9, .null]) :=
    ⟨by decide, rfl, rfl, rfl⟩
  have hwritten : (plantLink.run (boilerRoom.answer limiting)).1.code = 200 := rfl
  have hanswered :
      (aftermathLink.run (boilerRoom.answer { limiting with method := "get" })).1.code = 200 :=
    rfl
  have hpresent : "boiler.limit" ∉ aftermathLink.session.omittedPaths := by decide
  have hlater : Link.Meanwhile "boiler.limit" (plantLink.run (boilerRoom.answer limiting)).2
      aftermathLink :=
    Link.meanwhile_useAll ⟨"server", "host"⟩ (fun u hu => spares_of_mem_aftermath hu) _
  obtain ⟨hread, hsame, htells, hplain⟩ := read_back_of_write hwrites hwritten hlater
  have htold : (TagValue.ofJson (.array [.int 9, .null])).toJson = .array [.int 9, .null] := by
    apply hplain
    simp [Json.IsPlain, Json.IsPrimitive]
  rw [htold] at hread htells
  have hplan := hsame { limiting with method := "get" } (by decide) rfl (Or.inl rfl)
  obtain ⟨readings, conversion, hpolled, hconverted⟩ : ∃ readings conversion,
      (aftermathLink.run (Poll.readTags Conversion.boiler)).1 = .ok readings ∧
        Converter.standard.convert Conversion.boiler.toUplink ⟨readings, 5⟩ = .ok conversion :=
    ⟨_, _, rfl, rfl⟩
  exact ⟨hwritten, hanswered, hread _ _ hplan hanswered, readings, conversion, hpolled, hconverted,
    htells _ _ _ _ hpresent hpolled hconverted⟩

end Remote.PassThrough

end TagRelay
