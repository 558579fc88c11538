import Mathlib.Algebra.GroupWithZero.Nat
import TagRelay.Proofs.Metrics.Shares
import TagRelay.Proofs.Remote.Answering

/-!
# How calls are counted

Every request is counted once and every update once for each of its keys, under a name and
the code of the reply.  Names that callers make up are counted as one, so only what is
declared decides how many series there are.  Two labels with one fingerprint share their
series, which then shows those that came first.
-/

namespace TagRelay.Remote

open Tally

/-- The codes of replies. -/
def Reply.codes : List Nat := [200, 400, 404, 500, 503, 504]

theorem Failure.code_mem_codes (failure : Failure) : failure.code ∈ Reply.codes := by
  rcases failure.code_cases with hcode | hcode | hcode | hcode | hcode <;>
    simp [Reply.codes, hcode]

theorem Reply.code_mem_codes (result : Except Failure Json) : (ofResult result).code ∈ codes := by
  cases result with
  | ok value => simp [ofResult, ok, codes]
  | error failure => exact failure.code_mem_codes

namespace PassThrough

/-! ## Names -/

/-- The names that are not those of declared methods. -/
def fixedNames : List String := ["read", "write", "unknown", updateName]

/-- All names under which calls can be counted. -/
def names (p : PassThrough) : List String :=
  fixedNames ++ p.devices.flatMap fun entry => entry.2.methods.map fun method => method.2.name

/-- All labels under which calls can be counted. -/
def labels (p : PassThrough) : List (String × Nat) :=
  p.names.flatMap fun name => Reply.codes.map fun code => (name, code)

theorem mem_labels {p : PassThrough} {name : String} {code : Nat} :
    (name, code) ∈ p.labels ↔ name ∈ p.names ∧ code ∈ Reply.codes := by
  simp [labels]

theorem length_labels (p : PassThrough) : p.labels.length = 6 * p.names.length := by
  simp [labels, List.length_flatMap, Reply.codes, Nat.mul_comm]

/-- Whatever method a caller makes up, it is counted under a name that was there before. -/
theorem countedName_mem_names (p : PassThrough) (request : Request) :
    p.countedName request ∈ p.names := by
  unfold countedName
  split
  · split
    · rename_i name _ method hmethod
      obtain ⟨device, hdevice, hdeclared⟩ := Option.bind_eq_some_iff.mp hmethod
      refine List.mem_append_right _ (List.mem_flatMap.mpr ⟨_, Roster.mem_of_find? hdevice, ?_⟩)
      exact List.mem_map.mpr ⟨_, Roster.mem_of_find? hdeclared, rfl⟩
    · simp [names, fixedNames]
  · rename_i builtIn hbuiltIn
    cases hmethod : Method.ofText p.type request.method with
    | read => simp [names, fixedNames, Method.name]
    | write => simp [names, fixedNames, Method.name]
    | declared name => exact absurd hmethod (hbuiltIn name)

variable {σ : Type} [TagSession σ]

/-! ## One request, one update -/

theorem metrics_perform (plan : Plan) (link : Link σ) :
    (link.run plan.perform).2.metrics = link.metrics := by
  by_cases hstate : link.state = .connected
  · rw [(plan.run_perform_of_connected hstate).1]
    rfl
  · rw [(plan.run_perform_of_ne hstate).1]

theorem metrics_writeAttribute (device : Device) (key : String) (value : Json) (link : Link σ) :
    (link.run (writeAttribute device key value)).2.metrics = link.metrics := by
  unfold writeAttribute
  split
  · exact metrics_perform _ link
  · rw [Link.run_pure]

/-- A request is counted under its name and the code of its reply. -/
theorem calls_answer (p : PassThrough) (request : Request) (link : Link σ) :
    (∃ result, (link.run (p.answer request)).1 = Reply.ofResult result) ∧
      (link.run (p.answer request)).2.metrics.calls =
        link.metrics.calls.add (p.countedName request, (link.run (p.answer request)).1.code) 1 := by
  rcases p.run_answer_cases request link with
    ⟨failure, -, hrun, -⟩ | ⟨plan, -, reply, hreply, hrun, -⟩
  · rw [hrun]
    exact ⟨⟨.error failure, rfl⟩, rfl⟩
  · rw [hrun]
    exact ⟨⟨_, hreply⟩, rfl⟩

/-- The labels of the keys of an update, by the codes of their replies. -/
def updateLabels (replies : List (String × Reply)) : List (String × Nat) :=
  replies.map fun entry => (updateName, entry.2.code)

theorem run_writeAttributes_cons (device : Device) (key : String) (value : Json)
    (rest : List (String × Json)) (link : Link σ) :
    link.run (writeAttributes device ((key, value) :: rest)) =
      let first := link.run (writeAttribute device key value)
      let reply := Reply.ofResult first.1
      let more :=
        (first.2.count (.call updateName reply.code)).run (writeAttributes device rest)
      ((key, reply) :: more.1, more.2) := by
  rw [writeAttributes, Link.run_bind, Link.run_bind, Link.run_bind]
  rfl

/-- The keys of an update are all answered, and each is counted. -/
theorem calls_writeAttributes (device : Device) (data : List (String × Json)) (link : Link σ) :
    let replies := (link.run (writeAttributes device data)).1
    replies.map Prod.fst = data.map Prod.fst ∧
      (∀ entry ∈ replies, ∃ result, entry.2 = Reply.ofResult result) ∧
      (link.run (writeAttributes device data)).2.metrics.calls =
        addAll (updateLabels replies) link.metrics.calls := by
  induction data generalizing link with
  | nil => simp [writeAttributes, updateLabels, addAll]
  | cons entry rest ih =>
      obtain ⟨key, value⟩ := entry
      rw [run_writeAttributes_cons]
      intro replies
      let first := link.run (writeAttribute device key value)
      let reply := Reply.ofResult first.1
      obtain ⟨hkeys, hreplies, hcalls⟩ := ih (first.2.count (.call updateName reply.code))
      have hkept : first.2.metrics = link.metrics := metrics_writeAttribute device key value link
      have hcounted : (first.2.count (.call updateName reply.code)).metrics.calls =
          link.metrics.calls.add (updateName, reply.code) 1 := by
        rw [← hkept]
        rfl
      rw [hcounted] at hcalls
      exact ⟨congrArg (key :: ·) hkeys, List.forall_mem_cons.mpr ⟨⟨first.1, rfl⟩, hreplies⟩, hcalls⟩

theorem run_update_of_ok {p : PassThrough} {u : Update} {device : Device}
    (hdevice : p.device u.device = .ok device) (link : Link σ) :
    link.run (p.update u) =
      (.ok (link.run (writeAttributes device u.data)).1,
        (link.run (writeAttributes device u.data)).2) := by
  rw [update, hdevice]
  exact Link.run_bind link (writeAttributes device u.data) _

theorem run_update_of_error {p : PassThrough} {u : Update} {failure : Failure}
    (hdevice : p.device u.device = .error failure) (link : Link σ) :
    link.run (p.update u) = (.error failure, link.count (.call updateName 404)) := by
  have hcode : failure.code = 404 := by
    rw [device] at hdevice
    split at hdevice
    · cases hdevice
    · cases hdevice
      rfl
  rw [update, hdevice, ← hcode]
  rfl

end PassThrough

open PassThrough (updateName updateLabels)

variable {σ : Type} [TagSession σ]

/-! ## What the platform asks for -/

inductive Demand where
  | request (request : Request)
  | update (u : Update)

namespace Demand

/-- The link after the demand has been met. -/
def after (p : PassThrough) (link : Link σ) : Demand → Link σ
  | .request r => (link.run (p.answer r)).2
  | .update u => (link.run (p.update u)).2

/-- The labels that the replies call for. -/
def labels (p : PassThrough) (link : Link σ) : Demand → List (String × Nat)
  | .request r => [(p.countedName r, (link.run (p.answer r)).1.code)]
  | .update u =>
      match (link.run (p.update u)).1 with
      | .ok replies => updateLabels replies
      | .error _ => [(updateName, 404)]

/-- How often the demand is counted. -/
def weight (p : PassThrough) : Demand → Nat
  | .request _ => 1
  | .update u =>
      match p.device u.device with
      | .ok _ => u.data.length
      | .error _ => 1

/-- A demand is counted under its labels, and under nothing else. -/
structure Counted (p : PassThrough) (demand : Demand) (link : Link σ) : Prop where
  calls : (demand.after p link).metrics.calls = addAll (demand.labels p link) link.metrics.calls
  length : (demand.labels p link).length = demand.weight p
  mem : ∀ label ∈ demand.labels p link, label ∈ p.labels

theorem counted_request (p : PassThrough) (r : Request) (link : Link σ) :
    Counted p (.request r) link := by
  obtain ⟨⟨result, hresult⟩, hcalls⟩ := p.calls_answer r link
  constructor
  · rw [after, labels, addAll_cons, ← hcalls]
    rfl
  · rw [labels, weight, List.length_singleton]
  · intro label hlabel
    rw [labels, List.mem_singleton] at hlabel
    rw [hlabel, PassThrough.mem_labels]
    refine ⟨p.countedName_mem_names r, ?_⟩
    rw [hresult]
    exact Reply.code_mem_codes result

theorem counted_update (p : PassThrough) (u : Update) (link : Link σ) :
    Counted p (.update u) link := by
  have hname : updateName ∈ p.names := by simp [PassThrough.names, PassThrough.fixedNames]
  cases hdevice : p.device u.device with
  | error failure =>
      have hlabels : Demand.labels p link (.update u) = [(updateName, 404)] := by
        rw [Demand.labels, PassThrough.run_update_of_error hdevice]
      constructor
      · rw [after, hlabels, PassThrough.run_update_of_error hdevice]
        rfl
      · rw [hlabels, weight, hdevice]
        rfl
      · rw [hlabels]
        simp [PassThrough.mem_labels, hname, Reply.codes]
  | ok device =>
      obtain ⟨hkeys, hreplies, hcalls⟩ := PassThrough.calls_writeAttributes device u.data link
      have hlabels : labels p link (.update u) =
          updateLabels (link.run (PassThrough.writeAttributes device u.data)).1 := by
        rw [labels, PassThrough.run_update_of_ok hdevice]
      constructor
      · rw [after, hlabels, PassThrough.run_update_of_ok hdevice]
        exact hcalls
      · rw [hlabels, weight, hdevice]
        simpa [updateLabels] using congrArg List.length hkeys
      · rw [hlabels]
        intro label hlabel
        obtain ⟨entry, hentry, rfl⟩ := List.mem_map.mp hlabel
        obtain ⟨result, hresult⟩ := hreplies entry hentry
        refine PassThrough.mem_labels.mpr ⟨hname, ?_⟩
        rw [hresult]
        exact Reply.code_mem_codes result

theorem counted (p : PassThrough) (demand : Demand) (link : Link σ) : Counted p demand link := by
  cases demand with
  | request r => exact counted_request p r link
  | update u => exact counted_update p u link

end Demand

/-! ## One demand after the other -/

/-- A demand, and the link when it is made. -/
structure Occasion (σ : Type) where
  demand : Demand
  link : Link σ

namespace Occasion

def labels (p : PassThrough) (o : Occasion σ) : List (String × Nat) := o.demand.labels p o.link

def before (o : Occasion σ) : Tally (String × Nat) := o.link.metrics.calls

def after (p : PassThrough) (o : Occasion σ) : Tally (String × Nat) :=
  (o.demand.after p o.link).metrics.calls

/-- Demands that are met one after the other.  In between anything may become of the link, but
its calls stay counted. -/
inductive Served (p : PassThrough) : Tally (String × Nat) → List (Occasion σ) →
    Tally (String × Nat) → Prop
  | none (calls : Tally (String × Nat)) : Served p calls [] calls
  | next {o : Occasion σ} {rest : List (Occasion σ)} {calls last : Tally (String × Nat)}
      (hbefore : o.before = calls) (hrest : Served p (o.after p) rest last) :
      Served p calls (o :: rest) last

theorem Served.calls {p : PassThrough} {first last : Tally (String × Nat)}
    {occasions : List (Occasion σ)} (hserved : Served p first occasions last) :
    last = addAll (occasions.flatMap (labels p)) first := by
  induction hserved with
  | none calls => rfl
  | @next o rest calls last hbefore hrest ih =>
      have hcalls : o.after p = addAll (o.labels p) o.before := (o.demand.counted p o.link).calls
      rw [ih, hcalls, hbefore, List.flatMap_cons, addAll_append]

theorem length_flatMap_labels (p : PassThrough) (occasions : List (Occasion σ)) :
    (occasions.flatMap (labels p)).length =
      (occasions.map fun o => o.demand.weight p).sum := by
  rw [List.length_flatMap]
  exact congrArg List.sum (List.map_congr_left fun o _ => (o.demand.counted p o.link).length)

theorem mem_labels_of_mem_flatMap {p : PassThrough} {occasions : List (Occasion σ)}
    {label : String × Nat} (hlabel : label ∈ occasions.flatMap (labels p)) : label ∈ p.labels := by
  obtain ⟨o, -, hmem⟩ := List.mem_flatMap.mp hlabel
  exact (o.demand.counted p o.link).mem label hmem

end Occasion

namespace PassThrough

/-- Whatever the platform asks for, over whatever session and link: a request increases one
series, that of its name and the code of its reply; an update increases one for each key and
the code of its reply, or one with 404 where the device is not known.  So all series together
show the requests, the keys and the updates in vain; every series has a name that the
configuration knows, and a code of a reply, and there are no more of them than that.  Labels
with one fingerprint share a series, and labels that share it with no other have it to
themselves. -/
theorem calls_counted (p : PassThrough) {occasions : List (Occasion σ)}
    {last : Tally (String × Nat)} (hserved : Occasion.Served p [] occasions last) :
    (∀ o ∈ occasions, IncreasedBy (o.labels p) o.before (o.after p) ∧
      (o.labels p).length = o.demand.weight p) ∧
    last.total = (occasions.map fun o => o.demand.weight p).sum ∧
    (∀ label ∈ keys last, label.1 ∈ p.names ∧ label.2 ∈ Reply.codes) ∧
    last.length ≤ 6 * p.names.length ∧
    (∀ label, last.count label = (occasions.flatMap (Occasion.labels p)).countP (sharing label)) ∧
    ∀ label, (∀ other ∈ p.labels, sharing label other = true → other = label) →
      last.count label = (occasions.flatMap (Occasion.labels p)).count label := by
  have hlast := hserved.calls
  have hshared : ∀ label, last.count label =
      (occasions.flatMap (Occasion.labels p)).countP (sharing label) := by
    intro label
    rw [hlast, count_addAll]
    exact Nat.zero_add _
  have hmem : ∀ label ∈ keys last, label ∈ p.labels := by
    intro label hlabel
    rw [hlast] at hlabel
    rcases mem_keys_addAll hlabel with hnone | hcounted
    · simp [keys] at hnone
    · exact Occasion.mem_labels_of_mem_flatMap hcounted
  refine ⟨?_, ?_, fun label hlabel => mem_labels.mp (hmem label hlabel), ?_, hshared, ?_⟩
  · intro o _
    have hcounted := o.demand.counted p o.link
    refine ⟨?_, hcounted.length⟩
    rw [show o.after p = addAll (o.labels p) o.before from hcounted.calls]
    exact increasedBy_addAll (o.labels p) o.before
  · rw [hlast, total_addAll, Occasion.length_flatMap_labels]
    exact Nat.zero_add _
  · rw [← length_labels]
    have hnone : Apart (keys ([] : Tally (String × Nat))) := List.Pairwise.nil
    have hapart : Apart (keys last) := by
      rw [hlast]
      exact hnone.addAll _
    exact length_le_of_keys hapart hmem
  · intro label halone
    rw [hshared, List.count]
    apply List.countP_congr
    intro other hother
    constructor
    · intro hsharing
      rw [halone other (Occasion.mem_labels_of_mem_flatMap hother) hsharing]
      exact beq_self_eq_true label
    · intro hsame
      rw [eq_of_beq hsame]
      exact sharing_self label

/-- A plant with two methods of its device. -/
def mixer : PassThrough where
  devices :=
    [("mixer",
      { name := "mixer"
        profile := "default"
        tags := []
        strategy := none
        updates := []
        methods :=
          [("FsNfXMeWmOC", { name := "FsNfXMeWmOC", path := "mixer.speed" }),
            ("q3UFeY0WNGN", { name := "q3UFeY0WNGN", path := "mixer.level" })]
        converter := .standard })]
  type := "opcda"

/-- A call of the first of them, which succeeds. -/
def speeding : Request where
  device := "mixer"
  method := "FsNfXMeWmOC"
  params := .int 1

/-- A call of the second of them without a value, which it needs. -/
def filling : Request where
  device := "mixer"
  method := "q3UFeY0WNGN"

/-- After a call that was answered with 200 one that is answered with 400 increases its
series, and there is none with the code 400. -/
theorem exists_other_code :
    let first := plantLink.run (mixer.answer speeding)
    let second := first.2.run (mixer.answer filling)
    first.1.code = 200 ∧ second.1.code = 400 ∧
      first.2.metrics.calls = [(("FsNfXMeWmOC", 200), 1)] ∧
      second.2.metrics.calls = [(("FsNfXMeWmOC", 200), 2)] ∧
      ∀ entry ∈ second.2.metrics.calls, entry.1.2 ≠ second.1.code := by
  decide +kernel

/-- A call, an update of a key that is not mapped, and an update in vain. -/
def shift : List (Occasion Memory) :=
  let link := plantLink
  let later := (link.run (mixer.answer speeding)).2
  let last := (later.run (mixer.update ⟨"mixer", [("limit", .int 9)]⟩)).2
  [⟨.request speeding, link⟩, ⟨.update ⟨"mixer", [("limit", .int 9)]⟩, later⟩,
    ⟨.update ⟨"pump", [("a", .int 1), ("b", .int 2)]⟩, last⟩]

/-- They make up three counts. -/
theorem calls_counted_of_shift :
    ∃ last, Occasion.Served mixer [] shift last ∧ last.total = 3 ∧
      ∀ label ∈ keys last, label.1 ∈ mixer.names := by
  have hserved : Occasion.Served mixer [] shift _ :=
    .next rfl (.next rfl (.next rfl (.none _)))
  obtain ⟨-, htotal, hlabels, -⟩ := mixer.calls_counted hserved
  exact ⟨_, hserved, htotal, fun label hlabel => (hlabels label hlabel).1⟩

end PassThrough

end TagRelay.Remote
