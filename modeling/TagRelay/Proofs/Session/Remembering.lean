import TagRelay.Proofs.Link.Sequence
import TagRelay.Proofs.Session.Rejecting

/-!
# What a session in memory remembers

Calls reach a session in memory and its store is prepared, in any order and from any state on.
Every call is counted under its own kind and nothing else is; failures that were queued for a kind
of calls are returned by the next calls of this kind, in order and one each; and what is read of a
path is what was stored under it last, by preparing it or by a write that succeeded, wherever in
between the session was closed, dropped and connected again.
-/

namespace TagRelay

namespace Session

/-- The kinds of calls. -/
inductive Kind where
  | connect
  | close
  | read
  | write
  | info
  deriving DecidableEq

def Call.kind : Call → Kind
  | .connect _ => .connect
  | .close => .close
  | .read _ => .read
  | .write _ _ => .write
  | .info => .info

end Session

open Session (Call Exchange Kind)

def CallCounts.of (counts : CallCounts) : Kind → Nat
  | .connect => counts.connect
  | .close => counts.close
  | .read => counts.read
  | .write => counts.write
  | .info => counts.info

theorem CallCounts.of_after (counts : CallCounts) (c : Call) (kind : Kind) :
    (counts.after c).of kind = counts.of kind + if c.kind = kind then 1 else 0 := by
  cases c <;> cases kind <;> rfl

namespace Memory

/-! ## Runs -/

/-- What happens to a session in memory. -/
inductive Event where
  | call (c : Call)
  | prepare (preparation : Preparation)
  /-- The server drops the connection. -/
  | drop

/-- What has happened: of a call also what came of it. -/
inductive Entry where
  | call (e : Exchange)
  | prepare (preparation : Preparation)
  | drop

def after (m : Memory) : Event → Memory
  | .call c => (m.call c).2
  | .prepare preparation => m.prepare preparation
  | .drop => m.drop

def entry (m : Memory) : Event → Entry
  | .call c => .call ⟨c, (m.call c).1⟩
  | .prepare preparation => .prepare preparation
  | .drop => .drop

/-- The session after some events. -/
def afterAll (m : Memory) : List Event → Memory
  | [] => m
  | event :: rest => (m.after event).afterAll rest

def log (m : Memory) : List Event → List Entry
  | [] => []
  | event :: rest => m.entry event :: (m.after event).log rest

/-! ## Counts -/

def Entry.isOf (kind : Kind) : Entry → Bool
  | .call e => e.1.kind = kind
  | .prepare _ | .drop => false

theorem of_calls_after (m : Memory) (event : Event) (kind : Kind) :
    (m.after event).calls.of kind =
      m.calls.of kind + if (m.entry event).isOf kind then 1 else 0 := by
  cases event with
  | call c => simp [after, entry, Entry.isOf, call_calls, CallCounts.of_after]
  | prepare preparation => simp [after, entry, Entry.isOf]
  | drop => rfl

theorem of_calls_afterAll (m : Memory) (events : List Event) (kind : Kind) :
    (m.afterAll events).calls.of kind =
      m.calls.of kind + (m.log events).countP (Entry.isOf kind) := by
  induction events generalizing m with
  | nil => rfl
  | cons event rest ih =>
      rw [afterAll, ih, of_calls_after, log, List.countP_cons]
      omega

/-! ## Failures that were queued -/

/-- The failures that wait for calls of a kind. -/
def waiting (m : Memory) : Kind → List SessionError
  | .read => m.readFailures
  | .write => m.writeFailures
  | .connect | .close | .info => []

/-- The failures that were queued for calls of a kind. -/
def Entry.queued : Kind → Entry → List SessionError
  | .read, .prepare (.failNextRead cause) => [cause]
  | .write, .prepare (.failNextWrite cause) => [cause]
  | _, _ => []

/-- Why a call has failed, if it has. -/
def Entry.failure? : Entry → Option SessionError
  | .call ⟨_, .error cause⟩ => some cause
  | _ => none

/-- What became of the calls of a kind that were made while failures were waiting for them, if
`count` of them wait at first. -/
def due (kind : Kind) : (count : Nat) → List Entry → List (Option SessionError)
  | _, [] => []
  | 0, entry :: rest => due kind (entry.queued kind).length rest
  | count + 1, entry :: rest =>
      if entry.isOf kind then entry.failure? :: due kind count rest
      else due kind (count + 1 + (entry.queued kind).length) rest

theorem waiting_call_of_ne (m : Memory) {c : Call} {kind : Kind} (hkind : c.kind ≠ kind) :
    (m.call c).2.waiting kind = m.waiting kind := by
  cases c with
  | connect target =>
      rcases connect_cases m target with ⟨cause, rest, heq⟩ | heq <;>
        simp only [call, heq] <;> cases kind <;> rfl
  | close => cases kind <;> rfl
  | read paths =>
      rw [call, read_snd]
      cases kind with
      | read => exact absurd rfl hkind
      | connect | close | write | info => rfl
  | write path value =>
      rw [call, write_eq]
      cases kind with
      | write => exact absurd rfl hkind
      | connect | close | read | info => rfl
  | info =>
      obtain ⟨result, heq⟩ := exists_info m
      rw [call, heq]
      cases kind <;> rfl

/-- A call takes the first of the failures that wait for its kind. -/
theorem waiting_call (m : Memory) (c : Call) :
    (m.call c).2.waiting c.kind = (m.waiting c.kind).tail := by
  cases c with
  | connect | close | info => rfl
  | read paths =>
      rw [call, read_snd]
      rfl
  | write path value =>
      rw [call, write_eq]
      exact List.drop_one

/-- Nothing else counts where a failure is waiting. -/
theorem failure?_call {m : Memory} {c : Call} {cause : SessionError} {rest : List SessionError}
    (hwaiting : m.waiting c.kind = cause :: rest) :
    (Entry.call ⟨c, (m.call c).1⟩).failure? = some cause := by
  cases c with
  | connect | close | info => cases hwaiting
  | read paths =>
      have hfailures : m.readFailures = cause :: rest := hwaiting
      simp [call, read_result, hfailures, Entry.failure?]
  | write path value =>
      have hfailures : m.writeFailures = cause :: rest := hwaiting
      simp [call, write_eq, writeResult, hfailures, Entry.failure?]

theorem waiting_prepare (m : Memory) (preparation : Preparation) (kind : Kind) :
    (m.prepare preparation).waiting kind =
      m.waiting kind ++ (Entry.prepare preparation).queued kind := by
  cases preparation <;> cases kind <;> simp [prepare, waiting, Entry.queued, failNextRead,
    failNextWrite, store, failConnects, failInfo, reverseReplies, rejectReads, omitPath, delayReads]

/-- A call takes the first failure that waits for it, and what is queued waits behind the others. -/
theorem waiting_after (m : Memory) (event : Event) (kind : Kind) :
    (m.after event).waiting kind =
      (if (m.entry event).isOf kind then (m.waiting kind).tail else m.waiting kind) ++
        (m.entry event).queued kind := by
  cases event with
  | call c =>
      by_cases hkind : c.kind = kind
      · subst hkind
        simpa [after, entry, Entry.isOf, Entry.queued] using waiting_call m c
      · simpa [after, entry, Entry.isOf, Entry.queued, hkind] using waiting_call_of_ne m hkind
  | prepare preparation =>
      simpa [after, entry, Entry.isOf] using waiting_prepare m preparation kind
  | drop => simp [after, entry, Entry.isOf, Entry.queued, drop, waiting]

theorem failure?_entry {m : Memory} {event : Event} {kind : Kind} {cause : SessionError}
    {rest : List SessionError} (hkind : (m.entry event).isOf kind = true)
    (hwaiting : m.waiting kind = cause :: rest) : (m.entry event).failure? = some cause := by
  cases event with
  | call c =>
      obtain rfl : c.kind = kind := of_decide_eq_true hkind
      exact failure?_call hwaiting
  | prepare | drop => cases hkind

theorem queued_of_isOf {entry : Entry} {kind : Kind} (hkind : entry.isOf kind = true) :
    entry.queued kind = [] := by
  cases entry with
  | call e => cases kind <;> rfl
  | prepare | drop => cases hkind

/-- What the calls got for which a failure was waiting, and then what waits still, is all that was
queued, in order. -/
theorem due_append_waiting (m : Memory) (events : List Event) (kind : Kind) :
    due kind (m.waiting kind).length (m.log events) ++
        ((m.afterAll events).waiting kind).map some =
      (m.waiting kind ++ (m.log events).flatMap (Entry.queued kind)).map some := by
  induction events generalizing m with
  | nil => simp [due, log, afterAll]
  | cons event rest ih =>
      specialize ih (m.after event)
      rw [waiting_after] at ih
      rw [log, afterAll, List.flatMap_cons]
      cases hwaiting : m.waiting kind with
      | nil => simpa [due, hwaiting] using ih
      | cons cause later =>
          rw [List.length_cons, due]
          split
          · rename_i hkind
            rw [failure?_entry hkind hwaiting, queued_of_isOf hkind]
            simpa [hkind, hwaiting, queued_of_isOf hkind] using ih
          · rename_i hkind
            rw [if_neg hkind, hwaiting, List.length_append, List.length_cons] at ih
            rw [ih, List.append_assoc]

/-! ## What was set last -/

/-- The last of what some entries tell. -/
def latest {α : Type} (told : Entry → Option α) (entries : List Entry) : Option α :=
  (entries.filterMap told).getLast?

theorem latest_cons {α : Type} (told : Entry → Option α) (first : Entry) (rest : List Entry) :
    latest told (first :: rest) = (latest told rest).or (told first) := by
  cases hfirst : told first with
  | none => simp [latest, hfirst]
  | some a => simp [latest, hfirst, List.getLast?_cons]

/-- What every event either sets or keeps was set last by the last event that sets it. -/
theorem afterAll_eq_latest {α : Type} (field : Memory → Option α) {told : Entry → Option α}
    (hstep : ∀ m event, field (after m event) = (told (m.entry event)).or (field m))
    (m : Memory) (events : List Event) :
    field (m.afterAll events) = (latest told (m.log events)).or (field m) := by
  induction events generalizing m with
  | nil => rfl
  | cons event rest ih => rw [afterAll, ih, hstep, log, latest_cons, Option.or_assoc]

/-- What is stored under a path by an event. -/
def Entry.stored (path : String) : Entry → Option StoredTag
  | .prepare (.store other tag) => if other = path then some tag else none
  | .call ⟨.write other value, .ok _⟩ => if other = path then some ⟨value, .good, none⟩ else none
  | _ => none

theorem find?_enter (name other : String) (tag : StoredTag) (tags : Roster StoredTag) :
    (tags.enter name tag).find? other =
      (if name = other then some tag else none).or (tags.find? other) := by
  by_cases hname : name = other
  · simp [hname]
  · rw [Roster.find?_enter_of_ne (Ne.symm hname), if_neg hname, Option.none_or]

theorem find?_after (m : Memory) (event : Event) (path : String) :
    (m.after event).tags.find? path =
      ((m.entry event).stored path).or (m.tags.find? path) := by
  cases event with
  | call c =>
      rw [after, entry]
      cases c with
      | write other value =>
          rw [call, write_eq]
          cases hresult : m.writeResult 0 with
          | error cause => simp [Entry.stored, Except.isOk, Except.toBool]
          | ok done => simp [Entry.stored, Except.isOk, Except.toBool, find?_enter]
      | connect target =>
          rcases connect_cases m target with ⟨cause, later, heq⟩ | heq <;>
            simp [call, heq, Entry.stored]
      | close => rfl
      | read paths =>
          rw [call, read_snd]
          rfl
      | info =>
          obtain ⟨result, heq⟩ := exists_info m
          rw [call, heq]
          rfl
  | prepare preparation =>
      cases preparation with
      | store other tag => exact find?_enter other path tag m.tags
      | failConnects | failNextRead | failNextWrite | failInfo | reverseReplies | rejectReads
        | omitPath | delayReads => rfl
  | drop => rfl

/-- No call changes the form of replies. -/
theorem call_form (m : Memory) (c : Call) :
    (m.call c).2.reversed = m.reversed ∧ (m.call c).2.omittedPaths = m.omittedPaths := by
  cases c with
  | connect target =>
      rcases connect_cases m target with ⟨cause, rest, heq⟩ | heq <;> simp [call, heq]
  | close => exact ⟨rfl, rfl⟩
  | read paths => simp [call, read_snd]
  | write path value => simp [call, write_eq]
  | info =>
      obtain ⟨result, heq⟩ := exists_info m
      simp [call, heq]

/-- What is stored under a path after some entries. -/
def storedAfter (start : Memory) (entries : List Entry) (path : String) : Option StoredTag :=
  (latest (Entry.stored path) entries).or (start.tags.find? path)

theorem find?_afterAll (m : Memory) (events : List Event) (path : String) :
    (m.afterAll events).tags.find? path = m.storedAfter (m.log events) path := by
  apply afterAll_eq_latest fun m => m.tags.find? path
  intro m event
  exact find?_after m event path

/-- How replies are turned by an event. -/
def Entry.turned : Entry → Option Bool
  | .prepare (.reverseReplies on) => some on
  | _ => none

theorem reversed_after (m : Memory) (event : Event) :
    some (m.after event).reversed = (m.entry event).turned.or (some m.reversed) := by
  cases event with
  | call c => exact congrArg some (call_form m c).1
  | prepare preparation => cases preparation <;> rfl
  | drop => rfl

theorem reversed_afterAll (m : Memory) (events : List Event) :
    (m.afterAll events).reversed = (latest Entry.turned (m.log events)).getD m.reversed := by
  have hlatest := afterAll_eq_latest (fun m => some m.reversed) reversed_after m events
  rw [Option.or_some] at hlatest
  exact Option.some.inj hlatest

/-- What is left out of replies from an event on. -/
def Entry.omitted : Entry → List String
  | .prepare (.omitPath path) => [path]
  | _ => []

theorem mem_omittedPaths_after (m : Memory) (event : Event) (path : String) :
    path ∈ (m.after event).omittedPaths ↔
      path ∈ m.omittedPaths ∨ path ∈ (m.entry event).omitted := by
  cases event with
  | call c => simp [after, entry, Entry.omitted, call_form]
  | prepare preparation =>
      cases preparation <;> simp [after, entry, Entry.omitted, prepare, store, failConnects,
        failNextRead, failNextWrite, failInfo, reverseReplies, rejectReads, omitPath, delayReads,
        or_comm]
  | drop => simp [after, entry, Entry.omitted, drop]

theorem mem_omittedPaths_afterAll (m : Memory) (events : List Event) (path : String) :
    path ∈ (m.afterAll events).omittedPaths ↔
      path ∈ m.omittedPaths ++ (m.log events).flatMap Entry.omitted := by
  induction events generalizing m with
  | nil => simp [afterAll, log]
  | cons event rest ih =>
      rw [afterAll, ih, log, List.flatMap_cons, List.mem_append, mem_omittedPaths_after,
        List.mem_append, List.mem_append, or_assoc]

/-! ## Calls that fail -/

theorem call_of_error {m : Memory} {c : Call} {cause : SessionError}
    (herror : (m.call c).1 = .error cause) :
    (m.call c).2.tags = m.tags ∧ (m.call c).2.opened = m.opened := by
  cases c with
  | connect target =>
      rcases connect_cases m target with ⟨cause', rest, heq⟩ | heq
      · simp [call, heq]
      · simp [call, heq] at herror
  | close => cases herror
  | read paths => simp [call, read_snd]
  | write path value =>
      have hresult : m.writeResult 0 = .error cause := by
        simpa [call, write_eq] using herror
      simp [call, write_eq, hresult, Except.isOk, Except.toBool]
  | info =>
      obtain ⟨result, heq⟩ := exists_info m
      simp [call, heq]

/-! ## What a session shows -/

/-- What a read tells of a path. -/
def shown (path : String) : Option StoredTag → Reading
  | some tag => ⟨path, tag.value, tag.quality, tag.timestamp⟩
  | none => ⟨path, .null, .bad, none⟩

theorem reading_eq_shown (m : Memory) (path : String) :
    m.reading path = shown path (m.tags.find? path) := by
  rw [reading]
  split <;> rename_i hfind <;> rw [hfind] <;> rfl

/-- A session answers when no failure waits for the read, it is open and rejects none of the
paths. -/
theorem read_ok_iff (m : Memory) (paths : List String) (readings : List Reading) :
    (m.read paths).1 = .ok readings ↔ m.Answers paths ∧ readings = m.reply paths := by
  constructor
  · intro hread
    have hanswers : m.Answers paths := by
      rw [read_result] at hread
      split at hread
      · cases hread
      · rename_i hfailures
        split at hread
        · rename_i hopen
          split at hread
          · cases hread
          · rename_i hrejected
            exact ⟨hopen, hfailures, find?_rejected_eq_none.mp hrejected⟩
        · cases hread
    rw [hanswers.read_ok] at hread
    exact ⟨hanswers, (Except.ok.inj hread).symm⟩
  · rintro ⟨hanswers, rfl⟩
    exact hanswers.read_ok

/-! ## Runs as a whole -/

/-- What a read that succeeds returns after some entries. -/
def shownAfter (start : Memory) (entries : List Entry) (paths : List String) : List Reading :=
  let omitted := start.omittedPaths ++ entries.flatMap Entry.omitted
  let kept := paths.filter fun path => path ∉ omitted
  let readings := kept.map fun path => shown path (start.storedAfter entries path)
  if (latest Entry.turned entries).getD start.reversed then readings.reverse else readings

theorem reply_afterAll (m : Memory) (events : List Event) (paths : List String) :
    (m.afterAll events).reply paths = m.shownAfter (m.log events) paths := by
  have homitted : (fun path => !(m.afterAll events).omittedPaths.contains path) =
      fun path => decide (path ∉ m.omittedPaths ++ (m.log events).flatMap Entry.omitted) := by
    funext path
    have hmem := mem_omittedPaths_afterAll m events path
    rw [decide_not, ← decide_eq_decide.mpr hmem, List.contains_eq_mem]
  have hreading : (m.afterAll events).reading =
      fun path => shown path (m.storedAfter (m.log events) path) := by
    funext path
    rw [reading_eq_shown, find?_afterAll]
  rw [reply, homitted, hreading, reversed_afterAll]
  rfl

/-- What a session remembers of the entries that led to it. -/
structure Remembers (start : Memory) (entries : List Entry) (m : Memory) : Prop where
  /-- Every call counts once, under its own kind. -/
  counts : ∀ kind, m.calls.of kind = start.calls.of kind + entries.countP (Entry.isOf kind)
  /-- Every failure that was queued was returned once, in its turn, or waits still. -/
  failures : ∀ kind,
    due kind (start.waiting kind).length entries ++ (m.waiting kind).map some =
      (start.waiting kind ++ entries.flatMap (Entry.queued kind)).map some
  /-- A call that fails leaves what is stored, and the connection. -/
  unchanged : ∀ c cause, (m.call c).1 = .error cause →
    (m.call c).2.tags = m.tags ∧ (m.call c).2.opened = m.opened
  /-- What is stored under a path was stored there last. -/
  stored : ∀ path, m.tags.find? path = start.storedAfter entries path
  /-- A read is answered with one reading for each path that is not left out. -/
  answers : ∀ paths readings, (m.read paths).1 = .ok readings ↔
    m.Answers paths ∧ readings = start.shownAfter entries paths

/-- Wherever a run has come to, the session remembers all of it. -/
theorem remembered_of_run (start : Memory) (events : List Event) :
    Remembers start (start.log events) (start.afterAll events) where
  counts := of_calls_afterAll start events
  failures := due_append_waiting start events
  unchanged _ _ herror := call_of_error herror
  stored path := find?_afterAll start events path
  answers paths readings := by rw [read_ok_iff, reply_afterAll]

end Memory

end TagRelay
