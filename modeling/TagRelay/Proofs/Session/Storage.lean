import TagRelay.Proofs.Roster
import TagRelay.Session.Memory

/-!
# What calls do to a session in memory

Every call is counted, whatever comes of it, and uses up a failure that was prepared for
it.  Beyond that a session is opened by a success in connecting and closed by closing it,
and what is stored changes only by a success in writing, at the path that is written.
-/

namespace TagRelay

/-- The counts after one more call. -/
def CallCounts.after (counts : CallCounts) : Session.Call → CallCounts
  | .connect _ => { counts with connect := counts.connect + 1 }
  | .close => { counts with close := counts.close + 1 }
  | .read _ => { counts with read := counts.read + 1 }
  | .write _ _ => { counts with write := counts.write + 1 }
  | .info => { counts with info := counts.info + 1 }

namespace Memory

/-! ## The outcomes of a call -/

theorem connect_cases (m : Memory) (target : Endpoint) :
    (∃ cause rest, m.connect target =
      (.error cause, { m with
        calls := m.calls.after (.connect target)
        failingConnects := rest })) ∨
    m.connect target =
      (.ok (), { m with calls := m.calls.after (.connect target), opened := some target }) := by
  rw [connect]
  split
  · exact Or.inl ⟨_, _, rfl⟩
  · split
    · exact Or.inl ⟨_, m.failingConnects, rfl⟩
    · exact Or.inr rfl

theorem exists_read (m : Memory) (paths : List String) :
    ∃ result rest, m.read paths =
      (result, { m with calls := m.calls.after (.read paths), readFailures := rest }) := by
  rw [read]
  split
  · exact ⟨_, _, rfl⟩
  · split
    · split <;> exact ⟨_, m.readFailures, rfl⟩
    · exact ⟨_, m.readFailures, rfl⟩

theorem write_cases (m : Memory) (path : String) (value : TagValue) :
    (∃ cause rest, m.write path value =
      (.error cause, { m with
        calls := m.calls.after (.write path value)
        writeFailures := rest })) ∨
    m.write path value =
      (.ok (), { m with
        calls := m.calls.after (.write path value)
        tags := m.tags.enter path ⟨value, .good, none⟩ }) := by
  rw [write]
  split
  · exact Or.inl ⟨_, _, rfl⟩
  · split
    · exact Or.inr rfl
    · exact Or.inl ⟨_, m.writeFailures, rfl⟩

theorem exists_info (m : Memory) :
    ∃ result, m.info = (result, { m with calls := m.calls.after .info }) := by
  rw [info]
  split <;> exact ⟨_, rfl⟩

/-! ## Writes that take their turn -/

/-- What the session answers to a write after some others have been made. -/
def writeResult (m : Memory) (turn : Nat) : Except SessionError Unit :=
  match m.writeFailures[turn]? with
  | some cause => .error cause
  | none => if m.isOpen then .ok () else .error .notConnected

/-- A write takes one turn, and stores its value if it succeeds. -/
theorem write_eq (m : Memory) (path : String) (value : TagValue) :
    m.write path value =
      (m.writeResult 0,
        { m with
          calls.write := m.calls.write + 1
          writeFailures := m.writeFailures.drop 1
          tags :=
            if (m.writeResult 0).isOk then m.tags.enter path ⟨value, .good, none⟩
            else m.tags }) := by
  cases hfailures : m.writeFailures with
  | cons cause rest => simp [write, writeResult, hfailures, Except.isOk, Except.toBool]
  | nil =>
      cases hopened : m.opened with
      | none => simp [write, writeResult, isOpen, hfailures, hopened, Except.isOk, Except.toBool]
      | some target =>
          simp [write, writeResult, isOpen, store, hfailures, hopened, Except.isOk, Except.toBool]

/-- The next turn is the first one after the next write. -/
theorem writeResult_write (m : Memory) (path : String) (value : TagValue) (turn : Nat) :
    (m.write path value).2.writeResult turn = m.writeResult (turn + 1) := by
  rw [write_eq, writeResult, List.getElem?_drop, Nat.add_comm]
  rfl

/-! ## What a call leaves -/

theorem call_calls (m : Memory) (c : Session.Call) :
    (m.call c).2.calls = m.calls.after c := by
  cases c with
  | connect target =>
      rcases connect_cases m target with ⟨cause, rest, heq⟩ | heq <;> simp [call, heq]
  | close => rfl
  | read paths =>
      obtain ⟨result, rest, heq⟩ := exists_read m paths
      simp [call, heq]
  | write path value =>
      rcases write_cases m path value with ⟨cause, rest, heq⟩ | heq <;> simp [call, heq]
  | info =>
      obtain ⟨result, heq⟩ := exists_info m
      simp [call, heq]

theorem call_connects (m : Memory) {c : Session.Call} (hconnect : ∀ target, c ≠ .connect target) :
    (m.call c).2.calls.connect = m.calls.connect := by
  rw [call_calls]
  cases c with
  | connect target => exact absurd rfl (hconnect target)
  | close | read | write | info => rfl

/-- Reading, writing and asking about the server neither open a session nor close it. -/
theorem call_opened (m : Memory) {c : Session.Call} (hconnect : ∀ target, c ≠ .connect target)
    (hclose : c ≠ .close) : (m.call c).2.opened = m.opened := by
  cases c with
  | connect target => exact absurd rfl (hconnect target)
  | close => exact absurd rfl hclose
  | read paths =>
      obtain ⟨result, rest, heq⟩ := exists_read m paths
      simp [call, heq]
  | write path value =>
      rcases write_cases m path value with ⟨cause, rest, heq⟩ | heq <;> simp [call, heq]
  | info =>
      obtain ⟨result, heq⟩ := exists_info m
      simp [call, heq]

/-- What is stored changes only by a write that succeeds, and only at its path. -/
theorem call_tags (m : Memory) (c : Session.Call) :
    (m.call c).2.tags = m.tags ∨
      ∃ path value, c = .write path value ∧ (m.write path value).1 = .ok () ∧
        (m.call c).2.tags = m.tags.enter path ⟨value, .good, none⟩ := by
  cases c with
  | connect target =>
      rcases connect_cases m target with ⟨cause, rest, heq⟩ | heq <;> simp [call, heq]
  | close => exact Or.inl rfl
  | read paths =>
      obtain ⟨result, rest, heq⟩ := exists_read m paths
      simp [call, heq]
  | write path value =>
      rcases write_cases m path value with ⟨cause, rest, heq⟩ | heq
      · simp [call, heq]
      · exact Or.inr ⟨path, value, rfl, by simp [heq], by simp [call, heq]⟩
  | info =>
      obtain ⟨result, heq⟩ := exists_info m
      simp [call, heq]

/-! ## What a read answers -/

theorem reading_path (m : Memory) (path : String) : (m.reading path).path = path := by
  rw [reading]
  split <;> rfl

/-- What a session answers, in the order of the request. -/
def answers (m : Memory) (paths : List String) : List Reading :=
  (paths.filter fun path => !m.omittedPaths.contains path).map m.reading

/-- What comes of a read. -/
theorem read_result (m : Memory) (paths : List String) :
    (m.read paths).1 =
      match m.readFailures with
      | cause :: _ => .error cause
      | [] =>
          if m.isOpen then
            match paths.find? fun path => m.rejectedPaths.contains path with
            | some path => .error (.rejected path "access denied")
            | none => .ok (m.reply paths)
          else .error .notConnected := by
  cases hfailures : m.readFailures with
  | cons cause rest => simp only [read, hfailures]
  | nil =>
      simp only [read, isOpen, hfailures, apply_ite Prod.fst]
      cases paths.find? fun path => m.rejectedPaths.contains path <;> rfl

theorem reply_reverseReplies (m : Memory) (on : Bool) (paths : List String) :
    (m.reverseReplies on).reply paths =
      if on then (m.answers paths).reverse else m.answers paths :=
  rfl

/-- Turning replies around does so with the readings of a reply and changes nothing else. -/
theorem read_reverseReplies (m : Memory) (on : Bool) (paths : List String) :
    ((m.reverseReplies on).read paths).1 =
      (m.read paths).1.map fun _ =>
        if on then (m.answers paths).reverse else m.answers paths := by
  rw [read_result, read_result, reply_reverseReplies]
  have hfailures : (m.reverseReplies on).readFailures = m.readFailures := rfl
  have hopen : (m.reverseReplies on).isOpen = m.isOpen := rfl
  have hrejected : (m.reverseReplies on).rejectedPaths = m.rejectedPaths := rfl
  rw [hfailures, hopen, hrejected]
  cases m.readFailures with
  | cons cause rest => rfl
  | nil =>
      cases m.isOpen with
      | false => rfl
      | true => cases paths.find? fun path => m.rejectedPaths.contains path <;> rfl

/-- A session answers a read of these paths. -/
structure Answers (m : Memory) (paths : List String) : Prop where
  isOpen : m.isOpen = true
  readFailures : m.readFailures = []
  rejectedPaths : ∀ path ∈ paths, path ∉ m.rejectedPaths

theorem Answers.read_ok {m : Memory} {paths : List String} (hanswers : m.Answers paths) :
    (m.read paths).1 = .ok (m.reply paths) := by
  have hrejected : paths.find? (fun path => m.rejectedPaths.contains path) = none := by
    rw [List.find?_eq_none]
    intro path hpath
    simpa using hanswers.rejectedPaths path hpath
  simp only [read_result, hanswers.readFailures, hanswers.isOpen, hrejected, if_true]

end Memory

end TagRelay
