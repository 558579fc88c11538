import TagRelay.Proofs.Link.Sequence

/-!
# A session that rejects more

Two sessions in memory are the same but that the second rejects reads of some more paths.
Every call but a read has the same result in both.  Of a read only those results differ that
ask for one of these paths: where the first session replies, the second refuses, which does
not mean that it is lost.
-/

namespace TagRelay.Memory

/-- Reads of these paths are rejected as well. -/
def rejectAll (m : Memory) (paths : List String) : Memory := paths.foldl rejectReads m

/-- The second session is the first one, and rejects `extra` as well. -/
def Rejecting (extra : List String) (m n : Memory) : Prop :=
  ∃ rejected, n = { m with rejectedPaths := rejected } ∧
    ∀ path, path ∈ rejected ↔ path ∈ m.rejectedPaths ∨ path ∈ extra

variable {extra paths : List String} {m n : Memory}

theorem rejecting_rejectAll (m : Memory) (extra : List String) :
    Rejecting extra m (m.rejectAll extra) := by
  induction extra generalizing m with
  | nil => exact ⟨m.rejectedPaths, rfl, by simp⟩
  | cons path rest ih =>
      obtain ⟨rejected, hsame, hpaths⟩ := ih (m.rejectReads path)
      refine ⟨rejected, hsame, ?_⟩
      intro other
      rw [hpaths, rejectReads, List.mem_cons, List.mem_cons, or_assoc, or_left_comm]

/-! ## Calls -/

/-- What is rejected is of no account to any call but a read. -/
theorem call_rejectedPaths (m : Memory) (rejected : List String) {c : Session.Call}
    (hread : ∀ paths, c ≠ .read paths) :
    { m with rejectedPaths := rejected }.call c =
        ((m.call c).1, { (m.call c).2 with rejectedPaths := rejected }) ∧
      (m.call c).2.rejectedPaths = m.rejectedPaths := by
  cases c with
  | read paths => exact absurd rfl (hread paths)
  | connect target =>
      cases hfailing : m.failingConnects <;> cases hopen : m.opened <;>
        simp [Memory.call, connect, isOpen, hfailing, hopen]
  | close => exact ⟨rfl, rfl⟩
  | write path value =>
      cases hfailures : m.writeFailures <;> cases hopen : m.opened <;>
        simp [Memory.call, write, store, isOpen, hfailures, hopen]
  | info =>
      cases hfailure : m.infoFailure <;> cases hopen : m.opened <;>
        simp [Memory.call, info, hfailure, hopen]

theorem read_snd (m : Memory) (paths : List String) :
    (m.read paths).2 =
      { m with calls := m.calls.after (.read paths), readFailures := m.readFailures.tail } := by
  rw [read]
  split
  · rename_i cause rest hfailures
    rw [show m.readFailures = cause :: rest from hfailures]
    rfl
  · rename_i hfailures
    have htail : m.readFailures.tail = m.readFailures := by
      rw [show m.readFailures = [] from hfailures]
      rfl
    rw [htail]
    split
    · split <;> rfl
    · rfl

theorem Rejecting.call (hrejecting : Rejecting extra m n) {c : Session.Call}
    (hread : ∀ paths, c ≠ .read paths) :
    (n.call c).1 = (m.call c).1 ∧ Rejecting extra (m.call c).2 (n.call c).2 := by
  obtain ⟨rejected, rfl, hpaths⟩ := hrejecting
  obtain ⟨hcall, hkept⟩ := call_rejectedPaths m rejected hread
  rw [hcall]
  exact ⟨rfl, rejected, rfl, by rwa [hkept]⟩

/-- What two sessions answer to the same read, of which the second rejects more. -/
inductive Compared (extra paths : List String) :
    Except SessionError (List Reading) → Except SessionError (List Reading) → Prop
  | failed (cause : SessionError) : Compared extra paths (.error cause) (.error cause)
  /-- Both reject the read, maybe for different paths. -/
  | rejected {cause cause' : SessionError} (hcause : cause.isSessionLost = false)
      (hcause' : cause'.isSessionLost = false) :
      Compared extra paths (.error cause) (.error cause')
  | answered (readings : List Reading) (hspared : ∀ path ∈ paths, path ∉ extra) :
      Compared extra paths (.ok readings) (.ok readings)
  /-- Only the second rejects it. -/
  | parted (readings : List Reading) {cause : SessionError} (hcause : cause.isSessionLost = false)
      (htouched : ∃ path ∈ paths, path ∈ extra) :
      Compared extra paths (.ok readings) (.error cause)

theorem find?_rejected_eq_none {rejected : List String} :
    (paths.find? fun path => rejected.contains path) = none ↔ ∀ path ∈ paths, path ∉ rejected := by
  simp [List.find?_eq_none]

theorem Rejecting.read (hrejecting : Rejecting extra m n) (paths : List String) :
    Compared extra paths (m.read paths).1 (n.read paths).1 ∧
      Rejecting extra (m.read paths).2 (n.read paths).2 := by
  obtain ⟨rejected, rfl, hpaths⟩ := hrejecting
  constructor
  · rw [read_result, read_result]
    cases hfailures : m.readFailures with
    | cons cause rest => exact .failed cause
    | nil =>
        cases hopen : m.opened with
        | none => simpa [isOpen, hopen] using Compared.failed SessionError.notConnected
        | some target =>
            simp only [isOpen, hopen]
            cases hfirst : paths.find? fun path => m.rejectedPaths.contains path with
            | some path =>
                -- What the first session rejects the second rejects as well.
                cases hsecond : paths.find? fun path => rejected.contains path with
                | some other => exact .rejected rfl rfl
                | none =>
                    have hmem := List.mem_of_find?_eq_some hfirst
                    have hrejected : path ∈ m.rejectedPaths := by
                      simpa using List.find?_some hfirst
                    exact absurd ((hpaths path).mpr (Or.inl hrejected))
                      (find?_rejected_eq_none.mp hsecond path hmem)
            | none =>
                cases hsecond : paths.find? fun path => rejected.contains path with
                | some path =>
                    have hmem := List.mem_of_find?_eq_some hsecond
                    have hrejected : path ∈ rejected := by simpa using List.find?_some hsecond
                    have hextra := ((hpaths path).mp hrejected).resolve_left
                      (find?_rejected_eq_none.mp hfirst path hmem)
                    exact .parted _ rfl ⟨path, hmem, hextra⟩
                | none =>
                    refine .answered _ ?_
                    intro path hmem hextra
                    exact find?_rejected_eq_none.mp hsecond path hmem
                      ((hpaths path).mpr (Or.inr hextra))
  · rw [read_snd, read_snd]
    exact ⟨rejected, rfl, hpaths⟩

/-! ## Preparations -/

theorem Rejecting.prepare (hrejecting : Rejecting extra m n) (preparation : Preparation) :
    Rejecting extra (m.prepare preparation) (n.prepare preparation) := by
  obtain ⟨rejected, rfl, hpaths⟩ := hrejecting
  cases preparation with
  | rejectReads path =>
      refine ⟨path :: rejected, rfl, ?_⟩
      intro other
      rw [List.mem_cons, hpaths, Memory.prepare, Memory.rejectReads, List.mem_cons, or_assoc]
  | store | failConnects | failNextRead | failNextWrite | failInfo | reverseReplies | omitPath
    | delayReads => exact ⟨rejected, rfl, hpaths⟩

theorem Rejecting.drop (hrejecting : Rejecting extra m n) : Rejecting extra m.drop n.drop := by
  obtain ⟨rejected, rfl, hpaths⟩ := hrejecting
  exact ⟨rejected, rfl, hpaths⟩

theorem Rejecting.delay (hrejecting : Rejecting extra m n) (c : Session.Call) :
    n.delay c = m.delay c := by
  obtain ⟨rejected, rfl, hpaths⟩ := hrejecting
  cases c <;> rfl

end TagRelay.Memory
