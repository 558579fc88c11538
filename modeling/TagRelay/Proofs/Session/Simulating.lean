import Mathlib.Data.List.Forall2
import TagRelay.Proofs.Roster
import TagRelay.Proofs.Session.History
import TagRelay.Proofs.Session.Openness

/-!
# Using a simulated session

The random numbers and the time come from outside and may be anything at every call.  Whether a
call succeeds, and which values a read must show, are told by the history alone: by the last
success in connecting and the writes since the last time the session was closed.  A session that
was closed answers as a new one.
-/

namespace TagRelay.Simulated

open Session (Call Exchange Since not_since_nil since_append_one)

/-! ## Runs -/

/-- What comes from outside while a call is made. -/
structure Surroundings where
  random : Nat
  following : Nat → Nat
  clock : Nat

/-- A call and its surroundings. -/
structure Moment where
  call : Call
  outside : Surroundings

def within (s : Simulated) (outside : Surroundings) : Simulated :=
  { s with random := outside.random, following := outside.following, clock := outside.clock }

def made (s : Simulated) (moment : Moment) : moment.call.Result × Simulated :=
  (s.within moment.outside).call moment.call

def exchange (s : Simulated) (moment : Moment) : Exchange := ⟨moment.call, (s.made moment).1⟩

/-- The session after some calls. -/
def afterAll (s : Simulated) : List Moment → Simulated
  | [] => s
  | moment :: rest => (s.made moment).2.afterAll rest

def history (s : Simulated) : List Moment → List Exchange
  | [] => []
  | moment :: rest => s.exchange moment :: (s.made moment).2.history rest

theorem afterAll_append (s : Simulated) (earlier later : List Moment) :
    s.afterAll (earlier ++ later) = (s.afterAll earlier).afterAll later := by
  induction earlier generalizing s with
  | nil => rfl
  | cons moment rest ih => exact ih (s.made moment).2

theorem history_append (s : Simulated) (earlier later : List Moment) :
    s.history (earlier ++ later) = s.history earlier ++ (s.afterAll earlier).history later := by
  induction earlier generalizing s with
  | nil => rfl
  | cons moment rest ih => exact congrArg (s.exchange moment :: ·) (ih (s.made moment).2)

/-! ## What a history tells -/

/-- The last success in connecting has not been followed by closing the session. -/
def Connected (history : List Exchange) : Prop :=
  ∃ target, Since (fun later => later.isClose = false) ⟨.connect target, .ok ()⟩ history

/-- The path was written since the last time the session was closed. -/
def Wrote (path : String) (history : List Exchange) : Prop :=
  ∃ value, Since (fun later => later.isClose = false) ⟨.write path value, .ok ()⟩ history

/-- The value is the one that was written to the path last, since the session was closed last. -/
def LastWrote (path : String) (value : TagValue) (history : List Exchange) : Prop :=
  Since (fun later => later.isClose = false ∧ ∀ other, later ≠ ⟨.write path other, .ok ()⟩)
    ⟨.write path value, .ok ()⟩ history

theorem connected_append_one {history : List Exchange} {last : Exchange} :
    Connected (history ++ [last]) ↔
      last.opens = true ∨ Connected history ∧ last.isClose = false := by
  simp only [Connected, since_append_one, exists_or, exists_and_right, Session.Exchange.opens_iff]

theorem wrote_append_one {path : String} {history : List Exchange} {last : Exchange} :
    Wrote path (history ++ [last]) ↔
      (∃ value, last = ⟨.write path value, .ok ()⟩) ∨ Wrote path history ∧ last.isClose = false := by
  simp only [Wrote, since_append_one, exists_or, exists_and_right]

theorem exists_lastWrote_iff {path : String} {history : List Exchange} :
    (∃ value, LastWrote path value history) ↔ Wrote path history := by
  induction history using List.reverseRecOn with
  | nil => simp [LastWrote, Wrote, not_since_nil]
  | append_singleton history last ih =>
      simp only [LastWrote] at ih
      simp only [LastWrote, since_append_one, wrote_append_one, exists_or, exists_and_right, ih]
      by_cases hlast : ∃ value, last = ⟨.write path value, .ok ()⟩
      · simp [hlast]
      · have hnone : ∀ other, last ≠ ⟨.write path other, .ok ()⟩ :=
          fun other heq => hlast ⟨other, heq⟩
        simp [hnone]

/-! ## What a call does -/

/-- When a call succeeds: only what is not open can be connected, and everything else but closing
needs an open session. -/
def Possible (isOpen : Prop) : Call → Prop
  | .connect _ => ¬ isOpen
  | .close => True
  | .read _ | .write _ _ | .info => isOpen

theorem exists_ok_iff (s : Simulated) (c : Call) :
    (∃ answer, (s.call c).1 = .ok answer) ↔ Possible (s.opened.isSome = true) c := by
  cases c with
  | close => simp [call, close, Possible]
  | connect | read | write | info =>
      cases hopened : s.opened <;> simp [call, connect, read, write, info, Possible, hopened]

theorem call_of_error {s : Simulated} {c : Call} {cause : SessionError}
    (herror : (s.call c).1 = .error cause) : (s.call c).2 = s := by
  cases c with
  | close => simp [call, close] at herror
  | connect | read | write | info =>
      revert herror
      cases hopened : s.opened <;> simp [call, connect, read, write, info, hopened]

theorem opened_call_iff (s : Simulated) (c : Call) :
    (s.call c).2.opened.isSome = true ↔
      Session.Exchange.opens ⟨c, (s.call c).1⟩ = true ∨
        s.opened.isSome = true ∧ Session.Exchange.isClose ⟨c, (s.call c).1⟩ = false := by
  cases hopened : s.opened <;> cases c <;>
    simp [call, connect, close, read, write, info, hopened, readings_opened,
      Session.Exchange.opens, Session.Exchange.isClose]

theorem readings_written (s : Simulated) (paths : List String) :
    (s.readings paths).2.written = s.written := by
  obtain ⟨random, heq⟩ := exists_readings s paths
  rw [heq]

/-- A written value is found until another one is written or the session is closed. -/
theorem find?_written_call_iff (s : Simulated) (c : Call) (path : String) (value : TagValue) :
    (s.call c).2.written.find? path = some value ↔
      (⟨c, (s.call c).1⟩ : Exchange) = ⟨.write path value, .ok ()⟩ ∨
        s.written.find? path = some value ∧
          Session.Exchange.isClose ⟨c, (s.call c).1⟩ = false ∧
          ∀ other, (⟨c, (s.call c).1⟩ : Exchange) ≠ ⟨.write path other, .ok ()⟩ := by
  cases c with
  | close => simp [call, close, Roster.find?, Session.Exchange.isClose]
  | connect | read | info =>
      cases hopened : s.opened <;>
        simp [call, connect, read, info, hopened, readings_written, Session.Exchange.isClose]
  | write written next =>
      cases hopened : s.opened with
      | none => simp [call, write, hopened, Session.Exchange.isClose]
      | some since =>
          have hcall : s.call (.write written next) =
              (.ok (), { s with written := s.written.enter written next }) := by
            simp [call, write, hopened]
          rw [hcall]
          by_cases hpath : written = path
          · subst hpath
            simp [Session.Exchange.isClose]
          · simp [Session.Exchange.isClose, hpath, Roster.find?_enter_of_ne (Ne.symm hpath)]

/-! ## What a read shows -/

/-- What a session with these written values shows of a path. -/
inductive Shows (written : Roster TagValue) (path : String) : Reading → Prop
  | written {value : TagValue} (hfind : written.find? path = some value)
      (timestamp : Option SourceTimestamp) : Shows written path ⟨path, value, .good, timestamp⟩
  | generated {generator : Generator} (source : Simulated) (hfind : written.find? path = none)
      (hgenerator : Generator.catalogue.lookup path = some generator)
      (timestamp : Option SourceTimestamp) :
      Shows written path ⟨path, (source.generate generator).1, .good, timestamp⟩
  | unknown (hfind : written.find? path = none)
      (hunknown : Generator.catalogue.lookup path = none) (timestamp : Option SourceTimestamp) :
      Shows written path ⟨path, .null, .bad, timestamp⟩

theorem shows_valueOf (s : Simulated) (path : String) (timestamp : Option SourceTimestamp) :
    Shows s.written path
      ⟨path, (s.valueOf path).1.1, (s.valueOf path).1.2, timestamp⟩ := by
  rw [valueOf]
  cases hfind : s.written.find? path with
  | some value => exact .written hfind timestamp
  | none =>
      cases hgenerator : Generator.catalogue.lookup path with
      | some generator => exact .generated s hfind hgenerator timestamp
      | none => exact .unknown hfind hgenerator timestamp

/-- A read shows the paths one by one, and what it draws for one of them does not change what is
written to the others. -/
theorem shows_readings (s : Simulated) (paths : List String) :
    List.Forall₂ (Shows s.written) paths (s.readings paths).1 := by
  induction paths generalizing s with
  | nil => exact .nil
  | cons path rest ih =>
      obtain ⟨random, hafter⟩ := exists_valueOf s path
      have hwritten : (s.valueOf path).2.written = s.written := by rw [hafter]
      have hrest := ih (s.valueOf path).2
      rw [hwritten] at hrest
      exact .cons (shows_valueOf s path _) hrest

theorem read_eq_ok_iff {s : Simulated} {paths : List String} {readings : List Reading} :
    (s.read paths).1 = .ok readings ↔
      s.opened.isSome = true ∧ (s.readings paths).1 = readings := by
  cases hopened : s.opened <;> simp [read, hopened]

/-- A reading agrees with what a history tells of its path. -/
structure Tells (history : List Exchange) (path : String) (reading : Reading) : Prop where
  at_path : reading.path = path
  good_iff : reading.quality = .good ↔ Wrote path history ∨ path ∈ tagPaths
  unknown : ¬ (Wrote path history ∨ path ∈ tagPaths) →
    reading.quality = .bad ∧ reading.value = .null
  written : ∀ value, LastWrote path value history → reading.value = value
  generated : ¬ Wrote path history → ∀ generator,
    Generator.catalogue.lookup path = some generator →
      ∃ source : Simulated, reading.value = (source.generate generator).1

theorem mem_tagPaths_iff {path : String} :
    path ∈ tagPaths ↔ Generator.catalogue.lookup path ≠ none := by
  simp [tagPaths, List.lookup_eq_none_iff]

/-! ## Every run -/

/-- What a history tells and what its session holds. -/
structure Sound (history : List Exchange) (s : Simulated) : Prop where
  opened : s.opened.isSome = true ↔ Connected history
  written : ∀ path value, s.written.find? path = some value ↔ LastWrote path value history

theorem sound_ofSeed (seed : Nat) : Sound [] (ofSeed seed) := by
  constructor
  · simp [ofSeed, Connected, not_since_nil]
  · simp [ofSeed, LastWrote, not_since_nil, Roster.find?]

variable {s : Simulated} {history : List Exchange}

theorem Sound.made (hsound : Sound history s) (moment : Moment) :
    Sound (history ++ [s.exchange moment]) (s.made moment).2 := by
  constructor
  · rw [connected_append_one, ← hsound.opened]
    exact opened_call_iff (s.within moment.outside) moment.call
  · intro path value
    rw [LastWrote, since_append_one]
    change _ ↔ _ ∨ LastWrote path value history ∧ _
    rw [← hsound.written]
    exact find?_written_call_iff (s.within moment.outside) moment.call path value

theorem Sound.wrote_iff (hsound : Sound history s) (path : String) :
    Wrote path history ↔ s.written.find? path ≠ none := by
  simp only [← exists_lastWrote_iff, ← hsound.written, Option.ne_none_iff_exists']

theorem Sound.tells (hsound : Sound history s) {path : String} {reading : Reading}
    (hshows : Shows s.written path reading) : Tells history path reading := by
  cases hshows with
  | written hfind timestamp =>
      have hwrote : Wrote path history := (hsound.wrote_iff path).mpr (by simp [hfind])
      refine ⟨rfl, by simp [hwrote], by simp [hwrote], ?_, by simp [hwrote]⟩
      intro value hlast
      rw [← hsound.written, hfind] at hlast
      exact Option.some.inj hlast
  | generated source hfind hgenerator timestamp =>
      have hknown : path ∈ tagPaths := mem_tagPaths_iff.mpr (by simp [hgenerator])
      refine ⟨rfl, by simp [hknown], by simp [hknown], ?_, ?_⟩
      · intro value hlast
        simp [← hsound.written, hfind] at hlast
      · intro _ other hother
        obtain rfl := Option.some.inj (hgenerator.symm.trans hother)
        exact ⟨source, rfl⟩
  | unknown hfind hunknown timestamp =>
      have hwrote : ¬ Wrote path history := by simp [hsound.wrote_iff, hfind]
      have hknown : path ∉ tagPaths := by simp [mem_tagPaths_iff, hunknown]
      refine ⟨rfl, ?_, fun _ => ⟨rfl, rfl⟩, ?_, ?_⟩
      · simp [hwrote, hknown, Quality.good, Quality.bad]
      · intro value hlast
        simp [← hsound.written, hfind] at hlast
      · intro _ other hother
        simp [hunknown] at hother

theorem sound_of_run (seed : Nat) (moments : List Moment) :
    Sound ((ofSeed seed).history moments) ((ofSeed seed).afterAll moments) := by
  induction moments using List.reverseRecOn with
  | nil => exact sound_ofSeed seed
  | append_singleton earlier moment ih =>
      rw [history_append, afterAll_append]
      exact ih.made moment

/-- What a session does next, by what its history tells. -/
structure Conduct (history : List Exchange) (s : Simulated) : Prop where
  succeeds_iff : ∀ moment,
    (∃ answer, (s.made moment).1 = .ok answer) ↔ Possible (Connected history) moment.call
  unchanged : ∀ moment cause, (s.made moment).1 = .error cause →
    (s.made moment).2 = s.within moment.outside
  reads : ∀ paths outside readings, (s.made ⟨.read paths, outside⟩).1 = .ok readings →
    List.Forall₂ (Tells history) paths readings

theorem Sound.conduct (hsound : Sound history s) : Conduct history s := by
  constructor
  case succeeds_iff =>
    intro moment
    rw [← propext hsound.opened]
    exact exists_ok_iff (s.within moment.outside) moment.call
  case unchanged => exact fun _ _ => call_of_error
  case reads =>
    intro paths outside readings hread
    obtain ⟨-, hreadings⟩ := read_eq_ok_iff.mp hread
    have hshows := shows_readings (s.within outside) paths
    rw [hreadings] at hshows
    exact hshows.imp fun _ _ => hsound.tells

/-! ## After a close -/

/-- Only what is open and what is written lasts from one call to the next. -/
theorem history_congr {other : Simulated} (hopened : s.opened = other.opened)
    (hwritten : s.written = other.written) (moments : List Moment) :
    s.history moments = other.history moments := by
  cases moments with
  | nil => rfl
  | cons moment rest =>
      have hsame : s.within moment.outside = other.within moment.outside := by
        rw [within, within, hopened, hwritten]
      simp only [Simulated.history, exchange, made, hsame]

theorem history_after_close (seed : Nat) (s : Simulated) (outside : Surroundings)
    (later : List Moment) :
    s.history (⟨.close, outside⟩ :: later) = ⟨.close, .ok ()⟩ :: (ofSeed seed).history later := by
  have hopened : (s.made ⟨.close, outside⟩).2.opened = (ofSeed seed).opened := by
    rw [ofSeed]
    rfl
  have hwritten : (s.made ⟨.close, outside⟩).2.written = (ofSeed seed).written := by
    rw [ofSeed]
    rfl
  rw [Simulated.history, history_congr hopened hwritten]
  rfl

/-- Whatever random numbers and times come from outside, and whatever was called before: a call
succeeds exactly if its session is in the right state, which is open where the last success in
connecting was not followed by closing it; a call that fails changes nothing; and a read shows each
path it asks for, in order, with the value that was written last since the session was closed,
else with one of its generator, else as bad.  After it was closed, a session answers to the same
calls, with the same random numbers and times from outside, what one answers that is new. -/
theorem conduct_of_run (seed : Nat) (moments : List Moment) :
    let start := ofSeed seed
    Conduct (start.history moments) (start.afterAll moments) ∧
    ∀ (outside : Surroundings) (later : List Moment),
      start.history (moments ++ ⟨.close, outside⟩ :: later) =
        start.history moments ++ ⟨.close, .ok ()⟩ :: start.history later := by
  intro start
  refine ⟨(sound_of_run seed moments).conduct, ?_⟩
  intro outside later
  rw [history_append, history_after_close seed]

/-- A session to which a set point was written. -/
def setPointWritten : List Moment :=
  [⟨.connect ⟨"Sim", "localhost"⟩, ⟨0, id, 0⟩⟩,
    ⟨.write "Plant.Setpoint" (.int 42), ⟨0, id, 5⟩⟩]

/-- The set point is read back, also beside another path that is drawn at random. -/
theorem conduct_of_run_of_setPoint :
    ∃ drawn kept,
      (((ofSeed 7).afterAll setPointWritten).made
        ⟨.read ["Random.Int4", "Plant.Setpoint"], ⟨3, id, 9⟩⟩).1 = .ok [drawn, kept] ∧
      drawn.quality = .good ∧ kept.value = .int 42 := by
  obtain ⟨hconduct, -⟩ := conduct_of_run 7 setPointWritten
  have hconnected : Connected ((ofSeed 7).history setPointWritten) :=
    ⟨⟨"Sim", "localhost"⟩, [], [⟨.write "Plant.Setpoint" (.int 42), .ok ()⟩], rfl, by
      simp [Session.Exchange.isClose]⟩
  have hwrote : LastWrote "Plant.Setpoint" (.int 42) ((ofSeed 7).history setPointWritten) :=
    ⟨[⟨.connect ⟨"Sim", "localhost"⟩, .ok ()⟩], [], rfl, by simp⟩
  obtain ⟨readings, hread⟩ := (hconduct.succeeds_iff
    ⟨.read ["Random.Int4", "Plant.Setpoint"], ⟨3, id, 9⟩⟩).mpr hconnected
  cases hconduct.reads _ _ _ hread with
  | @cons _ drawn _ _ hdrawn hrest =>
      cases hrest with
      | @cons _ kept _ _ hkept hnone =>
          cases hnone
          exact ⟨drawn, kept, hread, hdrawn.good_iff.mpr (Or.inr (by decide)), hkept.written _ hwrote⟩

end TagRelay.Simulated
