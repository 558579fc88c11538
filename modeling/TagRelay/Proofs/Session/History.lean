import TagRelay.Session.Basic

/-!
# Histories of calls

What a user of a session has called, with what came of it, tells whether the session is
up, as far as the user can know: it was connected with success, and no read since then
has shown that it is lost.  A user keeps order who connects a session only after closing
it, never before it was seen to be lost, asks about the server once after connecting,
and reads only what is up.

The two folds `isUp` and `isDown` follow a history call by call.  They are not each
other's opposite: a session is neither up nor down when the last attempt to connect has
failed and an earlier one was not seen to be lost.
-/

namespace TagRelay.Session

/-! ## What was last -/

/-- The entry is in a history, and every later one is of a certain kind. -/
def Since {α : Type} (kind : α → Prop) (entry : α) (history : List α) : Prop :=
  ∃ before after, history = before ++ entry :: after ∧ ∀ later ∈ after, kind later

theorem not_since_nil {α : Type} (kind : α → Prop) (entry : α) : ¬ Since kind entry [] := by
  rintro ⟨before, after, heq, -⟩
  simp at heq

theorem since_append_one {α : Type} {kind : α → Prop} {entry last : α} {history : List α} :
    Since kind entry (history ++ [last]) ↔ last = entry ∨ Since kind entry history ∧ kind last := by
  constructor
  · rintro ⟨before, after, heq, hafter⟩
    rcases List.eq_nil_or_concat after with rfl | ⟨earlier, final, rfl⟩
    · exact Or.inl (List.append_inj_right' heq rfl |> List.head_eq_of_cons_eq)
    · have hcut : history ++ [last] = (before ++ entry :: earlier) ++ [final] := by simpa using heq
      obtain ⟨rfl, hlast⟩ := List.append_inj' hcut rfl
      obtain rfl := List.head_eq_of_cons_eq hlast
      refine Or.inr ⟨⟨before, earlier, rfl, ?_⟩, hafter last (by simp)⟩
      exact fun later hlater => hafter later (by simp [hlater])
  · rintro (rfl | ⟨⟨before, after, rfl, hafter⟩, hlast⟩)
    · exact ⟨history, [], rfl, by simp⟩
    · refine ⟨before, after ++ [last], by simp, ?_⟩
      exact List.forall_mem_append.mpr ⟨hafter, by simpa using hlast⟩

/-! ## Calls -/

/-- A call with what came of it. -/
abbrev Exchange := (c : Call) × c.Result

namespace Exchange

def isConnect : Exchange → Bool
  | ⟨.connect _, _⟩ => true
  | _ => false

def isClose : Exchange → Bool
  | ⟨.close, _⟩ => true
  | _ => false

/-- The session was connected. -/
def opens : Exchange → Bool
  | ⟨.connect _, .ok _⟩ => true
  | _ => false

/-- A read has shown that the session is lost. -/
def loses : Exchange → Bool
  | ⟨.read _, .error cause⟩ => cause.isSessionLost
  | _ => false

theorem opens_iff {e : Exchange} :
    e.opens = true ↔ ∃ target, e = ⟨.connect target, .ok ()⟩ := by
  constructor
  · intro hopens
    match e, hopens with
    | ⟨.connect target, .ok ()⟩, _ => exact ⟨target, rfl⟩
  · rintro ⟨target, rfl⟩
    rfl

theorem loses_iff {e : Exchange} :
    e.loses = true ↔
      ∃ paths cause, e = ⟨.read paths, .error cause⟩ ∧ cause.isSessionLost = true := by
  constructor
  · intro hloses
    match e, hloses with
    | ⟨.read paths, .error cause⟩, hlost => exact ⟨paths, cause, rfl, hlost⟩
  · rintro ⟨paths, cause, rfl, hlost⟩
    exact hlost

theorem isClose_iff {e : Exchange} : e.isClose = true ↔ ∃ result, e = ⟨.close, result⟩ := by
  constructor
  · intro hclose
    match e, hclose with
    | ⟨.close, result⟩, _ => exact ⟨result, rfl⟩
  · rintro ⟨result, rfl⟩
    rfl

end Exchange

open Exchange

/-! ## Following a history -/

/-- The latest attempt to connect was a success, and no read has shown a loss since. -/
def isUp (history : List Exchange) : Bool :=
  history.foldl (fun up e => e.opens || (up && !e.isConnect && !e.loses)) false

/-- After every success in connecting, a read has shown a loss. -/
def isDown (history : List Exchange) : Bool :=
  history.foldl (fun down e => !e.opens && (down || e.loses)) true

/-- What was called last has connected the session. -/
def justOpened (history : List Exchange) : Bool := history.getLast?.any opens

/-- What was called last is to close the session. -/
def justClosed (history : List Exchange) : Bool := history.getLast?.any isClose

@[simp]
theorem isUp_append_one (history : List Exchange) (e : Exchange) :
    isUp (history ++ [e]) = (e.opens || (isUp history && !e.isConnect && !e.loses)) := by
  simp [isUp, List.foldl_append]

@[simp]
theorem isDown_append_one (history : List Exchange) (e : Exchange) :
    isDown (history ++ [e]) = (!e.opens && (isDown history || e.loses)) := by
  simp [isDown, List.foldl_append]

@[simp]
theorem justOpened_append_one (history : List Exchange) (e : Exchange) :
    justOpened (history ++ [e]) = e.opens := by
  simp [justOpened]

@[simp]
theorem justClosed_append_one (history : List Exchange) (e : Exchange) :
    justClosed (history ++ [e]) = e.isClose := by
  simp [justClosed]

theorem exists_of_justOpened {history : List Exchange} (hopened : justOpened history = true) :
    ∃ earlier target, history = earlier ++ [⟨.connect target, .ok ()⟩] := by
  rcases List.eq_nil_or_concat history with rfl | ⟨earlier, e, rfl⟩
  · simp [justOpened] at hopened
  · rw [List.concat_eq_append] at hopened ⊢
    rw [justOpened_append_one] at hopened
    obtain ⟨target, rfl⟩ := opens_iff.mp hopened
    exact ⟨earlier, target, rfl⟩

theorem exists_of_justClosed {history : List Exchange} (hclosed : justClosed history = true) :
    ∃ earlier result, history = earlier ++ [⟨.close, result⟩] := by
  rcases List.eq_nil_or_concat history with rfl | ⟨earlier, e, rfl⟩
  · simp [justClosed] at hclosed
  · rw [List.concat_eq_append] at hclosed ⊢
    rw [justClosed_append_one] at hclosed
    obtain ⟨result, rfl⟩ := isClose_iff.mp hclosed
    exact ⟨earlier, result, rfl⟩

/-- A session that is up was connected, with neither an attempt to connect nor a loss
since. -/
theorem exists_opens_of_isUp {history : List Exchange} (hup : isUp history = true) :
    ∃ before e after, history = before ++ e :: after ∧ e.opens = true ∧
      ∀ x ∈ after, x.isConnect = false ∧ x.loses = false := by
  have hgeneral : ∀ (later earlier : List Exchange), isUp (earlier ++ later) = true →
      (∀ x ∈ later, x.isConnect = false ∧ x.loses = false) ∧ isUp earlier = true ∨
      ∃ before e after, later = before ++ e :: after ∧ e.opens = true ∧
        ∀ x ∈ after, x.isConnect = false ∧ x.loses = false := by
    intro later
    induction later with
    | nil => exact fun earlier hup => Or.inl ⟨by simp, by simpa using hup⟩
    | cons e later ih =>
        intro earlier hup
        rcases ih (earlier ++ [e]) (by simpa using hup) with ⟨hlater, hearlier⟩ | hexists
        · rw [isUp_append_one, Bool.or_eq_true] at hearlier
          rcases hearlier with hopens | hkept
          · exact Or.inr ⟨[], e, later, rfl, hopens, hlater⟩
          · simp only [Bool.and_eq_true, Bool.not_eq_true'] at hkept
            refine Or.inl ⟨?_, hkept.1.1⟩
            intro x hx
            rcases List.mem_cons.mp hx with rfl | hx
            · exact ⟨hkept.1.2, hkept.2⟩
            · exact hlater x hx
        · obtain ⟨before, x, after, rfl, hopens, hafter⟩ := hexists
          exact Or.inr ⟨e :: before, x, after, rfl, hopens, hafter⟩
  rcases hgeneral history [] hup with ⟨-, hnever⟩ | hexists
  · exact absurd hnever (by simp [isUp])
  · exact hexists

/-- Where a session is down, every success in connecting is followed by a loss. -/
theorem exists_loses_of_isDown {before after : List Exchange} {e : Exchange}
    (hdown : isDown (before ++ e :: after) = true) (hopens : e.opens = true) :
    ∃ x ∈ after, x.loses = true := by
  have hgeneral : ∀ (later earlier : List Exchange), isDown earlier = false →
      isDown (earlier ++ later) = true → ∃ x ∈ later, x.loses = true := by
    intro later
    induction later with
    | nil => simp_all
    | cons x later ih =>
        intro earlier hearlier hdown
        by_cases hloses : x.loses = true
        · exact ⟨x, List.mem_cons_self, hloses⟩
        · have hstill : isDown (earlier ++ [x]) = false := by simp [hearlier, hloses]
          obtain ⟨y, hy, hyloses⟩ := ih (earlier ++ [x]) hstill (by simpa using hdown)
          exact ⟨y, List.mem_cons_of_mem x hy, hyloses⟩
  exact hgeneral after (before ++ [e]) (by simp [hopens]) (by simpa using hdown)

/-! ## Order -/

/-- Whether a call keeps order after a history. -/
def Permitted (history : List Exchange) : Call → Prop
  | .connect _ => justClosed history = true ∧ isDown history = true
  | .close => justOpened history = false
  | .read _ => isUp history = true ∧ justOpened history = false
  | .write _ _ => False
  | .info => justOpened history = true

/-- Every call was permitted when it was made. -/
def AllPermitted (history : List Exchange) : Prop :=
  ∀ before e after, history = before ++ e :: after → Permitted before e.1

theorem allPermitted_nil : AllPermitted [] := by
  intro before e after heq
  simp at heq

theorem AllPermitted.append_one {history : List Exchange} {e : Exchange}
    (hall : AllPermitted history) (he : Permitted history e.1) :
    AllPermitted (history ++ [e]) := by
  intro before x after heq
  rcases List.eq_nil_or_concat after with rfl | ⟨after, y, rfl⟩
  · obtain ⟨rfl, hx⟩ := List.append_inj' heq rfl
    obtain rfl := List.head_eq_of_cons_eq hx
    exact he
  · have hcut : history ++ [e] = (before ++ x :: after) ++ [y] := by simpa using heq
    exact hall before x after (List.append_inj' hcut rfl).1

/-- A history of somebody who keeps order. -/
structure Orderly (history : List Exchange) : Prop where
  /-- A session is closed directly before it is connected. -/
  connect_after_close : ∀ before target result after,
    history = before ++ ⟨.connect target, result⟩ :: after →
      ∃ earlier closed, before = earlier ++ [⟨.close, closed⟩]
  /-- Directly after a success in connecting comes a request for information. -/
  info_after_connect : ∀ before target e after,
    history = before ++ ⟨.connect target, .ok ()⟩ :: e :: after → e.1 = .info
  /-- Such a request is made at no other time. -/
  connect_before_info : ∀ before result after, history = before ++ ⟨.info, result⟩ :: after →
    ∃ earlier target, before = earlier ++ [⟨.connect target, .ok ()⟩]
  /-- Between a success in connecting and the next attempt, a read has shown a loss. -/
  loss_before_reconnect : ∀ before target between other result after,
    history = before ++ ⟨.connect target, .ok ()⟩ :: between ++ ⟨.connect other, result⟩ :: after →
      ∃ paths cause, ⟨.read paths, .error cause⟩ ∈ between ∧ cause.isSessionLost = true
  /-- A read is made only where the latest attempt to connect was a success, and no read
  has shown a loss since. -/
  read_when_up : ∀ before paths result after,
    history = before ++ ⟨.read paths, result⟩ :: after →
      ∃ earlier target between, before = earlier ++ ⟨.connect target, .ok ()⟩ :: between ∧
        ∀ e ∈ between, (∀ other result, e ≠ ⟨.connect other, result⟩) ∧
          ∀ paths cause, e = ⟨.read paths, .error cause⟩ → cause.isSessionLost = false
  /-- Nothing is written. -/
  no_write : ∀ path value result, ⟨.write path value, result⟩ ∉ history

/-- Permitted calls keep order. -/
theorem AllPermitted.orderly {history : List Exchange} (hall : AllPermitted history) :
    Orderly history where
  connect_after_close before target result after heq :=
    exists_of_justClosed (hall before _ after heq).1
  info_after_connect before target e after heq := by
    have hcut : history = (before ++ [⟨.connect target, .ok ()⟩]) ++ e :: after := by
      simpa using heq
    have hpermitted := hall _ e after hcut
    cases hcall : e.1 <;> simp_all [Permitted, opens, isClose]
  connect_before_info before result after heq :=
    exists_of_justOpened (hall before _ after heq)
  loss_before_reconnect before target between other result after heq := by
    have hcut : history =
        (before ++ ⟨.connect target, .ok ()⟩ :: between) ++ ⟨.connect other, result⟩ :: after := by
      simpa using heq
    obtain ⟨x, hx, hloses⟩ := exists_loses_of_isDown (hall _ _ after hcut).2 rfl
    obtain ⟨paths, cause, rfl, hlost⟩ := loses_iff.mp hloses
    exact ⟨paths, cause, hx, hlost⟩
  read_when_up before paths result after heq := by
    obtain ⟨earlier, e, between, rfl, hopens, hbetween⟩ :=
      exists_opens_of_isUp (hall before _ after heq).1
    obtain ⟨target, rfl⟩ := opens_iff.mp hopens
    refine ⟨earlier, target, between, rfl, fun x hx => ⟨?_, ?_⟩⟩
    · rintro other result rfl
      exact absurd (hbetween _ hx).1 (by simp [isConnect])
    · rintro paths cause rfl
      exact (hbetween _ hx).2
  no_write path value result hmem := by
    obtain ⟨before, after, heq⟩ := List.append_of_mem hmem
    exact hall before _ after heq

end TagRelay.Session
