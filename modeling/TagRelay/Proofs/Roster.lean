import Mathlib.Data.List.Induction
import TagRelay.Roster

/-!
# What a roster lists

A thing that was entered is found by its name until another one is entered under that name.
A roster lists each name once, where it was entered first, with what was entered last under it.
-/

namespace TagRelay.Roster

variable {α : Type}

/-! ## Finding -/

@[simp]
theorem find?_enter_self (name : String) (item : α) (roster : Roster α) :
    (enter name item roster).find? name = some item := by
  induction roster with
  | nil => simp [enter, find?]
  | cons entry rest ih =>
      by_cases hname : entry.1 = name
      · simp [enter, find?, hname]
      · simp [enter, find?, hname, ih]

theorem find?_enter_of_ne {name other : String} (hother : other ≠ name) (item : α)
    (roster : Roster α) : (enter name item roster).find? other = roster.find? other := by
  induction roster with
  | nil => simp [enter, find?, hother.symm]
  | cons entry rest ih =>
      by_cases hname : entry.1 = name
      · simp [enter, find?, hname, hother.symm]
      · simp [enter, find?, hname, ih]

theorem mem_of_find? {name : String} {roster : Roster α} {item : α}
    (hfind : roster.find? name = some item) : (name, item) ∈ roster := by
  induction roster with
  | nil => simp [find?] at hfind
  | cons entry rest ih =>
      obtain ⟨other, first⟩ := entry
      rw [find?] at hfind
      split at hfind
      · rename_i hother
        obtain rfl := Option.some.inj hfind
        simp [hother]
      · exact List.mem_cons_of_mem _ (ih hfind)

/-! ## Names -/

def names (roster : Roster α) : List String := roster.map Prod.fst

theorem mem_enter {name : String} {item : α} {roster : Roster α} {entry : String × α}
    (hentry : entry ∈ enter name item roster) : entry = (name, item) ∨ entry ∈ roster := by
  induction roster with
  | nil => exact Or.inl (List.mem_singleton.mp hentry)
  | cons first rest ih =>
      rw [enter] at hentry
      split at hentry
      · exact (List.mem_cons.mp hentry).imp_right (List.mem_cons_of_mem first)
      · rcases List.mem_cons.mp hentry with rfl | hentry
        · exact Or.inr List.mem_cons_self
        · exact (ih hentry).imp_right (List.mem_cons_of_mem first)

/-- A name keeps its place, and one that is new comes last. -/
theorem names_enter (name : String) (item : α) (roster : Roster α) :
    names (enter name item roster) = names roster ∨
      names (enter name item roster) = names roster ++ [name] ∧ name ∉ names roster := by
  induction roster with
  | nil => exact Or.inr ⟨rfl, List.not_mem_nil⟩
  | cons entry rest ih =>
      obtain ⟨other, old⟩ := entry
      rw [enter]
      split
      · rename_i hother
        exact Or.inl (congrArg (· :: names rest) hother.symm)
      · rename_i hother
        rcases ih with hsame | ⟨hnew, hname⟩
        · exact Or.inl (congrArg (other :: ·) hsame)
        · refine Or.inr ⟨congrArg (other :: ·) hnew, ?_⟩
          exact fun hmem => (List.mem_cons.mp hmem).elim (Ne.symm hother) hname

theorem enter_of_notMem {name : String} {roster : Roster α} (hname : name ∉ names roster)
    (item : α) : enter name item roster = roster ++ [(name, item)] := by
  induction roster with
  | nil => rfl
  | cons entry rest ih =>
      obtain ⟨hother, hrest⟩ := List.ne_and_not_mem_of_not_mem_cons hname
      rw [enter, if_neg (Ne.symm hother), ih hrest, List.cons_append]

theorem nodup_enter (name : String) (item : α) {roster : Roster α}
    (hnodup : (names roster).Nodup) : (names (enter name item roster)).Nodup := by
  rcases names_enter name item roster with hsame | ⟨hnew, hname⟩
  · rwa [hsame]
  · rw [hnew]
    refine List.pairwise_append.mpr ⟨hnodup, List.pairwise_singleton _ _, ?_⟩
    rintro other hother x hx rfl
    exact hname (List.mem_singleton.mp hx ▸ hother)

/-! ## Lists of entries -/

theorem ofList_append_one (entries : List (String × α)) (entry : String × α) :
    ofList (entries ++ [entry]) = enter entry.1 entry.2 (ofList entries) :=
  List.foldl_append

/-- What has been entered in all of these is listed under distinct names. -/
theorem nodup_ofList (entries : List (String × α)) : (names (ofList entries)).Nodup := by
  induction entries using List.reverseRecOn with
  | nil => exact List.nodup_nil
  | append_singleton entries entry ih =>
      rw [ofList_append_one]
      exact nodup_enter entry.1 entry.2 ih

theorem mem_ofList {entries : List (String × α)} {entry : String × α}
    (hentry : entry ∈ ofList entries) : entry ∈ entries := by
  induction entries using List.reverseRecOn with
  | nil => exact hentry
  | append_singleton entries last ih =>
      rw [ofList_append_one] at hentry
      rcases mem_enter hentry with rfl | hentry
      · exact List.mem_append_right _ (.head _)
      · exact List.mem_append_left _ (ih hentry)

theorem ofList_of_nodup {entries : List (String × α)} (hnodup : (names entries).Nodup) :
    ofList entries = entries := by
  induction entries using List.reverseRecOn with
  | nil => rfl
  | append_singleton entries entry ih =>
      rw [names, List.map_append, List.map_singleton] at hnodup
      obtain ⟨hentries, -, hapart⟩ := List.nodup_append.mp hnodup
      have hname : entry.1 ∉ names entries := fun hmem => hapart _ hmem _ (.head _) rfl
      rw [ofList_append_one, ih hentries, enter_of_notMem hname]

/-- Each name stands where it was entered first. -/
theorem names_ofList (entries : List (String × α)) :
    names (ofList entries) = (names entries).eraseDups := by
  induction entries using List.reverseRecOn with
  | nil => rfl
  | append_singleton entries entry ih =>
      have happend : names (entries ++ [entry]) = names entries ++ [entry.1] := List.map_append
      have hmem : entry.1 ∈ names (ofList entries) ↔ entry.1 ∈ names entries := by
        rw [ih, List.mem_eraseDups]
      rw [ofList_append_one, happend, List.eraseDups_append]
      by_cases hname : entry.1 ∈ names entries
      · rcases names_enter entry.1 entry.2 (ofList entries) with hsame | ⟨-, hnew⟩
        · rw [hsame, ih]
          simp [List.cons_removeAll, hname]
        · exact absurd (hmem.mpr hname) hnew
      · rw [enter_of_notMem (fun hold => hname (hmem.mp hold)), names, List.map_append]
        change names (ofList entries) ++ _ = _
        rw [ih]
        simp [List.cons_removeAll, List.eraseDups_cons, hname]

/-- Of several things that are entered under one name, the last is found. -/
theorem find?_ofList_of_last {entries earlier later : List (String × α)} {name : String} {item : α}
    (hentries : entries = earlier ++ (name, item) :: later)
    (hlater : ∀ entry ∈ later, entry.1 ≠ name) : (ofList entries).find? name = some item := by
  subst hentries
  induction later using List.reverseRecOn with
  | nil => rw [ofList_append_one, find?_enter_self]
  | append_singleton later last ih =>
      have hlast : last.1 ≠ name := hlater last (List.mem_append_right _ (.head _))
      rw [← List.cons_append, ← List.append_assoc, ofList_append_one,
        find?_enter_of_ne (Ne.symm hlast),
        ih fun entry hentry => hlater entry (List.mem_append_left _ hentry)]

theorem find?_of_mem {name : String} {item : α} {roster : Roster α}
    (hnodup : (names roster).Nodup) (hmem : (name, item) ∈ roster) :
    roster.find? name = some item := by
  induction roster with
  | nil => cases hmem
  | cons entry rest ih =>
      obtain ⟨hfirst, hrest⟩ := List.nodup_cons.mp hnodup
      rcases List.mem_cons.mp hmem with rfl | hmem
      · simp [find?]
      · have hother : entry.1 ≠ name := by
          rintro rfl
          exact hfirst (List.mem_map.mpr ⟨_, hmem, rfl⟩)
        rw [find?, if_neg hother, ih hrest hmem]

/-- The last of several items with one key. -/
theorem exists_last {β γ : Type} (key : β → γ) {items : List β} {item : β}
    (hitem : item ∈ items) :
    ∃ earlier last later, items = earlier ++ last :: later ∧ key last = key item ∧
      ∀ other ∈ later, key other ≠ key last := by
  induction items generalizing item with
  | nil => cases hitem
  | cons first rest ih =>
      by_cases hrest : ∃ other ∈ rest, key other = key item
      · obtain ⟨other, hother, hkey⟩ := hrest
        obtain ⟨earlier, last, later, rfl, hlast, hlater⟩ := ih hother
        exact ⟨first :: earlier, last, later, rfl, hlast.trans hkey, hlater⟩
      · obtain rfl : item = first :=
          (List.mem_cons.mp hitem).resolve_right fun hmem => hrest ⟨item, hmem, rfl⟩
        exact ⟨[], item, rest, rfl, rfl, fun other hother hkey => hrest ⟨other, hother, hkey⟩⟩

/-- What stands in a roster is the last that was entered under its name. -/
theorem last_of_mem_ofList {entries : List (String × α)} {entry : String × α}
    (hentry : entry ∈ ofList entries) :
    ∃ earlier later, entries = earlier ++ entry :: later ∧ ∀ other ∈ later, other.1 ≠ entry.1 := by
  obtain ⟨earlier, last, later, hentries, hname, hlater⟩ := exists_last Prod.fst (mem_ofList hentry)
  have hlast : (ofList entries).find? last.1 = some last.2 :=
    find?_ofList_of_last hentries hlater
  have hfound := find?_of_mem (nodup_ofList entries) hentry
  rw [← hname, hlast] at hfound
  obtain rfl : last = entry := Prod.ext hname (Option.some.inj hfound)
  exact ⟨earlier, later, hentries, hlater⟩

end TagRelay.Roster
