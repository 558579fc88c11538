import Mathlib.Data.List.Forall2
import Mathlib.Data.List.Nodup
import TagRelay.Proofs.Text.Blank
import TagRelay.Proofs.Text.Parts
import TagRelay.Remote.Target

/-!
# Pairs in a text

A text of pairs may give them in any order, with names in any letter case, with white space and
with anything in between that gives no pair of the same name: each pair is found under its name.
-/

namespace TagRelay.Remote

open Text (isBlank)

/-! ## Segments -/

/-- A segment that gives a value under a name: the name in any letter case, and white space
around both. -/
inductive Gives (name value : String) : String → Prop
  | intro {before word afterWord beforeValue after : String} (hword : Text.lower word = name)
      (hbefore : Text.isMissing before = true) (hafterWord : Text.isMissing afterWord = true)
      (hbeforeValue : Text.isMissing beforeValue = true) (hafter : Text.isMissing after = true) :
      Gives name value (before ++ word ++ afterWord ++ "=" ++ (beforeValue ++ value ++ after))

/-- A segment that gives nothing under any of the names. -/
def Foreign (names : List String) (segment : String) : Prop :=
  ∀ left right : String, '=' ∉ left.toList → segment = left ++ "=" ++ right →
    Text.lower (Text.trim left) ∉ names

/-- A text of segments with semicolons between them.  For each of the pairs one segment gives
it, and all others give nothing under one of their names. -/
inductive Spells (given : List (String × String)) : String → Prop
  | intro {segments chosen others : List String} (hsegments : segments.Perm (chosen ++ others))
      (hchosen : List.Forall₂ (fun pair segment => Gives pair.1 pair.2 segment) given chosen)
      (hothers : ∀ segment ∈ others, Foreign (given.map Prod.fst) segment)
      (hapart : ∀ segment ∈ others, ';' ∉ segment.toList) :
      Spells given (Text.join ";" segments)

/-- The pair of a segment. -/
def pairOf (segment : String) : Option (String × String) :=
  let trimmed := fun (part : List Char) => String.ofList (Text.trimList part)
  (Text.splitFirst '=' segment.toList).map fun (name, value) =>
    (Text.lower (trimmed name), trimmed value)

theorem pairs_join {segments : List String} (hsegments : segments ≠ [])
    (hapart : ∀ segment ∈ segments, ';' ∉ segment.toList) :
    pairs (Text.join ";" segments) = (segments.filterMap pairOf).reverse := by
  rw [pairs, Text.pieces_join (by decide) hsegments hapart, List.filterMap_map]
  rfl

/-- A name without blanks and without the marks between pairs. -/
def Plain (name : String) : Prop :=
  ∀ c ∈ name.toList, isBlank c = false ∧ c ≠ '=' ∧ c ≠ ';'

theorem plain_of_all {name : String}
    (hall : name.toList.all (fun c => !isBlank c && c != '=' && c != ';') = true) : Plain name := by
  intro c hc
  simpa [and_assoc] using List.all_eq_true.mp hall c hc

theorem plain_of_lower {name word : String} (hname : Plain name) (hword : Text.lower word = name) :
    Plain word := by
  intro c hc
  have hmem : c.toLower = c → c ∈ name.toList := fun hlower =>
    hword ▸ Text.mem_lower hc hlower
  refine ⟨?_, ?_, ?_⟩
  · cases hblank : isBlank c with
    | false => rfl
    | true => exact absurd (hname c (hmem (Text.toLower_of_isBlank hblank))).1 (by simp [hblank])
  · rintro rfl
    exact (hname _ (hmem (by decide))).2.1 rfl
  · rintro rfl
    exact (hname _ (hmem (by decide))).2.2 rfl

theorem notMem_of_isMissing {blanks : String} {c : Char} (hblanks : Text.isMissing blanks = true)
    (hc : isBlank c = false) : c ∉ blanks.toList := fun hmem => by
  have hblank := List.all_eq_true.mp hblanks c hmem
  simp [hc] at hblank

theorem isBlank_of_isMissing {blanks : String} (hblanks : Text.isMissing blanks = true) :
    ∀ c ∈ blanks.toList, isBlank c = true := List.all_eq_true.mp hblanks

/-- A pair that a segment can give: white space and semicolons would be lost. -/
structure Clear (pair : String × String) : Prop where
  name : Plain pair.1
  trimmed : Text.trim pair.2 = pair.2
  apart : ';' ∉ pair.2.toList

theorem Clear.pairOf_eq {pair : String × String} (hclear : Clear pair) {segment : String}
    (hgives : Gives pair.1 pair.2 segment) : pairOf segment = some pair := by
  cases hgives with
  | @intro before word afterWord beforeValue after hword hbefore hafterWord hbeforeValue hafter =>
      have hplain := plain_of_lower hclear.name hword
      have hleft : '=' ∉ (before ++ word ++ afterWord).toList := by
        simp only [String.toList_append, List.mem_append, not_or]
        exact ⟨⟨notMem_of_isMissing hbefore (by decide), fun hmem => (hplain _ hmem).2.1 rfl⟩,
          notMem_of_isMissing hafterWord (by decide)⟩
      have hsegment :
          (before ++ word ++ afterWord ++ "=" ++ (beforeValue ++ pair.2 ++ after)).toList =
            (before ++ word ++ afterWord).toList ++
              '=' :: (beforeValue ++ pair.2 ++ after).toList := by
        simp [String.toList_append]
      have hname : Text.trimList (before ++ word ++ afterWord).toList = word.toList := by
        rw [String.toList_append, String.toList_append,
          Text.trimList_around (isBlank_of_isMissing hbefore) (isBlank_of_isMissing hafterWord),
          Text.trimList_of_all fun c hc => (hplain c hc).1]
      have hvalue : String.ofList (Text.trimList (beforeValue ++ pair.2 ++ after).toList) =
          pair.2 := by
        rw [String.toList_append, String.toList_append,
          Text.trimList_around (isBlank_of_isMissing hbeforeValue) (isBlank_of_isMissing hafter)]
        exact hclear.trimmed
      rw [pairOf, hsegment, Text.splitFirst_append hleft]
      simp only [Option.map_some, hname, hvalue, String.ofList_toList, hword]

theorem Clear.notMem {pair : String × String} (hclear : Clear pair) {segment : String}
    (hgives : Gives pair.1 pair.2 segment) : ';' ∉ segment.toList := by
  cases hgives with
  | @intro before word afterWord beforeValue after hword hbefore hafterWord hbeforeValue hafter =>
      have hplain : ';' ∉ word.toList := fun hmem =>
        (plain_of_lower hclear.name hword _ hmem).2.2 rfl
      simp [String.toList_append, notMem_of_isMissing hbefore, notMem_of_isMissing hafterWord,
        notMem_of_isMissing hbeforeValue, notMem_of_isMissing hafter, hplain, hclear.apart,
        show isBlank ';' = false by decide]

theorem foreign_iff {names : List String} {segment : String} :
    Foreign names segment ↔ ∀ pair ∈ pairOf segment, pair.1 ∉ names := by
  constructor
  · intro hforeign pair hpair
    obtain ⟨⟨left, right⟩, hsplit, rfl⟩ := Option.map_eq_some_iff.mp hpair
    obtain ⟨hsegment, hleft⟩ := Text.splitFirst_eq_some_iff.mp hsplit
    have hnamed := hforeign (String.ofList left) (String.ofList right) (by simpa using hleft)
      (String.toList_inj.mp (by simp [String.toList_append, hsegment]))
    rwa [Text.trim, String.toList_ofList] at hnamed
  · rintro hpairs left right hleft rfl
    have hsplit : Text.splitFirst '=' (left ++ "=" ++ right).toList =
        some (left.toList, right.toList) := by
      rw [Text.splitFirst_eq_some_iff]
      exact ⟨by simp [String.toList_append], hleft⟩
    have hpair : pairOf (left ++ "=" ++ right) =
        some (Text.lower (Text.trim left), Text.trim right) := by
      rw [pairOf, hsplit]
      rfl
    exact hpairs (Text.lower (Text.trim left), Text.trim right) hpair

/-! ## Look-ups -/

section Spells

variable {given : List (String × String)} {text : String}

theorem filterMap_of_gives {chosen : List String} (hclear : ∀ pair ∈ given, Clear pair)
    (hchosen : List.Forall₂ (fun pair segment => Gives pair.1 pair.2 segment) given chosen) :
    chosen.filterMap pairOf = given ∧ ∀ segment ∈ chosen, ';' ∉ segment.toList := by
  induction hchosen with
  | nil => simp
  | cons hgives hrest ih =>
      obtain ⟨hpair, hclear⟩ := List.forall_mem_cons.mp hclear
      obtain ⟨hpairs, hapart⟩ := ih hclear
      refine ⟨?_, List.forall_mem_cons.mpr ⟨hpair.notMem hgives, hapart⟩⟩
      rw [List.filterMap_cons_some (hpair.pairOf_eq hgives), hpairs]

/-- The pairs of a text are those that it spells, and others under other names. -/
theorem Spells.pairs_perm (hspells : Spells given text) (hgiven : given ≠ [])
    (hclear : ∀ pair ∈ given, Clear pair) :
    ∃ foreign, (pairs text).Perm (given ++ foreign) ∧
      ∀ pair ∈ foreign, pair.1 ∉ given.map Prod.fst := by
  cases hspells with
  | @intro segments chosen others hsegments hchosen hothers hapart =>
      obtain ⟨hpairs, hchosenApart⟩ := filterMap_of_gives hclear hchosen
      have hsegmentsApart : ∀ segment ∈ segments, ';' ∉ segment.toList := fun segment hsegment =>
        (List.mem_append.mp (hsegments.mem_iff.mp hsegment)).elim (hchosenApart segment)
          (hapart segment)
      -- A text without segments has one empty part, which is no segment of the text.
      have hsome : segments ≠ [] := by
        rintro rfl
        have hnone := (List.append_eq_nil_iff.mp hsegments.nil_eq.symm).1
        rw [hnone, List.forall₂_nil_right_iff] at hchosen
        exact hgiven hchosen
      refine ⟨others.filterMap pairOf, ?_, ?_⟩
      · have hperm := hsegments.filterMap pairOf
        rw [List.filterMap_append, hpairs] at hperm
        rw [pairs_join hsome hsegmentsApart]
        exact (List.reverse_perm _).trans hperm
      · intro pair hpair
        obtain ⟨segment, hsegment, hpair⟩ := List.mem_filterMap.mp hpair
        exact foreign_iff.mp (hothers segment hsegment) pair hpair

/-- Each of the pairs is found under its name. -/
theorem Spells.lookup_pairs (hspells : Spells given text) (hdistinct : (given.map Prod.fst).Nodup)
    (hclear : ∀ pair ∈ given, Clear pair) {name value : String} (hpair : (name, value) ∈ given) :
    (pairs text).lookup name = some value := by
  obtain ⟨foreign, hperm, hforeign⟩ := hspells.pairs_perm (List.ne_nil_of_mem hpair) hclear
  cases hfound : (pairs text).lookup name with
  | none =>
      have hmem := hperm.mem_iff.mpr (List.mem_append_left foreign hpair)
      exact absurd (List.lookup_eq_none_iff.mp hfound _ hmem) (by simp)
  | some other =>
      -- The order of the segments does not matter: no other pair has this name.
      obtain ⟨before, after, hsplit, -⟩ := List.lookup_eq_some_iff.mp hfound
      have hmem : (name, other) ∈ given ++ foreign := hperm.mem_iff.mp (by simp [hsplit])
      obtain hgiven | hother := List.mem_append.mp hmem
      · have hsame := List.inj_on_of_nodup_map hdistinct hgiven hpair rfl
        rw [(Prod.mk.inj hsame).2]
      · have hname : name ∈ given.map Prod.fst := List.mem_map_of_mem hpair
        exact absurd hname (hforeign _ hother)

end Spells

end TagRelay.Remote
