import TagRelay.Proofs.Json.Form

/-!
# Readers of documents that say the same

A reader respects a form when documents that say the same there give it the same, and when
it accepts no document that gives a field twice.  The readers of lists, of values that may be
null and of records respect the forms that are put together in the same way.
-/

namespace TagRelay.Json

variable {α β : Type}

/-! ## Results of readers -/

theorem bind_eq_ok_iff {first : Decode α} {second : α → Decode β} {result : β} :
    first >>= second = .ok result ↔
      ∃ between, first = .ok between ∧ second between = .ok result := by
  cases first <;> simp [bind, Except.bind]

theorem map_eq_ok_iff {f : α → β} {first : Decode α} {result : β} :
    first.map f = .ok result ↔ ∃ between, first = .ok between ∧ f between = result := by
  cases first <;> simp [Except.map]

theorem mapM_eq_ok_iff {read : Json → Decode α} {items : List Json} {results : List α} :
    items.mapM read = .ok results ↔
      List.Forall₂ (fun item result => read item = .ok result) items results := by
  induction items generalizing results with
  | nil => cases results <;> simp [pure, Except.pure]
  | cons item items ih =>
      rw [List.mapM_cons, bind_eq_ok_iff]
      constructor
      · rintro ⟨result, hitem, hthen⟩
        obtain ⟨rest, hrest, hresults⟩ := bind_eq_ok_iff.mp hthen
        cases hresults
        exact .cons hitem (ih.mp hrest)
      · rintro (- | ⟨hitem, hrest⟩)
        exact ⟨_, hitem, bind_eq_ok_iff.mpr ⟨_, ih.mpr hrest, rfl⟩⟩

theorem wordIn_eq_ok_iff {words : List (String × α)} {word : String} {result : α} :
    wordIn words word = .ok result ↔ words.lookup word = some result := by
  rw [wordIn]
  split <;> simp [*]

theorem asOption_of_ne_null (item : Json → Decode α) {value : Json} (hvalue : value ≠ .null) :
    asOption item value = (item value).map some := by
  cases value with
  | null => exact absurd rfl hvalue
  | bool | int | float | string | array | object => rfl

/-! ## Readers of values -/

/-- A reader for which only what the form tells apart makes a difference. -/
structure Form.Reads (form : Form) (read : Json → Decode α) : Prop where
  same : ∀ {value other result}, form.Same value other → read value = .ok result →
    read other = .ok result
  single : ∀ {value result}, read value = .ok result → ¬form.Doubled value

namespace Form.Reads

theorem plain (read : Json → Decode α) : Form.plain.Reads read where
  same heq hread := heq ▸ hread
  single _ := id

/-- Synonyms are words for the same. -/
theorem word {synonyms : List (List String)} {words : List (String × α)}
    (hsynonyms : ∀ group ∈ synonyms, ∀ word ∈ group, ∀ other ∈ group,
      words.lookup word = words.lookup other) :
    (Form.word synonyms).Reads (asWord .json words) where
  same {value other result} hsame hread := by
    cases hsame with
    | self => exact hread
    | text hgroup hword hother =>
        rw [asWord, wordIn_eq_ok_iff] at hread ⊢
        rw [← hsynonyms _ hgroup _ hword _ hother, hread]
    | key hgroup hword hother payload =>
        obtain ⟨between, hbetween, hread⟩ := bind_eq_ok_iff.mp hread
        rw [wordIn_eq_ok_iff, hsynonyms _ hgroup _ hword _ hother] at hbetween
        exact bind_eq_ok_iff.mpr ⟨between, wordIn_eq_ok_iff.mpr hbetween, hread⟩
  single _ := id

theorem list {form : Form} {read : Json → Decode α} (hreads : form.Reads read) :
    (Form.list form).Reads (asList read) where
  same {value other result} hsame hread := by
    cases hsame with
    | self => exact hread
    | items hitems =>
        rw [asList, mapM_eq_ok_iff] at hread ⊢
        induction hitems generalizing result with
        | nil => exact hread
        | cons hitem hitems ih =>
            obtain - | ⟨hfirst, hrest⟩ := hread
            exact .cons (hreads.same hitem hfirst) (ih hrest)
  single {value result} hread := by
    rintro ⟨items, rfl, item, hitem, hdoubled⟩
    rw [asList, mapM_eq_ok_iff] at hread
    induction hread with
    | nil => cases hitem
    | cons hfirst hrest ih =>
        obtain - | ⟨_, hitem⟩ := hitem
        · exact hreads.single hfirst hdoubled
        · exact ih hitem

theorem option {form : Form} {read : Json → Decode α} (hreads : form.Reads read) :
    form.Reads (asOption read) where
  same {value other result} hsame hread := by
    by_cases hvalue : value = .null
    · rw [(form.null_iff hsame).mp hvalue]
      rwa [hvalue] at hread
    · rw [asOption_of_ne_null read hvalue] at hread
      rw [asOption_of_ne_null read (mt (form.null_iff hsame).mpr hvalue)]
      obtain ⟨a, hread, hresult⟩ := map_eq_ok_iff.mp hread
      exact map_eq_ok_iff.mpr ⟨a, hreads.same hsame hread, hresult⟩
  single {value result} hread := by
    by_cases hvalue : value = .null
    · rw [hvalue]
      exact form.not_doubled_null
    · rw [asOption_of_ne_null read hvalue] at hread
      obtain ⟨a, hread, -⟩ := map_eq_ok_iff.mp hread
      exact hreads.single hread

end Form.Reads

/-! ## Readers of fields -/

/-- A field stands in a record at most once, and nothing in it stands there twice. -/
def Field.Single (field : Field) (entries : List (String × Json)) : Prop :=
  field.given entries = [] ∨ ∃ value, field.given entries = [value] ∧ ¬field.form.Doubled value

/-- A reader that looks up each of the fields `covered` of a record. -/
structure Layout.Reads (layout : Layout) (covered : List Field)
    (read : List (String × Json) → Decode α) : Prop where
  same : ∀ {entries others result}, covered ⊆ layout.fields → SameFields layout entries others →
    read entries = .ok result → read others = .ok result
  single : ∀ {entries result}, read entries = .ok result → ∀ field ∈ covered,
    field.Single entries

namespace Layout.Reads

variable {layout : Layout} {field : Field} {covered : List Field}

theorem nothing (layout : Layout) (result : α) :
    layout.Reads [] fun _ => (pure result : Decode α) where
  same _ _ hread := hread
  single _ _ hfield := nomatch hfield

theorem next {first : List (String × Json) → Decode α}
    {second : α → List (String × Json) → Decode β} (hfirst : layout.Reads [field] first)
    (hsecond : ∀ result, layout.Reads covered (second result)) :
    layout.Reads (field :: covered) fun entries => first entries >>= fun result =>
      second result entries where
  same hcovered hsame hread := by
    obtain ⟨hfield, hrest⟩ := List.cons_subset.mp hcovered
    obtain ⟨between, hbetween, hread⟩ := bind_eq_ok_iff.mp hread
    have hfirst := hfirst.same (List.cons_subset.mpr ⟨hfield, List.nil_subset _⟩) hsame hbetween
    exact bind_eq_ok_iff.mpr ⟨between, hfirst, (hsecond between).same hrest hsame hread⟩
  single hread := by
    obtain ⟨between, hbetween, hread⟩ := bind_eq_ok_iff.mp hread
    rintro other (- | ⟨_, hother⟩)
    · exact hfirst.single hbetween field (.head _)
    · exact (hsecond between).single hread other hother

/-- A reader that finds a value for the field, or none, and goes on from there. -/
theorem fieldNamed {found : Option Json → Decode α}
    (hfound : field.form.Reads fun value => found (some value)) :
    layout.Reads [field] fun entries => Json.fieldNamed field.names entries >>= found where
  same hcovered hsame hread := by
    have hfield := hcovered (.head _)
    obtain ⟨between, hbetween, hread⟩ := bind_eq_ok_iff.mp hread
    apply bind_eq_ok_iff.mpr
    -- A missing field is missing in both, so the reader goes on alike.
    cases between with
    | none =>
        rw [field.fieldNamed_eq_none_iff] at hbetween
        exact ⟨none, (field.fieldNamed_eq_none_iff _).mpr ((hsame.given hfield).1 hbetween), hread⟩
    | some value =>
        rw [field.fieldNamed_eq_some_iff] at hbetween
        obtain ⟨again, hvalue, hagain⟩ := (hsame.given hfield).2 value hbetween
        exact ⟨some again, (field.fieldNamed_eq_some_iff _ _).mpr hagain, hfound.same hvalue hread⟩
  single hread := by
    obtain ⟨between, hbetween, hread⟩ := bind_eq_ok_iff.mp hread
    intro other hother
    obtain rfl := List.mem_singleton.mp hother
    cases between with
    | none => exact .inl ((other.fieldNamed_eq_none_iff _).mp hbetween)
    | some value =>
        exact .inr ⟨value, (other.fieldNamed_eq_some_iff _ _).mp hbetween, hfound.single hread⟩

theorem required {item : Json → Decode α} (hitem : field.form.Reads item) :
    layout.Reads [field] (required field.names item) :=
  fieldNamed hitem

theorem withDefault {default : α} {item : Json → Decode α} (hitem : field.form.Reads item) :
    layout.Reads [field] (withDefault field.names default item) :=
  fieldNamed hitem

theorem optional {item : Json → Decode α} (hitem : field.form.Reads item) :
    layout.Reads [field] (optional field.names item) :=
  withDefault hitem.option

end Layout.Reads

/-! ## Readers of records -/

/-- A field that stands at most once does not stand under two names. -/
theorem Field.Single.name_eq {field : Field} {entries : List (String × Json)}
    (hsingle : field.Single entries) {name other : String} {value again : Json}
    (hname : name ∈ field.names) (hother : other ∈ field.names) (hentry : (name, value) ∈ entries)
    (hagain : (other, again) ∈ entries) : name = other := by
  have hfound : ∀ entry ∈ entries, entry.1 ∈ field.names →
      entry ∈ entries.filter fun entry => field.names.contains entry.1 :=
    fun entry hentry hname => List.mem_filter.mpr ⟨hentry, by simpa using hname⟩
  have hfirst := hfound _ hentry hname
  have hsecond := hfound _ hagain hother
  obtain hnone | ⟨value, hone, -⟩ := hsingle
  · rw [Field.given, List.map_eq_nil_iff] at hnone
    rw [hnone] at hfirst
    cases hfirst
  · rw [Field.given, List.map_eq_singleton_iff] at hone
    obtain ⟨entry, hone, -⟩ := hone
    rw [hone, List.mem_singleton] at hfirst hsecond
    exact congrArg Prod.fst (hfirst.trans hsecond.symm)

theorem Field.Single.not_doubled {field : Field} {entries : List (String × Json)}
    (hsingle : field.Single entries) {name : String} {value : Json} (hname : name ∈ field.names)
    (hentry : (name, value) ∈ entries) : ¬field.form.Doubled value := by
  have hgiven := Field.mem_given hname hentry
  obtain hnone | ⟨again, hone, hvalue⟩ := hsingle
  · rw [hnone] at hgiven
    cases hgiven
  · rw [hone, List.mem_singleton] at hgiven
    exact hgiven ▸ hvalue

theorem SameItems.length_eq {fields : List Field} {items others : List Json}
    (hsame : SameItems fields items others) : items.length = others.length := by
  induction hsame with
  | nil | further => rfl
  | item hvalue hrest ih => rw [List.length_cons, List.length_cons, ih]

theorem SameItems.zip {layout : Layout} {fields : List Field} {items others : List Json}
    (hsame : SameItems fields items others) (hfields : fields ⊆ layout.fields) :
    SameFields layout ((fields.map Field.name).zip items) ((fields.map Field.name).zip others) := by
  induction hsame with
  | nil | further => simpa using .nil
  | item hvalue hrest ih =>
      rw [List.cons_subset] at hfields
      exact .renamed hfields.1 (.head _) (.head _) hvalue (ih hfields.2)

theorem Form.Reads.record {layout : Layout} {read : List (String × Json) → Decode α}
    (hreads : layout.Reads layout.fields read) :
    (Form.record layout).Reads fun value =>
      asRecord .json (layout.fields.map Field.name) value >>= read where
  same {value other result} hsame hread := by
    cases hsame with
    | self => exact hread
    | fields hfields => exact hreads.same (List.Subset.refl _) hfields hread
    | items hitems =>
        obtain ⟨entries, hentries, hread⟩ := bind_eq_ok_iff.mp hread
        rw [asRecord, hitems.length_eq] at hentries
        split at hentries
        · nomatch hentries
        · cases hentries
          have hzip := hitems.zip (List.Subset.refl layout.fields)
          apply bind_eq_ok_iff.mpr
          refine ⟨_, ?_, hreads.same (List.Subset.refl _) hzip hread⟩
          rw [asRecord, if_neg ‹_›]
  single {value result} hread hdoubled := by
    obtain ⟨entries, hentries, hread⟩ := bind_eq_ok_iff.mp hread
    cases hdoubled with
    | twice hfield hname hother hne hentry hagain =>
        cases hentries
        exact hne ((hreads.single hread _ hfield).name_eq hname hother hentry hagain)
    | within hfield hname hentry hvalue =>
        cases hentries
        exact (hreads.single hread _ hfield).not_doubled hname hentry hvalue
    | @item field value items hitem hvalue =>
        have hentry : (field.name, value) ∈ (layout.fields.map Field.name).zip items := by
          rw [List.zip_map_left]
          exact List.mem_map_of_mem hitem
        rw [asRecord] at hentries
        split at hentries
        · nomatch hentries
        · cases hentries
          have hsingle := hreads.single hread field (List.of_mem_zip hitem).1
          exact hsingle.not_doubled (.head _) hentry hvalue

end TagRelay.Json
