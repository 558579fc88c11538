import Mathlib.Data.List.Forall2
import Mathlib.Data.List.Nodup
import Mathlib.Data.List.Pairwise
import TagRelay.Json.Record

/-!
# Documents that say the same

The same record can be written down in many ways: a field goes by any of its names, fields
may stand in any order, and what the record does not know is ignored.  A form says which
names there are, at every depth of a document, and so which documents say the same.  A reader
that looks up each field once tells no difference between them, and refuses a document that
gives a field under two names.
-/

namespace TagRelay.Json

/-! ## Forms -/

/-- What may be written at one place of a document. -/
structure Form where
  /-- Two values say the same there. -/
  Same : Json → Json → Prop
  /-- Somewhere in the value a field is given under two of its names. -/
  Doubled : Json → Prop
  same_self : ∀ value, Same value value
  null_iff : ∀ {value other}, Same value other → (value = .null ↔ other = .null)
  not_doubled_null : ¬Doubled .null

namespace Form

/-- A value that can be written in one way only. -/
def plain : Form where
  Same := Eq
  Doubled _ := False
  same_self _ := rfl
  null_iff heq := by rw [heq]
  not_doubled_null := id

/-- Words that say the same, as a text or as the only key of an object. -/
inductive SameWord (synonyms : List (List String)) : Json → Json → Prop
  | self (value : Json) : SameWord synonyms value value
  | text {words : List String} {word other : String} (hwords : words ∈ synonyms)
      (hword : word ∈ words) (hother : other ∈ words) :
      SameWord synonyms (.string word) (.string other)
  | key {words : List String} {word other : String} (hwords : words ∈ synonyms)
      (hword : word ∈ words) (hother : other ∈ words) (payload : Json) :
      SameWord synonyms (.object [(word, payload)]) (.object [(other, payload)])

/-- A word, with the words that can stand for each other. -/
def word (synonyms : List (List String)) : Form where
  Same := SameWord synonyms
  Doubled _ := False
  same_self := .self
  null_iff hsame := by cases hsame <;> simp
  not_doubled_null := id

inductive SameList (form : Form) : Json → Json → Prop
  | self (value : Json) : SameList form value value
  | items {items others : List Json} (hitems : List.Forall₂ form.Same items others) :
      SameList form (.array items) (.array others)

/-- A list of values of one form. -/
def list (form : Form) : Form where
  Same := SameList form
  Doubled value := ∃ items, value = .array items ∧ ∃ item ∈ items, form.Doubled item
  same_self := .self
  null_iff hsame := by cases hsame <;> simp
  not_doubled_null := by simp

end Form

/-- A field of a record: its first name, its other names and the form of its value. -/
structure Field where
  name : String
  aliases : List String := []
  form : Form := .plain

def Field.names (field : Field) : List String := field.name :: field.aliases

/-- The fields of a record in their order; no name belongs to two of them. -/
structure Layout where
  fields : List Field
  distinct : (fields.flatMap Field.names).Nodup := by decide

/-- Fields of a record that say the same: fields are renamed, fields that the record does not
know are added, and the order changes. -/
inductive SameFields (layout : Layout) : List (String × Json) → List (String × Json) → Prop
  | nil : SameFields layout [] []
  | kept (entry : String × Json) {entries others : List (String × Json)}
      (hrest : SameFields layout entries others) :
      SameFields layout (entry :: entries) (entry :: others)
  | renamed {field : Field} {name other : String} {value again : Json}
      {entries others : List (String × Json)} (hfield : field ∈ layout.fields)
      (hname : name ∈ field.names) (hother : other ∈ field.names)
      (hvalue : field.form.Same value again) (hrest : SameFields layout entries others) :
      SameFields layout ((name, value) :: entries) ((other, again) :: others)
  | added {name : String} (value : Json) {entries others : List (String × Json)}
      (hunknown : ∀ field ∈ layout.fields, name ∉ field.names)
      (hrest : SameFields layout entries others) :
      SameFields layout entries ((name, value) :: others)
  | moved {entries others moved : List (String × Json)} (hrest : SameFields layout entries others)
      (hmoved : others.Perm moved) : SameFields layout entries moved

/-- The values of a record in the order of its fields; further values stay. -/
inductive SameItems : List Field → List Json → List Json → Prop
  | nil (fields : List Field) : SameItems fields [] []
  | item {field : Field} {fields : List Field} {value again : Json} {items others : List Json}
      (hvalue : field.form.Same value again) (hrest : SameItems fields items others) :
      SameItems (field :: fields) (value :: items) (again :: others)
  | further (items : List Json) : SameItems [] items items

namespace Form

inductive SameRecord (layout : Layout) : Json → Json → Prop
  | self (value : Json) : SameRecord layout value value
  | fields {entries others : List (String × Json)} (hfields : SameFields layout entries others) :
      SameRecord layout (.object entries) (.object others)
  | items {items others : List Json} (hitems : SameItems layout.fields items others) :
      SameRecord layout (.array items) (.array others)

inductive DoubledRecord (layout : Layout) : Json → Prop
  /-- A field stands there under two names. -/
  | twice {field : Field} {name other : String} {value again : Json}
      {entries : List (String × Json)} (hfield : field ∈ layout.fields) (hname : name ∈ field.names)
      (hother : other ∈ field.names) (hne : name ≠ other) (hentry : (name, value) ∈ entries)
      (hagain : (other, again) ∈ entries) : DoubledRecord layout (.object entries)
  | within {field : Field} {name : String} {value : Json} {entries : List (String × Json)}
      (hfield : field ∈ layout.fields) (hname : name ∈ field.names)
      (hentry : (name, value) ∈ entries) (hvalue : field.form.Doubled value) :
      DoubledRecord layout (.object entries)
  | item {field : Field} {value : Json} {items : List Json}
      (hitem : (field, value) ∈ layout.fields.zip items) (hvalue : field.form.Doubled value) :
      DoubledRecord layout (.array items)

/-- A record, given by its fields or by its values in order. -/
def record (layout : Layout) : Form where
  Same := SameRecord layout
  Doubled := DoubledRecord layout
  same_self := .self
  null_iff hsame := by cases hsame <;> simp
  not_doubled_null := by
    intro hdoubled
    cases hdoubled

end Form

/-! ## The values of a field -/

/-- A name belongs to one field only. -/
theorem Layout.eq_of_names {layout : Layout} {field other : Field} {name : String}
    (hfield : field ∈ layout.fields) (hother : other ∈ layout.fields) (hname : name ∈ field.names)
    (hagain : name ∈ other.names) : field = other := by
  by_contra hne
  have hapart := (List.nodup_flatMap.mp layout.distinct).2
  have hsymm : Std.Symm (Function.onFun List.Disjoint Field.names) :=
    ⟨fun _ _ hdisjoint => fun _ hother hname => hdisjoint hname hother⟩
  exact hapart.forall hfield hother hne hname hagain

namespace Field

/-- The values that are given for a field. -/
def given (field : Field) (entries : List (String × Json)) : List Json :=
  (entries.filter fun entry => field.names.contains entry.1).map Prod.snd

theorem given_eq (field : Field) (entries : List (String × Json)) :
    field.given entries =
      (entries.filter fun (name, _) => field.names.contains name).map Prod.snd := rfl

theorem given_cons_of_mem {field : Field} {name : String} (hname : name ∈ field.names)
    (value : Json) (entries : List (String × Json)) :
    field.given ((name, value) :: entries) = value :: field.given entries := by
  rw [given, List.filter_cons_of_pos (by simpa using hname)]
  rfl

theorem given_cons_of_notMem {field : Field} {name : String} (hname : name ∉ field.names)
    (value : Json) (entries : List (String × Json)) :
    field.given ((name, value) :: entries) = field.given entries := by
  rw [given, List.filter_cons_of_neg (by simpa using hname)]
  rfl

theorem given_perm (field : Field) {entries moved : List (String × Json)}
    (hmoved : entries.Perm moved) : (field.given entries).Perm (field.given moved) :=
  (hmoved.filter _).map _

theorem mem_given {field : Field} {name : String} {value : Json} {entries : List (String × Json)}
    (hname : name ∈ field.names) (hentry : (name, value) ∈ entries) :
    value ∈ field.given entries :=
  List.mem_map.mpr ⟨_, List.mem_filter.mpr ⟨hentry, by simpa using hname⟩, rfl⟩

theorem fieldNamed_eq_none_iff (field : Field) (entries : List (String × Json)) :
    fieldNamed field.names entries = .ok none ↔ field.given entries = [] := by
  rw [given_eq, fieldNamed]
  split <;> rename_i hfound <;> rw [hfound] <;> simp

theorem fieldNamed_eq_some_iff (field : Field) (entries : List (String × Json)) (value : Json) :
    fieldNamed field.names entries = .ok (some value) ↔ field.given entries = [value] := by
  rw [given_eq, fieldNamed]
  split <;> rename_i hfound <;> rw [hfound] <;> simp_all

end Field

/-- Records that say the same give the same for each field. -/
theorem SameFields.given {layout : Layout} {field : Field} {entries others : List (String × Json)}
    (hsame : SameFields layout entries others) (hfield : field ∈ layout.fields) :
    (field.given entries = [] → field.given others = []) ∧
      ∀ value, field.given entries = [value] →
        ∃ again, field.form.Same value again ∧ field.given others = [again] := by
  induction hsame with
  | nil => simp [Field.given]
  | kept entry hrest ih =>
      obtain ⟨name, value⟩ := entry
      by_cases hname : name ∈ field.names
      · rw [Field.given_cons_of_mem hname, Field.given_cons_of_mem hname]
        grind [field.form.same_self value]
      · rw [Field.given_cons_of_notMem hname, Field.given_cons_of_notMem hname]
        exact ih
  | @renamed own name other value again entries others hown hname hother hvalue hrest ih =>
      by_cases heq : own = field
      · subst heq
        rw [Field.given_cons_of_mem hname, Field.given_cons_of_mem hother]
        grind
      · -- The names of another field are no names of this one.
        have hforeign : ∀ word ∈ own.names, word ∉ field.names := fun word hword hagain =>
          heq (Layout.eq_of_names hown hfield hword hagain)
        rw [Field.given_cons_of_notMem (hforeign name hname),
          Field.given_cons_of_notMem (hforeign other hother)]
        exact ih
  | added value hunknown hrest ih =>
      rw [Field.given_cons_of_notMem (hunknown field hfield)]
      exact ih
  | moved hrest hmoved ih =>
      -- Order is lost among several values, but there is one at most.
      have hperm := field.given_perm hmoved
      constructor
      · intro hnone
        rw [ih.1 hnone] at hperm
        exact hperm.nil_eq.symm
      · intro value hone
        obtain ⟨again, hvalue, hagain⟩ := ih.2 value hone
        rw [hagain] at hperm
        exact ⟨again, hvalue, List.singleton_perm.mp hperm |>.symm⟩

end TagRelay.Json
