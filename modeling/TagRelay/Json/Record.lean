import TagRelay.Json.Basic

/-!
# Records in JSON

A record is read from an object by the names of its fields, or from an array by
their order.  A field may have several names, but only one of them at a time;
fields with other names are ignored.  `null` stands for a missing value where a
value may be missing and is refused elsewhere.

Values that come from a configuration file are read by the same rules with two
differences: an array may be longer than the record, and a word may carry an empty
table where JSON has `null`.
-/

namespace TagRelay.Json

inductive DecodeError where
  | wrongType
  | missing (field : String)
  | repeated (field : String)
  | unknownWord (word : String)
  deriving Repr, DecidableEq

abbrev Decode (α : Type) := Except DecodeError α

/-- Where a value comes from. -/
inductive Source where
  | json
  | file
  deriving DecidableEq

def asString : Json → Decode String
  | .string text => .ok text
  | _ => .error .wrongType

def asBool : Json → Decode Bool
  | .bool flag => .ok flag
  | _ => .error .wrongType

/-- A whole number from zero to below `limit`. -/
def asNat (limit : Nat) : Json → Decode Nat
  | .int number =>
      if 0 ≤ number ∧ number < limit then .ok number.toNat else .error .wrongType
  | _ => .error .wrongType

def asNat64 : Json → Decode Nat := asNat (Nat.pow 2 64)

def asOption {α : Type} (item : Json → Decode α) : Json → Decode (Option α)
  | .null => .ok none
  | value => (item value).map some

def asList {α : Type} (item : Json → Decode α) : Json → Decode (List α)
  | .array items => items.mapM item
  | _ => .error .wrongType

def wordIn {α : Type} (words : List (String × α)) (word : String) : Decode α :=
  match words.lookup word with
  | some a => .ok a
  | none => .error (.unknownWord word)

def isEmptyPayload : Source → Json → Bool
  | .json, .null => true
  | .file, .object [] => true
  | .file, .array [] => true
  | _, _ => false

/-- One of a list of words, given as a text or as the only key of an object. -/
def asWord {α : Type} (source : Source) (words : List (String × α)) : Json → Decode α
  | .string word => wordIn words word
  | .object [(word, payload)] =>
      (wordIn words word).bind fun a =>
        if isEmptyPayload source payload then .ok a else .error .wrongType
  | _ => .error .wrongType

/-- The fields of a record whose fields in order have these names. -/
def asRecord (source : Source) (order : List String) : Json → Decode (List (String × Json))
  | .object fields => .ok fields
  | .array items =>
      if source = .json ∧ order.length < items.length then .error .wrongType
      else .ok (order.zip items)
  | _ => .error .wrongType

/-- The field with one of these names. -/
def fieldNamed (names : List String) (fields : List (String × Json)) : Decode (Option Json) :=
  match fields.filter fun (name, _) => names.contains name with
  | [] => .ok none
  | [(_, value)] => .ok (some value)
  | (name, _) :: _ => .error (.repeated name)

def required {α : Type} (names : List String) (item : Json → Decode α)
    (fields : List (String × Json)) : Decode α := do
  match ← fieldNamed names fields with
  | some value => item value
  | none => .error (.missing (names.headD ""))

def withDefault {α : Type} (names : List String) (default : α) (item : Json → Decode α)
    (fields : List (String × Json)) : Decode α := do
  match ← fieldNamed names fields with
  | some value => item value
  | none => .ok default

/-- A field that may be missing or null. -/
def optional {α : Type} (names : List String) (item : Json → Decode α)
    (fields : List (String × Json)) : Decode (Option α) :=
  withDefault names none (asOption item) fields

end TagRelay.Json
