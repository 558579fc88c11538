import TagRelay.Json.Basic
import TagRelay.Roster

/-!
# Documents under construction

A configuration text builds a tree of tables statement by statement.  Tables come into
being in three ways: by a header of their own, as a step on the way to another header,
or as a step of a dotted key.  Which way decides what may still be added to them, and
values never change once they are there.  Keys stay in the order in which they came.
-/

namespace TagRelay.Toml

inductive Node where
  | value (content : Json)
  /-- `passing` tables have no header of their own yet; `dotted` ones come from a key. -/
  | table (passing dotted : Bool) (entries : List (String × Node))
  | tables (items : List (List (String × Node)))

abbrev Entries := Roster Node

namespace Node

mutual

def toJson : Node → Json
  | .value content => content
  | .table _ _ entries => .object (entriesJson entries)
  | .tables items => .array (itemsJson items)

def entriesJson : Entries → List (String × Json)
  | [] => []
  | (name, node) :: rest => (name, node.toJson) :: entriesJson rest

def itemsJson : List Entries → List Json
  | [] => []
  | entries :: rest => .object (entriesJson entries) :: itemsJson rest

end

end Node

namespace Entries

def toJson (entries : Entries) : Json := .object (Node.entriesJson entries)

/-- Changes the last of several tables. -/
def changeLast (change : Entries → Option Entries) : List Entries → Option (List Entries)
  | [] => none
  | [last] => (change last).map fun changed => [changed]
  | first :: rest => (changeLast change rest).map fun changed => first :: changed

/-- Changes the table at a path of a header.  Missing tables on the way are made, and an
array of tables stands for its last table. -/
def changeAt (change : Entries → Option Entries) : List String → Entries → Option Entries
  | [], entries => change entries
  | name :: path, entries =>
      match Roster.find? name entries with
      | none =>
          (changeAt change path []).map fun changed =>
            Roster.enter name (.table true false changed) entries
      | some (.table passing dotted inner) =>
          (changeAt change path inner).map fun changed =>
            Roster.enter name (.table passing dotted changed) entries
      | some (.tables items) =>
          (changeLast (changeAt change path) items).map fun changed =>
            Roster.enter name (.tables changed) entries
      | some (.value _) => none

/-- Adds a value under a key that is not used yet. -/
def addValue (name : String) (content : Json) (entries : Entries) : Option Entries :=
  if (Roster.find? name entries).isSome then none
  else some (Roster.enter name (.value content) entries)

/-- Adds a value under a dotted key.  The tables on the way must be without header, and
the last of them must come from dotted keys. -/
def addDotted (name : String) (content : Json) : List String → Entries → Option Entries
  | [], entries => addValue name content entries
  | step :: path, entries =>
      match Roster.find? step entries with
      | none =>
          (addDotted name content path []).map fun changed =>
            Roster.enter step (.table true true changed) entries
      | some (.table passing dotted inner) =>
          if passing ∧ (dotted ∨ path ≠ []) then
            (addDotted name content path inner).map fun changed =>
              Roster.enter step (.table passing dotted changed) entries
          else none
      | some (.tables items) =>
          if path = [] then none
          else
            (changeLast (addDotted name content path) items).map fun changed =>
              Roster.enter step (.tables changed) entries
      | some (.value _) => none

/-- Adds a value under a key of one or more steps. -/
def addKey (key : List String) (content : Json) (entries : Entries) : Option Entries :=
  match key.getLast? with
  | some name => addDotted name content key.dropLast entries
  | none => none

/-- Opens a table by its header, which it must not have had before.  A table that was
passed on the way to another header takes the place of its own one. -/
def openTable (name : String) (entries : Entries) : Option Entries :=
  match Roster.find? name entries with
  | none => some (Roster.enter name (.table false false []) entries)
  | some (.table true false inner) =>
      some (Roster.enter name (.table false false inner) (Roster.erase name entries))
  | some _ => none

/-- Opens the next table of an array by its header. -/
def openNext (name : String) (entries : Entries) : Option Entries :=
  match Roster.find? name entries with
  | none => some (Roster.enter name (.tables [[]]) entries)
  | some (.tables items) => some (Roster.enter name (.tables (items ++ [[]])) entries)
  | some _ => none

/-- Opens what a header names. -/
def openAt (inArray : Bool) (header : List String) (entries : Entries) : Option Entries :=
  match header.getLast? with
  | some name =>
      changeAt (if inArray then openNext name else openTable name) header.dropLast entries
  | none => none

end Entries

/-- A document, with the header under which keys are added. -/
structure Document where
  entries : Entries := []
  header : List String := []

namespace Document

def add (d : Document) (key : List String) (content : Json) : Option Document :=
  (Entries.changeAt (Entries.addKey key content) d.header d.entries).map fun entries =>
    { d with entries }

def open? (d : Document) (inArray : Bool) (header : List String) : Option Document :=
  (Entries.openAt inArray header d.entries).map fun entries => { entries, header }

def toJson (d : Document) : Json := d.entries.toJson

end Document

end TagRelay.Toml
