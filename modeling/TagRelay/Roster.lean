/-!
# Rosters

A roster lists named things in the order in which their names were first entered.
Entering a name again replaces the thing and keeps its place.
-/

namespace TagRelay

abbrev Roster (α : Type) := List (String × α)

namespace Roster

variable {α : Type}

def enter (name : String) (item : α) : Roster α → Roster α
  | [] => [(name, item)]
  | (other, old) :: rest =>
      if other = name then (name, item) :: rest else (other, old) :: enter name item rest

def ofList (entries : List (String × α)) : Roster α :=
  entries.foldl (fun roster (name, item) => enter name item roster) []

def find? (name : String) : Roster α → Option α
  | [] => none
  | (other, item) :: rest => if other = name then some item else find? name rest

def erase (name : String) (roster : Roster α) : Roster α :=
  roster.filter fun (other, _) => other ≠ name

/-- The things in their order. -/
def items (roster : Roster α) : List α := roster.map Prod.snd

end Roster

end TagRelay
