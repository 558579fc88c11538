import TagRelay.Files.Tree

/-!
# Outlines of file trees

The outline of a tree is the tree with nothing in its files.  Paths are followed through the
outline as through the tree itself, so what exists does not depend on what is in the files.
-/

namespace TagRelay

theorem Roster.find?_map {α β : Type} (f : α → β) (name : String) (roster : Roster α) :
    Roster.find? name (roster.map fun entry => (entry.1, f entry.2)) =
      (roster.find? name).map f := by
  induction roster with
  | nil => rfl
  | cons entry rest ih =>
      rw [List.map_cons, find?, find?]
      split
      · rfl
      · exact ih

namespace FileTree

mutual

/-- What stands where in a tree. -/
def outline : FileTree → FileTree
  | .file _ => .file (.text "")
  | .directory entries => .directory (outlines entries)

def outlines : List (String × FileTree) → List (String × FileTree)
  | [] => []
  | (name, tree) :: rest => (name, tree.outline) :: outlines rest

end

theorem outlines_eq_map (entries : List (String × FileTree)) :
    outlines entries = entries.map fun entry => (entry.1, entry.2.outline) := by
  induction entries with
  | nil => rfl
  | cons entry rest ih => rw [outlines, ih, List.map_cons]

theorem find?_outlines (name : String) (entries : List (String × FileTree)) :
    Roster.find? name (outlines entries) = (Roster.find? name entries).map outline := by
  rw [outlines_eq_map, Roster.find?_map]

namespace Spot

def outline (spot : Spot) : Spot where
  here := spot.here.outline
  above := spot.above.map fun taken => (taken.1, outlines taken.2)

theorem start_outline (tree : FileTree) : start tree.outline = (start tree).outline := by
  cases tree with
  | file content => rfl
  | directory entries =>
      rw [FileTree.outline, start, start, find?_outlines]
      cases Roster.find? workingName entries <;> rfl

theorem root_outline (spot : Spot) : spot.outline.root = spot.root.outline := by
  rw [root, root, outline, List.getLast?_map]
  cases spot.above.getLast? <;> rfl

theorem step_outline (spot : Spot) (next : Path.Step) :
    spot.outline.step next = (spot.step next).map outline := by
  obtain ⟨here, above⟩ := spot
  cases here with
  | file content => rfl
  | directory entries =>
      cases next with
      | root => exact congrArg Except.ok (root_outline ⟨.directory entries, above⟩)
      | stay => rfl
      | up => cases above <;> rfl
      | into name =>
          simp only [step, outline, FileTree.outline, find?_outlines]
          split
          · rfl
          · cases Roster.find? name entries <;> rfl

theorem follow_outline (spot : Spot) (steps : List Path.Step) :
    spot.outline.follow steps = (spot.follow steps).map outline := by
  induction steps generalizing spot with
  | nil => rfl
  | cons next rest ih =>
      rw [follow, follow, List.foldlM_cons, List.foldlM_cons, step_outline]
      cases spot.step next with
      | error cause => rfl
      | ok later => exact ih later

end Spot

theorem at?_outline (tree : FileTree) (path : String) :
    tree.outline.at? path = (tree.at? path).map outline := by
  rw [at?, at?, spotAt, spotAt, Spot.start_outline, Spot.follow_outline]
  cases Path.check path with
  | error cause => rfl
  | ok => cases (Spot.start tree).follow (Path.steps path) <;> rfl

theorem contains_outline (tree : FileTree) : tree.outline.read.contains = tree.read.contains := by
  funext path
  change (tree.outline.at? path).isOk = (tree.at? path).isOk
  rw [at?_outline]
  cases tree.at? path <;> rfl

/-- Trees that differ only in what is in their files have something at the same paths. -/
theorem contains_of_outline_eq {tree other : FileTree} (houtline : tree.outline = other.outline) :
    tree.read.contains = other.read.contains := by
  rw [← contains_outline tree, houtline, contains_outline other]

theorem contains_iff {tree : FileTree} {path : String} :
    tree.read.contains path = true ↔ ∃ found, tree.at? path = .ok found := by
  change (tree.at? path).isOk = true ↔ _
  cases tree.at? path <;> simp [Except.isOk, Except.toBool]

end FileTree

end TagRelay
