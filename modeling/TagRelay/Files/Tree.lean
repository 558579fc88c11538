import TagRelay.Files.Path
import TagRelay.Roster

/-!
# File trees

A tree is the root directory with everything in it.  The working directory stands in
the root and has the empty name: no step has that name, so a path that leaves the
working directory does not find it again.  Paths are followed step by step, and every
step starts from a directory.
-/

namespace TagRelay

/-- What can be found out about paths. -/
structure Files where
  /-- Something stands there, be it a file or a directory. -/
  contains : String → Bool
  /-- The text of the file there, or why it cannot be read. -/
  read : String → Except FileError String

/-- What is in a file. -/
inductive FileContent where
  | text (content : String)
  /-- Bytes that are no text. -/
  | bytes
  /-- Something that may not be read. -/
  | locked

def FileContent.read : FileContent → Except FileError String
  | .text content => .ok content
  | .bytes => .error .noText
  | .locked => .error .denied

inductive FileTree where
  | file (content : FileContent)
  | directory (entries : List (String × FileTree))
  deriving Inhabited

namespace FileTree

/-- A place in a tree: what stands there, and the directories above it, the nearest
first, each as the name taken in it and all of its entries. -/
structure Spot where
  here : FileTree
  above : List (String × Roster FileTree) := []

namespace Spot

/-- The name under which the working directory stands in the root. -/
def workingName : String := ""

/-- The spot from which the paths in a tree start, which is the working directory. -/
def start : FileTree → Spot
  | .directory entries =>
      ⟨(Roster.find? workingName entries).getD (.directory []), [(workingName, entries)]⟩
  | root => ⟨root, []⟩

/-- The spot at the root of the tree around a spot. -/
def root (spot : Spot) : Spot :=
  match spot.above.getLast? with
  | some (_, entries) => ⟨.directory entries, []⟩
  | none => spot

/-- Takes one step. -/
def step (spot : Spot) (next : Path.Step) : Except FileError Spot :=
  match spot.here with
  | .file _ => .error .notDirectory
  | .directory entries =>
      match next with
      | .root => .ok spot.root
      | .stay => .ok spot
      | .up =>
          match spot.above with
          | [] => .ok spot
          | (_, beside) :: further => .ok ⟨.directory beside, further⟩
      | .into name =>
          if Path.nameLimit < name.utf8ByteSize then .error .nameTooLong
          else
            match Roster.find? name entries with
            | some tree => .ok ⟨tree, (name, entries) :: spot.above⟩
            | none => .error .notFound

def follow (spot : Spot) (steps : List Path.Step) : Except FileError Spot :=
  steps.foldlM step spot

/-- The whole tree around a spot, with what stands there now. -/
def whole (spot : Spot) : FileTree :=
  spot.above.foldl
    (fun tree (name, entries) => .directory (Roster.enter name tree entries)) spot.here

/-- Puts something under a name into the directory at a spot. -/
def put (name : String) (tree : FileTree) (spot : Spot) : Spot :=
  match spot.here with
  | .file _ => spot
  | .directory entries => { spot with here := .directory (Roster.enter name tree entries) }

end Spot

/-- A root with a working directory and nothing else. -/
def empty : FileTree := .directory [(Spot.workingName, .directory [])]

/-- The spot to which some steps lead. -/
def spotAt (tree : FileTree) (steps : List Path.Step) : Except FileError Spot :=
  (Spot.start tree).follow steps

/-- What stands at a path. -/
def at? (tree : FileTree) (path : String) : Except FileError FileTree := do
  Path.check path
  return (← tree.spotAt (Path.steps path)).here

def readAt (tree : FileTree) (path : String) : Except FileError String :=
  match tree.at? path with
  | .ok (.file content) => content.read
  | .ok (.directory _) => .error .isDirectory
  | .error cause => .error cause

def read (tree : FileTree) : Files where
  contains path := (tree.at? path).isOk
  read := tree.readAt

/-- The names in the directory at a path, none when there is no such directory. -/
def names (tree : FileTree) (path : String) : List String :=
  match tree.at? path with
  | .ok (.directory entries) => (entries.map Prod.fst).filter (· ≠ Spot.workingName)
  | _ => []

end FileTree

end TagRelay
