import TagRelay.Files.Tree

/-!
# Making files and directories

What is there already is kept when it is of the wanted kind.  A directory is made
together with the missing directories above it.
-/

namespace TagRelay.FileTree

/-- What is left to do where `found` stands and something like `fresh` is wanted. -/
def settle (fresh found : FileTree) : Except FileError Unit :=
  match fresh, found with
  | .directory _, .directory _ => .ok ()
  | .file _, .file _ => .ok ()
  | .directory _, .file _ => .error .alreadyThere
  | .file _, .directory _ => .error .isDirectory

/-- Makes one thing, `fresh`, at the end of some steps, where all that is above it has to
be there. -/
def make (fresh : FileTree) (steps : List Path.Step) (tree : FileTree) :
    Except FileError FileTree :=
  match tree.spotAt steps, steps.getLast? with
  | .ok spot, _ => do
      settle fresh spot.here
      return tree
  | .error .notFound, some (.into name) => do
      let spot ← tree.spotAt steps.dropLast
      return (spot.put name fresh).whole
  | .error cause, _ => .error cause

/-- Makes the directory at the end of some steps, given with the last one first, and
those above it, as far as they are missing. -/
def makeAll : List Path.Step → FileTree → Except FileError FileTree
  | [], tree => .ok tree
  | last :: before, tree =>
      match make (.directory []) (last :: before).reverse tree with
      | .error .notFound => do
          make (.directory []) (last :: before).reverse (← makeAll before tree)
      | made => made

/-- Makes the directory at a path.  The path is tried as it stands before and after the
directories above it are made, so one that ends in `.` has to be there. -/
def makeDirectory (path : String) (tree : FileTree) : Except FileError FileTree := do
  if path.isEmpty then return tree
  Path.check path
  let steps := Path.directorySteps path
  match make (.directory []) steps tree with
  | .error .notFound => make (.directory []) steps (← makeAll (Path.above steps) tree)
  | made => made

/-- Makes an empty file at a path, and if that fails tries it again after making the
directories above it. -/
def makeFile (path : String) (tree : FileTree) : Except FileError FileTree := do
  Path.check path
  let steps := Path.steps path
  match make (.file (.text "")) steps tree with
  | .error _ => make (.file (.text "")) steps (← makeAll (Path.above steps) tree)
  | made => made

/-- Makes a file with a content. -/
def write (path content : String) (tree : FileTree) : Except FileError FileTree := do
  let made ← tree.makeFile path
  let spot ← made.spotAt (Path.steps path)
  return { spot with here := .file (.text content) : Spot }.whole

/-- The tree of a list of files and, without content, directories. -/
def ofList (entries : List (String × Option String)) : Except FileError FileTree :=
  entries.foldlM (fun tree (path, content) =>
    match content with
    | some text => tree.write path text
    | none => tree.makeDirectory path) empty

end TagRelay.FileTree
