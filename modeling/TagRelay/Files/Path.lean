import TagRelay.Text.Parts

/-!
# Paths

A path is a text of steps with slashes between them.  `.` and an empty step stay where
they are, `..` goes up, every other step goes into what has that name.  A slash in front
leads to the root first; all other paths start from the working directory.
-/

namespace TagRelay

/-- Why nothing can be read or made at a path. -/
inductive FileError where
  | notFound
  | notDirectory
  | isDirectory
  | alreadyThere
  | nameTooLong
  | nulInName
  | denied
  /-- The bytes of the file are no text. -/
  | noText
  deriving Repr, DecidableEq

def FileError.message : FileError → String
  | .notFound => "No such file or directory (os error 2)"
  | .notDirectory => "Not a directory (os error 20)"
  | .isDirectory => "Is a directory (os error 21)"
  | .alreadyThere => "File exists (os error 17)"
  | .nameTooLong => "File name too long (os error 36)"
  | .nulInName => "file name contained an unexpected NUL byte"
  | .denied => "Permission denied (os error 13)"
  | .noText => "stream did not contain valid UTF-8"

namespace Path

/-- One step of a path. -/
inductive Step where
  | root
  | stay
  | up
  | into (name : String)
  deriving Repr, DecidableEq

def Step.ofText (text : List Char) : Step :=
  if text = [] ∨ text = ['.'] then .stay
  else if text = ['.', '.'] then .up
  else .into (String.ofList text)

/-- A path from the root, not from the working directory. -/
def isAbsolute (path : String) : Bool := path.toList.head? = some '/'

/-- The steps between the slashes of a text. -/
def between (text : List Char) : List Step := (Text.pieces '/' text).map Step.ofText

def lead (path : String) : List Step := if isAbsolute path then [.root] else []

def steps (path : String) : List Step := lead path ++ between path.toList

/-- The steps to a directory, for which slashes at the end mean nothing. -/
def directorySteps (path : String) : List Step :=
  lead path ++ between (path.toList.reverse.dropWhile (· = '/')).reverse

/-- The number of bytes from which on a path is too long. -/
def byteLimit : Nat := 4096

/-- The greatest number of bytes in one name. -/
def nameLimit : Nat := 255

/-- What is wrong with a path wherever it leads. -/
def check (path : String) : Except FileError Unit :=
  if path.toList.contains '\x00' then .error .nulInName
  else if byteLimit ≤ path.utf8ByteSize then .error .nameTooLong
  else if path.isEmpty then .error .notFound
  else .ok ()

/-- The path of something inside a directory. -/
def join (directory inner : String) : String :=
  if directory.isEmpty || isAbsolute inner then inner
  else if directory.toList.getLast? = some '/' then directory ++ inner
  else directory ++ "/" ++ inner

/-- The steps to the directory above, the last one first, without those that stay. -/
def above (steps : List Step) : List Step := (steps.filter (· ≠ .stay)).reverse.drop 1

end Path

end TagRelay
