import TagRelay.Config.Basic
import TagRelay.Files.Making

/-!
# Log files

Every day has its own log file in the log directory, named after the service or as the
configuration wants it.
-/

namespace TagRelay.LogFile

/-- Which of the two cannot be made. -/
inductive Failure where
  | directory (cause : FileError)
  | file (cause : FileError)
  deriving Repr, DecidableEq

/-- The name of the file for a date, which may lead into a directory of its own. -/
def name (service : String) (logging : Config.Logging) (date : String) : String :=
  logging.filePrefix.getD service ++ ".log." ++ date

def path (service : String) (logging : Config.Logging) (date : String) : String :=
  Path.join logging.directory (name service logging date)

/-- Makes the log directory and the file for a date in it. -/
def prepare (tree : FileTree) (service : String) (logging : Config.Logging) (date : String) :
    Except Failure FileTree := do
  let tree ← (tree.makeDirectory logging.directory).mapError .directory
  (tree.makeFile (path service logging date)).mapError .file

end TagRelay.LogFile
