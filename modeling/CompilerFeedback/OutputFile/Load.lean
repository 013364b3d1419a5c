/-
# CompilerFeedback.OutputFile.Load -- output files that the user names

The user may name any output file.  Its path may begin at a home directory; it is
made a path from the root before the file is read.  Relative paths inside the file
are read in the directory of the file, unless another one is given.
-/
import CompilerFeedback.OutputFile

namespace CompilerFeedback.OutputFile

set_option autoImplicit false

/-- Why a file that the user names gives no diagnostics. -/
inductive LoadFault where
  /-- The path stands for no path from the root. -/
  | unlocated (obstacle : Host.Obstacle)
  /-- The file cannot be read. -/
  | unread (failure : Failure)
  deriving DecidableEq, Repr

/-- An output file that was read. -/
structure Loaded where
  path : Path
  text : Text
  deriving DecidableEq, Repr

/-- The path from the root that the user's path stands for. -/
def locate (host : Host) (written : Text) : Except Host.Obstacle Path := do
  host.absolute (← host.expand (Path.ofText written))

/-- The file that the user names, where `read` reads files by their path. -/
def load (host : Host) (read : Path → Except FileSystem.Fault Bytes) (written : Text) :
    Except LoadFault Loaded :=
  match locate host written with
  | .error obstacle => .error (.unlocated obstacle)
  | .ok path =>
      match textOrFailure path (read path) with
      | .ok text => .ok ⟨path, text⟩
      | .error failure => .error (.unread failure)

namespace Loaded

/-- The directory in which relative paths are read: the given one, or the file's. -/
def base (file : Loaded) (given : Option Text) : Text := given.getD file.path.parent.render

/-- The diagnostics of the file. -/
def groups (file : Loaded) (given : Option Text) : List Group :=
  Feedback.groups (file.base given) file.text

end Loaded

/-- The diagnostics of the file that the user names. -/
def parse (fs : FileSystem) (host : Host) (written : Text) (given : Option Text) :
    Except LoadFault (List Group) :=
  (load host (fs.read host.working) written).map (·.groups given)

end CompilerFeedback.OutputFile
