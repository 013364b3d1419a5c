/-
# CompilerFeedback.OutputFile -- the output file of a workspace

The feedback tool writes its output to a file that belongs to one workspace.  The
file's name holds a digest of the workspace, so the same workspace always uses
the same file.  Creating the file makes its directory and empties it; disposing
of it removes it, and is no error if it is gone.

* `OutputFile.path` is where the file lies; `create`, `readText` and `dispose` are
  the operations, `readPath` reads any output file.
* `OutputFile.Error` holds the cause of a failure; wording and advice follow from it.
  What the system refuses is reported as such an error.  What is refused before the
  system is asked breaks an operation off (`Failure`).
-/
import CompilerFeedback.Feedback
import CompilerFeedback.Host
import CompilerFeedback.Settings
import CompilerFeedback.Sha256

namespace CompilerFeedback

set_option autoImplicit false

/-- The output file of a workspace. -/
structure OutputFile where
  workspace : Text
  path : Path
  deriving DecidableEq, Repr

namespace OutputFile

/-! ## Failures -/

/-- What could not be done. -/
inductive Cause where
  | missing
  | unreadable (fault : FileSystem.Fault)
  | uncreatable (fault : FileSystem.Fault)
  | unremovable (fault : FileSystem.Fault)
  deriving DecidableEq, Repr

/-- A failure: the file and the cause. -/
structure Error where
  path : Text
  cause : Cause
  deriving DecidableEq, Repr

/-- How an operation on an output file fails. -/
inductive Failure where
  | reported (error : Error)
  /-- The operation breaks off, for the system could not be asked. -/
  | broken (fault : FileSystem.Fault)
  deriving DecidableEq, Repr

/-- The failure of an operation at a path: reported with its cause if it was the system
that refused. -/
def Failure.of (p : Path) (fault : FileSystem.Fault) (cause : Cause) : Failure :=
  if fault.isSystem then .reported ⟨p.render, cause⟩ else .broken fault

/-- What went wrong. -/
def Cause.message : Cause → Text
  | .missing => "output file not found".toList
  | .unreadable fault => "cannot read output file: ".toList ++ fault.message
  | .uncreatable fault => "cannot create output file: ".toList ++ fault.message
  | .unremovable fault => "cannot remove output file: ".toList ++ fault.message

/-- What the user can do about it. -/
def Cause.hint : Cause → Option Text
  | .missing => some "start the feedback tool with --outputfile pointing at this path".toList
  | .uncreatable _ => some "check that the storage directory is writable".toList
  | .unreadable _ | .unremovable _ => none

/-- A failure in words: path and message, and the hint on a line of its own unless it
is empty. -/
def Error.layout (path message : Text) (hint : Option Text) : Text :=
  match hint.getD [] with
  | [] => path ++ ": ".toList ++ message
  | hint => path ++ ": ".toList ++ message ++ "\nhint: ".toList ++ hint

/-- The wording of a failure. -/
def Error.render (e : Error) : Text := layout e.path e.cause.message e.cause.hint

/-! ## Where the file lies -/

/-- The part of the name that depends on the workspace. -/
def key (settings : Settings) (workspace : Text) : Text :=
  Text.upTo settings.hashLength (Sha256.hexDigest workspace)

/-- The name of the file; slashes in the settings make it a path. -/
def nameText (settings : Settings) (workspace : Text) : Text :=
  settings.outputPrefix ++ key settings workspace ++ settings.outputSuffix

/-- The path of the output file of a workspace. -/
def pathIn (settings : Settings) (storage workspace : Text) : Path :=
  (Path.ofText storage).append (Path.ofText (nameText settings workspace))

/-! ## Operations -/

/-- The text of some bytes of an output file. -/
def textOf (content : Bytes) : Text := Text.normalizeNewlines (Text.Utf8.decode content)

/-- The cause of a failure to read. -/
def Cause.ofRead : FileSystem.Fault → Cause
  | .notFound => .missing
  | fault => .unreadable fault

/-- The outcome of reading, with the failure named. -/
def textOrFailure (p : Path) (outcome : Except FileSystem.Fault Bytes) : Except Failure Text :=
  match outcome with
  | .ok content => .ok (textOf content)
  | .error fault => .error (.of p fault (.ofRead fault))

/-- The text of the output file that a path leads to. -/
def readPath (fs : FileSystem) (working : Place) (p : Path) : Except Failure Text :=
  textOrFailure p (fs.read working p)

/-- Makes the output file of a workspace, or empties it, with at most `levels` missing
directories above its own.  Directories that were made stay even if the file is refused. -/
def create (fs : FileSystem) (working : Place) (levels : Nat) (settings : Settings)
    (storage workspace : Text) : FileSystem × Except Failure OutputFile :=
  let path := pathIn settings storage workspace
  match fs.writeAnywhere working levels path [] with
  | (after, none) => (after, .ok ⟨workspace, path⟩)
  | (after, some fault) => (after, .error (.of path fault (.uncreatable fault)))

/-- The text of the output file. -/
def readText (fs : FileSystem) (working : Place) (file : OutputFile) : Except Failure Text :=
  readPath fs working file.path

/-- The diagnostics of the output file. -/
def diagnostics (fs : FileSystem) (working : Place) (file : OutputFile) (base : Text) :
    Except Failure (List Group) :=
  (readText fs working file).map (Feedback.groups base)

/-- Removes the output file; the answer says whether it was still there. -/
def dispose (fs : FileSystem) (working : Place) (file : OutputFile) :
    FileSystem × Except Failure Bool :=
  match fs.remove working file.path with
  | .ok after => (after, .ok true)
  | .error .notFound => (fs, .ok false)
  | .error fault => (fs, .error (.of file.path fault (.unremovable fault)))

/-! ## Remarks for the journal -/

/-- The remark on a file that was created. -/
def createdRemark (file : OutputFile) : Text :=
  "created output file ".toList ++ file.path.render ++ " for ".toList ++ file.workspace

/-- The remark on a file that was removed. -/
def removedRemark (file : OutputFile) : Text := "removed output file ".toList ++ file.path.render

end OutputFile

end CompilerFeedback
