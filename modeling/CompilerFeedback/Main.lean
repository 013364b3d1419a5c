/-
# CompilerFeedback.Main -- the program on a real host

The surroundings are looked up, the target is read, and what the run leaves behind
is written out.  Everything else is `CommandLine.run`.
-/
import CompilerFeedback.CommandLine
import Std.Time.Format

namespace CompilerFeedback.CommandLine

set_option autoImplicit false

/-- The name and the home directory in a line of the account table. -/
def accountOfLine? (line : String) : Option (Text × Text) :=
  match line.splitOn ":" with
  | [name, _, _, _, _, home, _] => some (name.toList, home.toList)
  | _ => none

/-- The accounts of the host; none where the table cannot be read. -/
def accounts : IO (List (Text × Text)) := do
  match ← (IO.FS.lines "/etc/passwd").toBaseIO with
  | .ok table => return table.toList.filterMap accountOfLine?
  | .error _ => return []

/-- The working directory; none where it was removed. -/
def workingDirectory? : IO (Option Place) := do
  match ← (IO.currentDir).toBaseIO with
  | .ok directory => return some (Path.ofText directory.toString.toList).names
  | .error _ => return none

/-- How many missing directories can be made above one. -/
def levels : Nat := 1000

/-- The surroundings in which the program was started. -/
def surroundings : IO Host := do
  let working ← workingDirectory?
  let home ← IO.getEnv "HOME"
  return ⟨working.getD [], working.isNone, home.map String.toList, ← accounts, levels⟩

/-- Why a file could not be read, as far as it is told apart. -/
def faultOfError : IO.Error → FileSystem.Fault
  | .noFileOrDirectory .. => .notFound
  -- with a name it is the way to the file that fails, without one the file itself
  | .inappropriateType (some _) .. => .notDirectory
  | .inappropriateType none .. => .isDirectory
  | .invalidArgument .. => .nameTooLong
  | .permissionDenied .. => .other "Permission denied".toList
  | error => .other error.toString.toList

/-- The content of a file. -/
def readFile (path : Path) : IO (Except FileSystem.Fault Bytes) := do
  match ← (IO.FS.readBinFile (String.ofList path.render)).toBaseIO with
  | .ok content => return .ok content.toList
  | .error error => return .error (faultOfError error)

/-- The time of day, to the millisecond. -/
def timeNow : IO Text := do
  let now ← Std.Time.DateTime.now
  return (now.format "uuuu-MM-dd HH:mm:ss,SSS").toList

/-- Writes out what a run leaves behind; the result is the exit code. -/
def Outcome.deliver (outcome : Outcome) : IO UInt32 := do
  IO.print (String.ofList outcome.output)
  IO.eprint (String.ofList outcome.errors)
  match outcome.ending with
  | .exit code => return UInt32.ofNat code
  | .broken fault =>
      IO.eprintln (String.ofList ("ghcidlog: ".toList ++ fault.message))
      return 1

end CompilerFeedback.CommandLine

open CompilerFeedback CompilerFeedback.CommandLine in
/-- Reads the output file named in the arguments and reports its diagnostics. -/
def main (arguments : List String) : IO UInt32 := do
  let arguments := arguments.map String.toList
  let host ← surroundings
  let content ← match target? .current host arguments with
    | none => pure (.error .notFound)
    | some path => readFile path
  (run .current host (fun _ => content) (← timeNow) arguments).deliver
