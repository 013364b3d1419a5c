/-
# CompilerFeedback.CommandLine -- the program

The program reads one output file and reports its diagnostics on its standard
output, plain or as JSON.  It ends with 0, with 1 if the output file cannot be
read, and with 2 if its arguments are refused; the reason goes to the error
output, and so do the notes of the parser if they are asked for.  It breaks off where
the path of its output file stands for no path from the root, and where a base directory
is needed that cannot be had.

* `CommandLine.run` is the whole program but for its access to files: `read`
  gives the content of the file at a path.
* `run_congr`: of all files the program reads its target at most.
-/
import CompilerFeedback.CommandLine.Arguments
import CompilerFeedback.Journal
import CompilerFeedback.OutputFile.Load
import CompilerFeedback.Report

namespace CompilerFeedback.CommandLine

set_option autoImplicit false

/-! ## Texts -/

/-- How the program is called. -/
def usage : Text :=
  "usage: ghcidlog [-h] [-b BASE_DIR] [--json] [--debug] output\n".toList

/-- What the program does and which options it has. -/
def helpText : Text :=
  usage ++ Text.join ['\n'] (List.map String.toList
    ["",
      "Parse a ghcid output file into diagnostics",
      "",
      "positional arguments:",
      "  output                File written by ghcid --outputfile",
      "",
      "options:",
      "  -h, --help            show this help message and exit",
      "  -b BASE_DIR, --base-dir BASE_DIR",
      "                        Directory relative paths resolve against (default: the",
      "                        output file's directory)",
      "  --json                Print grouped diagnostics as JSON",
      "  --debug               Enable debug logging on stderr",
      ""])

/-! ## Running -/

/-- Why a run breaks off. -/
inductive Fault where
  /-- The path of the output file stands for no path from the root. -/
  | unlocated (obstacle : Host.Obstacle)
  /-- The output file was refused before the system was asked for it. -/
  | unread (fault : FileSystem.Fault)
  /-- A diagnostic depends on the base directory, and there is none. -/
  | noDirectory
  deriving DecidableEq, Repr

/-- The wording of a fault. -/
def Fault.message : Fault → Text
  | .unlocated obstacle => obstacle.message
  | .unread fault => fault.message
  | .noDirectory => "no directory to resolve relative paths in".toList

/-- How a run ends. -/
inductive Ending where
  /-- It comes to its end, with an exit code. -/
  | exit (code : Nat)
  /-- It breaks off. -/
  | broken (fault : Fault)
  deriving DecidableEq, Repr

/-- What a run leaves behind. -/
structure Outcome where
  ending : Ending
  output : Text
  errors : Text
  deriving DecidableEq, Repr

/-- The outcome when the arguments are refused. -/
def refuse (refused : Usage) : Outcome :=
  ⟨.exit 2, [], usage ++ "ghcidlog: error: ".toList ++ refused.message ++ ['\n']⟩

/-- The outcome when the output file cannot be read. -/
def fail (error : OutputFile.Error) : Outcome :=
  ⟨.exit 1, [], "ghcidlog: ".toList ++ error.render ++ ['\n']⟩

/-- Remarks of the parser as they go to the error output, if they are asked for. -/
def notes (time : Text) (debug : Bool) (remarks : List Text) : Text :=
  if debug then Journal.initial.enableDebug.writeNotes (.ofTime time) Journal.parserName remarks
  else []

/-- The report on a file that was read. -/
def report (time : Text) (json debug : Bool) (base : Option Text) (file : OutputFile.Loaded) :
    Outcome :=
  let groups := file.groups base
  ⟨.exit 0, if json then Report.json groups else Report.plain groups,
    notes time debug (Feedback.remarks (file.base base) file.text)⟩

/-- The outcome when a diagnostic of the file depends on the base directory, and there
is none. -/
def breakOff (time : Text) (debug : Bool) (file : OutputFile.Loaded) : Outcome :=
  ⟨.broken .noDirectory, [], notes time debug (Feedback.remarksWithoutBase file.text)⟩

/-- The report on a file that was read, if its base directory can be had. -/
def reportIn (time : Text) (json debug : Bool) (file : OutputFile.Loaded) : Base → Outcome
  | .beside => report time json debug none file
  | .directory path => report time json debug (some path) file
  | .nowhere =>
      if Feedback.needsBase file.text then breakOff time debug file
      else report time json debug (some []) file

/-- The file that the program is asked to read, if it gets that far. -/
def target? (edition : Edition) (host : Host) (arguments : List Text) : Option Path :=
  match interpret edition arguments with
  | .ok (.report output _ _ _) => (OutputFile.locate host output).toOption
  | _ => none

/-- The program, where `read` reads files and `time` is the time of its notes. -/
def run (edition : Edition) (host : Host) (read : Path → Except FileSystem.Fault Bytes)
    (time : Text) (arguments : List Text) : Outcome :=
  match interpret edition arguments with
  | .error refused => refuse refused
  | .ok .help => ⟨.exit 0, helpText, []⟩
  | .ok (.report output base json debug) =>
      match OutputFile.load host read output with
      | .error (.unlocated obstacle) => ⟨.broken (.unlocated obstacle), [], []⟩
      | .error (.unread (.broken fault)) => ⟨.broken (.unread fault), [], []⟩
      | .error (.unread (.reported error)) => fail error
      | .ok file => reportIn time json debug file base

/-- The program reads no other file than its target, so two readers that agree there
give one outcome. -/
theorem run_congr {edition : Edition} {host : Host}
    {read other : Path → Except FileSystem.Fault Bytes} {arguments : List Text}
    (agree : ∀ path, target? edition host arguments = some path → read path = other path)
    (time : Text) : run edition host read time arguments = run edition host other time arguments := by
  unfold run
  unfold target? at agree
  cases asked : interpret edition arguments with
  | error refused => rfl
  | ok order =>
      cases order with
      | help => rfl
      | report output base json debug =>
          simp only [asked] at agree
          have loads : OutputFile.load host read output = OutputFile.load host other output := by
            unfold OutputFile.load
            cases found : OutputFile.locate host output with
            | error obstacle => rfl
            | ok path =>
                rw [found] at agree
                simp only [agree path rfl]
          simp only [loads]

end CompilerFeedback.CommandLine
