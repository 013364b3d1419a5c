/-
# CompilerFeedback.Session -- working with output files

A session is a sequence of steps on output files, each known by an identifier, in
one file system.  Other programs may write these files in between.  An identifier
names the file it was last created for.

* `Session.step` is one step, with its answer; `Session.run` are several.
* The notes of a session are those of the output files and of the parser, in order.
-/
import CompilerFeedback.Journal
import CompilerFeedback.OutputFile.Load

namespace CompilerFeedback

set_option autoImplicit false

/-- The state of a session. -/
structure Session where
  files : FileSystem
  handles : List (Text × OutputFile)
  /-- The notes so far: the journal's name and the message. -/
  notes : List (Text × Text)
  deriving Repr

namespace Session

/-- What can be done with an output file that was created. -/
inductive Action where
  | enter
  | exit
  | dispose
  | read
  | diagnostics (base : Text)
  /-- Another program writes the file. -/
  | write (content : Bytes)
  deriving DecidableEq, Repr

/-- One step. -/
inductive Step where
  | create (id storage workspace : Text) (settings : Settings)
  | act (id : Text) (action : Action)
  | parseFile (path : Text) (base : Option Text)
  deriving DecidableEq, Repr

/-- The answer to a step. -/
inductive Answer where
  | done
  | entered
  | created (file : OutputFile)
  | text (t : Text)
  | groups (l : List Group)
  deriving DecidableEq, Repr

/-- Why a step fails. -/
inductive Fault where
  | unknownHandle (id : Text)
  | outputFile (error : OutputFile.Error)
  /-- An operation on an output file breaks off. -/
  | broken (fault : FileSystem.Fault)
  /-- A path that the user names stands for no path from the root. -/
  | unlocated (obstacle : Host.Obstacle)
  /-- A change by another program fails. -/
  | system (fault : FileSystem.Fault)
  deriving DecidableEq, Repr

/-- A failure of an operation on an output file. -/
def Fault.ofFailure : OutputFile.Failure → Fault
  | .reported error => .outputFile error
  | .broken fault => .broken fault

/-- A fault of reading a file that the user names. -/
def Fault.ofLoad : OutputFile.LoadFault → Fault
  | .unlocated obstacle => .unlocated obstacle
  | .unread failure => .ofFailure failure

/-- The session with more notes under one name. -/
def note (s : Session) (name : Text) (messages : List Text) : Session :=
  { s with notes := s.notes ++ messages.map fun message => (name, message) }

/-- The session after a change of the files that another program makes. -/
def change (s : Session) (outcome : FileSystem × Option FileSystem.Fault) :
    Session × Except Fault Answer :=
  match outcome with
  | (files, none) => ({ s with files }, .ok .done)
  | (files, some fault) => ({ s with files }, .error (.system fault))

/-- Disposes of an output file. -/
def disposeOf (s : Session) (working : Place) (file : OutputFile) :
    Session × Except Fault Answer :=
  match OutputFile.dispose s.files working file with
  | (files, .error failure) => ({ s with files }, .error (.ofFailure failure))
  | (files, .ok true) =>
      (note { s with files } Journal.outputFileName [OutputFile.removedRemark file], .ok .done)
  | (files, .ok false) => ({ s with files }, .ok .done)

/-- The answer to parsing a text, with the parser's notes. -/
def parsed (s : Session) (base text : Text) : Session × Except Fault Answer :=
  (s.note Journal.parserName (Feedback.remarks base text), .ok (.groups (Feedback.groups base text)))

/-- One action on an output file. -/
def act (s : Session) (working : Place) (file : OutputFile) : Action → Session × Except Fault Answer
  | .enter => (s, .ok .entered)
  | .exit | .dispose => s.disposeOf working file
  | .read =>
      match OutputFile.readText s.files working file with
      | .ok text => (s, .ok (.text text))
      | .error failure => (s, .error (.ofFailure failure))
  | .diagnostics base =>
      match OutputFile.readText s.files working file with
      | .ok text => s.parsed base text
      | .error failure => (s, .error (.ofFailure failure))
  | .write content =>
      -- the other program makes whatever directories are missing
      s.change (s.files.writeAnywhere working file.path.names.length file.path content)

/-- One step. -/
def step (host : Host) (s : Session) : Step → Session × Except Fault Answer
  | .create id storage workspace settings =>
      match OutputFile.create s.files host.working host.levels settings storage workspace with
      | (files, .error failure) => ({ s with files }, .error (.ofFailure failure))
      | (files, .ok file) =>
          (note { s with files, handles := (id, file) :: s.handles } Journal.outputFileName
            [OutputFile.createdRemark file], .ok (.created file))
  | .act id action =>
      match s.handles.lookup id with
      | none => (s, .error (.unknownHandle id))
      | some file => s.act host.working file action
  | .parseFile path base =>
      match OutputFile.load host (s.files.read host.working) path with
      | .ok file => s.parsed (file.base base) file.text
      | .error fault => (s, .error (.ofLoad fault))

/-- The session after some steps, and the answers. -/
def run (host : Host) (s : Session) : List Step → Session × List (Except Fault Answer)
  | [] => (s, [])
  | step :: steps =>
      let after := s.step host step
      let rest := run host after.1 steps
      (rest.1, after.2 :: rest.2)

/-- What a journal writes of the notes. -/
def writeNotes (s : Session) (j : Journal) (context : Template.Context) : Text :=
  s.notes.flatMap fun note => j.write context ⟨note.1, Journal.debugLevel, note.2⟩

end Session

end CompilerFeedback
