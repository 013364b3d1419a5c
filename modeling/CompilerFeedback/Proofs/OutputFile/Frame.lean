/-
# CompilerFeedback.Proofs.OutputFile.Frame -- an output file and everything else

Creating an output file, reading it and disposing of it touch no other file, whatever the
file system holds (`touches_only_its_file`).  That includes the ways in which they fail: a
file or a name too long on the way, a directory in the file's place, a way that leads back
through `..`.  When creating fails, directories that were made on the way stay; when
disposing fails, nothing is changed.

Not every failure is reported as one of the output file.  A null character in the path and
a way with too many missing directories break the operation off (`breaks_off_unreported`).
-/
import CompilerFeedback.Proofs.FileSystem.Frame
import CompilerFeedback.Session

namespace CompilerFeedback.OutputFile

set_option autoImplicit false

open FileSystem (Confined LeadsThrough destination hasNull)

variable {fs after : FileSystem} {working : Place} {file : OutputFile} {levels : Nat}

/-! ## Creating -/

/-- Whether an empty file was put at the end of a path, unless a device is there, with
directories where the leading parts of the path lead, and nothing else was touched. -/
structure Created (working : Place) (path : Path) (fs after : FileSystem) : Prop where
  empty : FileSystem.IsWritten working path [] fs after
  confined : Confined (· = destination working path) (LeadsThrough working path.parent) fs after

/-- Whether nothing was touched, but for directories that were made where the leading parts
of a path lead. -/
def Refused (working : Place) (path : Path) (fs after : FileSystem) : Prop :=
  Confined (fun _ => False) (LeadsThrough working path.parent) fs after

/-- Whether creating a file breaks off: because of a null character in its path, or because
more than `levels` directories are missing above its own, and then none was made. -/
def BrokenOff (levels : Nat) (path : Path) (fs after : FileSystem) (fault : FileSystem.Fault) :
    Prop :=
  fault = .nullCharacter ∧ hasNull path.names = true ∨
    fault = .tooDeep ∧ levels < path.parent.names.length ∧ after = fs

theorem failure_of_system {path : Path} {fault : FileSystem.Fault} (system : fault.isSystem = true)
    (cause : Cause) : Failure.of path fault cause = .reported ⟨path.render, cause⟩ := if_pos system

theorem create_cases (fs : FileSystem) (working : Place) (levels : Nat) (settings : Settings)
    (storage workspace : Text) :
    (∃ after, create fs working levels settings storage workspace =
        (after, .ok ⟨workspace, pathIn settings storage workspace⟩) ∧
        Created working (pathIn settings storage workspace) fs after) ∨
      ∃ after failure, create fs working levels settings storage workspace =
        (after, .error failure) ∧
        Refused working (pathIn settings storage workspace) fs after ∧
        ((∃ fault, failure =
            .reported ⟨(pathIn settings storage workspace).render, .uncreatable fault⟩) ∨
          ∃ fault, failure = .broken fault ∧
            BrokenOff levels (pathIn settings storage workspace) fs after fault) := by
  unfold create
  dsimp only
  rcases fs.writeAnywhere_confined working levels (pathIn settings storage workspace) [] with
    ⟨after, written, empty, confined⟩ | ⟨after, fault, refused, confined⟩
  · rw [written]
    exact Or.inl ⟨after, rfl, empty, confined⟩
  · rw [refused]
    refine Or.inr ⟨after, _, rfl, confined, ?_⟩
    rcases FileSystem.writeAnywhere_fault refused with (system | ⟨rfl, null⟩) | ⟨rfl, few, same⟩
    · exact Or.inl ⟨fault, failure_of_system system _⟩
    · exact Or.inr ⟨_, rfl, Or.inl ⟨rfl, null⟩⟩
    · exact Or.inr ⟨_, rfl, Or.inr ⟨rfl, few, same⟩⟩

/-! ## Disposing -/

/-- Whether nothing is left at the end of a file's path and everything else is as it was; a
file that was not there is no change at all.  Disposing once more changes nothing. -/
structure Disposed (working : Place) (file : OutputFile) (fs after : FileSystem) (there : Bool) :
    Prop where
  gone : after.find working file.path = .error .notFound
  untouched : ∀ place, place ≠ destination working file.path → after.lookup place = fs.lookup place
  unchanged : there = false → after = fs
  again : dispose after working file = (after, .ok false)

theorem dispose_of_notFound (gone : fs.remove working file.path = .error .notFound) :
    dispose fs working file = (fs, .ok false) := by
  unfold dispose
  rw [gone]

theorem dispose_cases (fs : FileSystem) (working : Place) (file : OutputFile) :
    (∃ after there, dispose fs working file = (after, .ok there) ∧
        Disposed working file fs after there) ∨
      ∃ failure, dispose fs working file = (fs, .error failure) ∧
        ((∃ fault, failure = .reported ⟨file.path.render, .unremovable fault⟩) ∨
          failure = .broken .nullCharacter ∧ hasNull file.path.names = true) := by
  cases outcome : fs.remove working file.path with
  | ok after =>
      obtain ⟨untouched, gone⟩ := FileSystem.remove_confined outcome
      have removed : dispose fs working file = (after, .ok true) := by
        unfold dispose
        rw [outcome]
      exact Or.inl ⟨after, true, removed, FileSystem.find_of_remove_notFound gone, untouched,
        by simp, dispose_of_notFound gone⟩
  | error fault =>
      by_cases gone : fault = .notFound
      · rw [gone] at outcome
        have again := dispose_of_notFound outcome
        exact Or.inl ⟨fs, false, again, FileSystem.find_of_remove_notFound outcome,
          fun _ _ => rfl, fun _ => rfl, again⟩
      · have failed : dispose fs working file =
            (fs, .error (.of file.path fault (.unremovable fault))) := by
          unfold dispose
          rw [outcome]
          cases fault <;> first | rfl | exact absurd rfl gone
        refine Or.inr ⟨_, failed, ?_⟩
        rcases FileSystem.remove_isDue outcome with system | ⟨rfl, null⟩
        · exact Or.inl ⟨fault, failure_of_system system _⟩
        · exact Or.inr ⟨rfl, null⟩

/-! ## Reading, and all three -/

/-- Reading an output file leaves the files of a session as they are. -/
theorem files_act_read (s : Session) (working : Place) (file : OutputFile) :
    (s.act working file .read).1.files = s.files := by
  simp only [Session.act]
  split <;> rfl

theorem files_act_diagnostics (s : Session) (working : Place) (file : OutputFile) (base : Text) :
    (s.act working file (.diagnostics base)).1.files = s.files := by
  simp only [Session.act]
  split <;> rfl

/-- **An output file is created, read and disposed of without touching anything else.**  In
every file system, creating one gives an empty file or opens a device, or it fails; either way
no other file is touched, no directory is taken away, and new ones are only made on the way.
It fails with an error of the output file, or breaks off for one of two reasons.  Disposing of
an output file leaves nothing in its place and everything else as it was, or fails and changes
nothing.  Reading it changes nothing. -/
theorem touches_only_its_file (fs : FileSystem) (working : Place) (levels : Nat)
    (settings : Settings) (storage workspace : Text) (file : OutputFile) :
    ((∃ after, create fs working levels settings storage workspace =
          (after, .ok ⟨workspace, pathIn settings storage workspace⟩) ∧
          Created working (pathIn settings storage workspace) fs after) ∨
        ∃ after failure, create fs working levels settings storage workspace =
          (after, .error failure) ∧
          Refused working (pathIn settings storage workspace) fs after ∧
          ((∃ fault, failure =
              .reported ⟨(pathIn settings storage workspace).render, .uncreatable fault⟩) ∨
            ∃ fault, failure = .broken fault ∧
              BrokenOff levels (pathIn settings storage workspace) fs after fault)) ∧
      ((∃ after there, dispose fs working file = (after, .ok there) ∧
          Disposed working file fs after there) ∨
        ∃ failure, dispose fs working file = (fs, .error failure) ∧
          ((∃ fault, failure = .reported ⟨file.path.render, .unremovable fault⟩) ∨
            failure = .broken .nullCharacter ∧ hasNull file.path.names = true)) ∧
      ∀ s : Session, (s.act working file .read).1.files = s.files ∧
        ∀ base, (s.act working file (.diagnostics base)).1.files = s.files :=
  ⟨create_cases fs working levels settings storage workspace, dispose_cases fs working file,
    fun s => ⟨files_act_read s working file, files_act_diagnostics s working file⟩⟩

/-- Settings under which all workspaces have one output file. -/
def plainName : Settings := ⟨[], "out".toList, [], 0⟩

/-- A storage directory with a null character in its name, and one that is too deep. -/
theorem breaks_off_unreported :
    create ⟨[]⟩ [] 2 plainName ['a', '\x00', 'b'] "one".toList =
        (⟨[]⟩, .error (.broken .nullCharacter)) ∧
      create ⟨[]⟩ [] 2 plainName "a/b/c/d".toList "one".toList =
        (⟨[]⟩, .error (.broken .tooDeep)) := ⟨rfl, rfl⟩

/-- A file is in the way, behind a detour: the directory of the detour stays. -/
example : create ⟨[(["f".toList], .file [65])]⟩ [] 5 plainName "d/../f/x".toList [] =
    (⟨[(["d".toList], .directory), (["f".toList], .file [65])]⟩,
      .error (.reported ⟨"d/../f/x/out".toList, .uncreatable .alreadyExists⟩)) := by rfl

end CompilerFeedback.OutputFile
