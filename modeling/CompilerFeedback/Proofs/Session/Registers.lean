/-
# CompilerFeedback.Proofs.Session.Registers -- output files as independent registers

The output files of one storage directory behave like registers, one for each key: what is
read is what the last step left that was made for the same key, whatever was done for other
keys, and through however many handles.  `Registers` is that machine.  It knows nothing of
directories and paths; its memory is the list of what was done.

`Tracks` ties a session to the machine: the directories of the storage directory can be
made, or are made, and then every output file is an entry that holds what its register
holds.  A step of the session is a step of the machine (`Tracks.step`), so a run is a run
(`Tracks.run`), and a vacant storage directory is where both begin (`tracks_start`).

One kind of output file falls out.  The path of a storage directory may lead, before a `..`,
through the very place where an output file should lie.  There a directory is made, and the
file is refused ever after (`Storage.Obstructs`).
-/
import CompilerFeedback.Proofs.OutputFile.Name
import CompilerFeedback.Session

namespace CompilerFeedback

set_option autoImplicit false

open FileSystem (destination IsEntry LeadsThrough)

/-! ## A storage directory in use -/

/-- A storage directory: the host that it is on, its path as it is written, and the settings
of its output files. -/
structure Storage where
  host : Host
  path : Text
  settings : Settings

namespace Storage

/-- The output file of a workspace. -/
def file (store : Storage) (workspace : Text) : OutputFile :=
  ⟨workspace, OutputFile.pathIn store.settings store.path workspace⟩

/-- What the name of an output file has of its workspace. -/
def key (store : Storage) (workspace : Text) : Text := OutputFile.key store.settings workspace

/-- The place where an output file lies. -/
def place (store : Storage) (workspace : Text) : Place :=
  destination store.host.working (store.file workspace).path

/-- Whether the way to an output file leads through the place where the file should lie. -/
def Obstructs (store : Storage) (workspace : Text) : Prop :=
  LeadsThrough store.host.working (store.file workspace).path.parent (store.place workspace)

instance (store : Storage) (workspace : Text) : Decidable (store.Obstructs workspace) :=
  inferInstanceAs (Decidable (LeadsThrough _ _ _))

/-- One thing that is done with the output files of a storage directory. -/
inductive Use where
  | create (id workspace : Text)
  | act (id : Text) (action : Session.Action)
  deriving DecidableEq, Repr

/-- A use as a step of a session. -/
def Use.step (store : Storage) : Use → Session.Step
  | .create id workspace => .create id store.path workspace store.settings
  | .act id action => .act id action

end Storage

/-! ## The machine -/

/-- Registers, one for each key. -/
structure Registers where
  /-- For which workspace a handle was last made. -/
  owners : List (Text × Text)
  /-- What was done, the latest first: to which register, and what it held afterwards. -/
  effects : List (Text × Option Bytes)

namespace Registers

/-- Nothing was done. -/
def empty : Registers := ⟨[], []⟩

/-- What a register holds: what the latest step that was done to it left there. -/
def content (r : Registers) (key : Text) : Option Bytes := (r.effects.lookup key).join

/-- The registers after a step that leaves `content` in one of them. -/
def leave (r : Registers) (key : Text) (content : Option Bytes) : Registers :=
  { r with effects := (key, content) :: r.effects }

/-- The text that is read from the register of a workspace. -/
def read (store : Storage) (r : Registers) (workspace : Text) : Except Session.Fault Text :=
  match r.content (store.key workspace) with
  | some bytes => .ok (OutputFile.textOf bytes)
  | none => .error (.outputFile ⟨(store.file workspace).path.render, .missing⟩)

/-- One action on the register of a workspace. -/
def act (store : Storage) (r : Registers) (workspace : Text) :
    Session.Action → Registers × Except Session.Fault Session.Answer
  | .enter => (r, .ok .entered)
  | .exit | .dispose => (r.leave (store.key workspace) none, .ok .done)
  | .read => (r, (r.read store workspace).map .text)
  | .diagnostics base => (r, (r.read store workspace).map fun t => .groups (Feedback.groups base t))
  | .write bytes => (r.leave (store.key workspace) (some bytes), .ok .done)

/-- One use. -/
def step (store : Storage) (r : Registers) :
    Storage.Use → Registers × Except Session.Fault Session.Answer
  | .create id workspace =>
      if store.Obstructs workspace then
        (r, .error (.outputFile
          ⟨(store.file workspace).path.render, .uncreatable .isDirectory⟩))
      else
        ({ r.leave (store.key workspace) (some []) with owners := (id, workspace) :: r.owners },
          .ok (.created (store.file workspace)))
  | .act id action =>
      match r.owners.lookup id with
      | none => (r, .error (.unknownHandle id))
      | some workspace => r.act store workspace action

/-- The answers to some uses. -/
def answers (store : Storage) (r : Registers) :
    List Storage.Use → List (Except Session.Fault Session.Answer)
  | [] => []
  | use :: uses => (r.step store use).2 :: answers store (r.step store use).1 uses

theorem content_leave (r : Registers) (key other : Text) (content : Option Bytes) :
    (r.leave key content).content other = if other = key then content else r.content other := by
  unfold Registers.content leave
  by_cases same : other = key
  · rw [if_pos same, same, List.lookup_cons_self]
    rfl
  · rw [if_neg same, List.lookup_cons, beq_eq_false_iff_ne.mpr same]

end Registers

/-! ## The files that hold the registers -/

/-- Whether the output files are there, and hold what the registers hold. -/
structure Holds (store : Storage) (files : FileSystem) (r : Registers) : Prop where
  entry : ∀ workspace, IsEntry files store.host.working (store.file workspace).path
  content : ∀ workspace, files.lookup (store.place workspace) =
    if store.Obstructs workspace then some .directory
    else (r.content (store.key workspace)).map .file

namespace Holds

variable {store : Storage} {files : FileSystem} {r : Registers} {workspace : Text}

theorem place_eq_iff (plain : OutputFile.IsPlain store.settings) (holds : Holds store files r)
    (other : Text) :
    store.place other = store.place workspace ↔ store.key other = store.key workspace :=
  OutputFile.destination_pathIn_eq_iff plain holds.entry

theorem obstructs_iff_of_key {other : Text} (same : store.key other = store.key workspace) :
    store.Obstructs other ↔ store.Obstructs workspace := by
  have files : (store.file other).path = (store.file workspace).path := OutputFile.pathIn_eq_of_key same
  unfold Storage.Obstructs Storage.place
  rw [files]

theorem lookup (holds : Holds store files r) (clear : ¬ store.Obstructs workspace) :
    files.lookup (store.place workspace) = (r.content (store.key workspace)).map .file := by
  rw [holds.content workspace, if_neg clear]

theorem free (holds : Holds store files r) (clear : ¬ store.Obstructs workspace) :
    files.lookup (store.place workspace) = none ∨
      ∃ old, files.lookup (store.place workspace) = some (.file old) := by
  rw [holds.lookup clear]
  cases r.content (store.key workspace) <;> simp

theorem ne_directory (holds : Holds store files r) (clear : ¬ store.Obstructs workspace) :
    files.lookup (store.place workspace) ≠ some .directory := by
  rw [holds.lookup clear]
  cases r.content (store.key workspace) <;> simp

theorem place_ne_nil (holds : Holds store files r) : store.place workspace ≠ [] :=
  (holds.entry workspace).destination_ne_nil

/-- A change of one output file is a change of its register. -/
theorem change (plain : OutputFile.IsPlain store.settings) (holds : Holds store files r)
    (clear : ¬ store.Obstructs workspace) {after : FileSystem} {content : Option Bytes}
    (keeps : FileSystem.KeepsDirectories files after)
    (changed : ∀ place, after.lookup place =
      if place = store.place workspace then content.map .file else files.lookup place) :
    Holds store after (r.leave (store.key workspace) content) := by
  refine ⟨fun other => (holds.entry other).mono keeps, fun other => ?_⟩
  rw [changed, Registers.content_leave]
  by_cases same : store.key other = store.key workspace
  · rw [if_pos ((holds.place_eq_iff plain other).mpr same), if_pos same,
      if_neg ((obstructs_iff_of_key same).not.mpr clear)]
  · rw [if_neg ((holds.place_eq_iff plain other).not.mpr same), if_neg same]
    exact holds.content other

theorem put (plain : OutputFile.IsPlain store.settings) (holds : Holds store files r)
    (clear : ¬ store.Obstructs workspace) (bytes : Bytes) :
    Holds store (files.put (store.place workspace) (.file bytes))
      (r.leave (store.key workspace) (some bytes)) :=
  holds.change plain clear (FileSystem.keepsDirectories_put (holds.ne_directory clear) _)
    fun place => FileSystem.lookup_put files _ place _ holds.place_ne_nil

theorem erase (plain : OutputFile.IsPlain store.settings) (holds : Holds store files r)
    (clear : ¬ store.Obstructs workspace) :
    Holds store (files.erase (store.place workspace)) (r.leave (store.key workspace) none) :=
  holds.change plain clear (FileSystem.keepsDirectories_erase (holds.ne_directory clear))
    fun place => FileSystem.lookup_erase files _ place holds.place_ne_nil

/-- A register that holds nothing is cleared without a change of the files. -/
theorem keep (plain : OutputFile.IsPlain store.settings) (holds : Holds store files r)
    (clear : ¬ store.Obstructs workspace) (gone : r.content (store.key workspace) = none) :
    Holds store files (r.leave (store.key workspace) none) := by
  refine holds.change plain clear (fun _ there => there) fun place => ?_
  split
  · rename_i here
    rw [here, holds.lookup clear, gone]
  · rfl

/-! What the operations on an output file do, as far as they depend on its register. -/

theorem ensureDirectory (holds : Holds store files r) (levels : Nat) :
    files.ensureDirectory store.host.working levels (store.file workspace).path.parent =
      (files, none) :=
  FileSystem.ensureDirectory_of_found (holds.entry workspace).directory levels

theorem writeAnywhere (holds : Holds store files r) (clear : ¬ store.Obstructs workspace)
    (levels : Nat) (bytes : Bytes) :
    files.writeAnywhere store.host.working levels (store.file workspace).path bytes =
      (files.put (store.place workspace) (.file bytes), none) :=
  FileSystem.writeAnywhere_of_free (holds.ensureDirectory levels) (holds.entry workspace)
    (holds.free clear)

theorem create_of_clear {fs : FileSystem}
    (ensured : fs.ensureDirectory store.host.working store.host.levels
      (store.file workspace).path.parent = (files, none))
    (holds : Holds store files r) (clear : ¬ store.Obstructs workspace) :
    OutputFile.create fs store.host.working store.host.levels store.settings store.path workspace =
      (files.put (store.place workspace) (.file []), .ok (store.file workspace)) :=
  OutputFile.create_of_isEntry ensured (holds.entry workspace) (holds.free clear)

theorem create_of_obstructs {fs : FileSystem}
    (ensured : fs.ensureDirectory store.host.working store.host.levels
      (store.file workspace).path.parent = (files, none))
    (holds : Holds store files r) (obstructs : store.Obstructs workspace) :
    OutputFile.create fs store.host.working store.host.levels store.settings store.path workspace =
      (files, .error
        (.reported ⟨(store.file workspace).path.render, .uncreatable .isDirectory⟩)) := by
  have taken := holds.content workspace
  rw [if_pos obstructs] at taken
  have refused : fs.writeAnywhere store.host.working store.host.levels
      (OutputFile.pathIn store.settings store.path workspace) [] = (files, some .isDirectory) :=
    FileSystem.writeAnywhere_of_directory ensured (holds.entry workspace) taken
  unfold OutputFile.create
  dsimp only
  rw [refused]
  rfl

theorem readText (holds : Holds store files r) (clear : ¬ store.Obstructs workspace) :
    OutputFile.readText files store.host.working (store.file workspace) =
      match r.content (store.key workspace) with
      | some bytes => .ok (OutputFile.textOf bytes)
      | none => .error (.reported ⟨(store.file workspace).path.render, .missing⟩) := by
  have there := holds.lookup clear
  unfold Storage.place at there
  unfold OutputFile.readText OutputFile.readPath
  rw [FileSystem.read_of_isEntry (holds.entry workspace), there]
  cases r.content (store.key workspace) <;> rfl

theorem dispose (holds : Holds store files r) (clear : ¬ store.Obstructs workspace) :
    OutputFile.dispose files store.host.working (store.file workspace) =
      match r.content (store.key workspace) with
      | some _ => (files.erase (store.place workspace), .ok true)
      | none => (files, .ok false) := by
  have there := holds.lookup clear
  unfold Storage.place at there
  unfold OutputFile.dispose
  rw [FileSystem.remove_of_isEntry (holds.entry workspace), there]
  cases r.content (store.key workspace) <;> rfl

end Holds

/-! ## A step of a session is a step of the machine -/

/-- Whether a session is where the registers are.  Until a file is created, the directories
need not be there, but they can be made. -/
structure Tracks (store : Storage) (s : Session) (r : Registers) : Prop where
  handles : s.handles = r.owners.map fun owner => (owner.1, store.file owner.2)
  clear : ∀ owner ∈ r.owners, ¬ store.Obstructs owner.2
  files : ∃ made, (∀ workspace, s.files.ensureDirectory store.host.working store.host.levels
      (store.file workspace).path.parent = (made, none)) ∧
    Holds store made r ∧ (r.owners ≠ [] → s.files = made)

namespace Tracks

variable {store : Storage} {s : Session} {r : Registers} {id workspace : Text}

theorem lookup (tracks : Tracks store s r) (id : Text) :
    s.handles.lookup id = (r.owners.lookup id).map store.file := by
  rw [tracks.handles]
  induction r.owners with
  | nil => rfl
  | cons owner owners ih =>
      rw [List.map_cons, List.lookup_cons, List.lookup_cons, ih]
      cases id == owner.1 <;> rfl

/-- A handle belongs to an output file that could be created. -/
theorem clear_of_lookup (tracks : Tracks store s r) (owned : r.owners.lookup id = some workspace) :
    ¬ store.Obstructs workspace := by
  obtain ⟨_, _, split, -⟩ := List.lookup_eq_some_iff.mp owned
  exact tracks.clear (id, workspace) (by simp [split])

theorem holds (tracks : Tracks store s r) (owned : r.owners.lookup id = some workspace) :
    Holds store s.files r := by
  obtain ⟨made, -, holds, settled⟩ := tracks.files
  rw [settled]
  · exact holds
  · intro empty
    rw [empty] at owned
    cases owned

/-- After a change of the files to what the registers hold now. -/
theorem settle (tracks : Tracks store s r) {after : Session} {r' : Registers}
    (sameHandles : after.handles = s.handles) (sameOwners : r'.owners = r.owners)
    (holds : Holds store after.files r') : Tracks store after r' := by
  refine ⟨?_, ?_, after.files, fun _ => holds.ensureDirectory _, holds, fun _ => rfl⟩
  · rw [sameHandles, sameOwners, tracks.handles]
  · rw [sameOwners]
    exact tracks.clear

/-- Disposing of an output file clears its register, whether or not the file is there. -/
theorem disposeOf (plain : OutputFile.IsPlain store.settings) (tracks : Tracks store s r)
    (owned : r.owners.lookup id = some workspace) :
    Tracks store (s.disposeOf store.host.working (store.file workspace)).1
        (r.leave (store.key workspace) none) ∧
      (s.disposeOf store.host.working (store.file workspace)).2 = .ok .done := by
  have holds := tracks.holds owned
  have clear := tracks.clear_of_lookup owned
  unfold Session.disposeOf
  rw [holds.dispose clear]
  cases held : r.content (store.key workspace) with
  | none => exact ⟨tracks.settle rfl rfl (holds.keep plain clear held), rfl⟩
  | some bytes => exact ⟨tracks.settle rfl rfl (holds.erase plain clear), rfl⟩

/-- An action on an output file is an action on its register. -/
theorem act (plain : OutputFile.IsPlain store.settings) (tracks : Tracks store s r)
    (owned : r.owners.lookup id = some workspace) (action : Session.Action) :
    Tracks store (s.act store.host.working (store.file workspace) action).1
        (r.act store workspace action).1 ∧
      (s.act store.host.working (store.file workspace) action).2 = (r.act store workspace action).2 := by
  have holds := tracks.holds owned
  have clear := tracks.clear_of_lookup owned
  cases action with
  | enter => exact ⟨tracks, rfl⟩
  | exit => exact tracks.disposeOf plain owned
  | dispose => exact tracks.disposeOf plain owned
  | read =>
      unfold Session.act Registers.act Registers.read
      rw [holds.readText clear]
      cases r.content (store.key workspace) with
      | none => exact ⟨tracks, rfl⟩
      | some bytes => exact ⟨tracks, rfl⟩
  | diagnostics base =>
      unfold Session.act Registers.act Registers.read
      rw [holds.readText clear]
      cases r.content (store.key workspace) with
      | none => exact ⟨tracks, rfl⟩
      | some bytes => exact ⟨tracks.settle rfl rfl holds, rfl⟩
  | write bytes =>
      unfold Session.act
      dsimp only
      rw [holds.writeAnywhere clear _]
      exact ⟨tracks.settle rfl rfl (holds.put plain clear bytes), rfl⟩

/-- Creating an output file empties its register, unless the file is refused. -/
theorem create (plain : OutputFile.IsPlain store.settings) (tracks : Tracks store s r)
    (id workspace : Text) :
    Tracks store (s.step store.host ((Storage.Use.create id workspace).step store)).1
        (r.step store (.create id workspace)).1 ∧
      (s.step store.host ((Storage.Use.create id workspace).step store)).2 =
        (r.step store (.create id workspace)).2 := by
  obtain ⟨made, ensured, holds, -⟩ := tracks.files
  unfold Storage.Use.step Session.step Registers.step
  dsimp only
  by_cases obstructs : store.Obstructs workspace
  · rw [holds.create_of_obstructs (ensured workspace) obstructs, if_pos obstructs]
    exact ⟨tracks.settle rfl rfl holds, rfl⟩
  · rw [holds.create_of_clear (ensured workspace) obstructs, if_neg obstructs]
    have emptied := holds.put plain obstructs []
    refine ⟨⟨?_, ?_, _, fun _ => emptied.ensureDirectory _, ⟨emptied.entry, emptied.content⟩,
      fun _ => rfl⟩, rfl⟩
    · exact congrArg ((id, store.file workspace) :: ·) tracks.handles
    · intro owner member
      rcases List.mem_cons.mp member with rfl | earlier
      · exact obstructs
      · exact tracks.clear owner earlier

theorem step (plain : OutputFile.IsPlain store.settings) (tracks : Tracks store s r)
    (use : Storage.Use) :
    Tracks store (s.step store.host (use.step store)).1 (r.step store use).1 ∧
      (s.step store.host (use.step store)).2 = (r.step store use).2 := by
  cases use with
  | create id workspace => exact tracks.create plain id workspace
  | act id action =>
      unfold Storage.Use.step Session.step Registers.step
      dsimp only
      rw [tracks.lookup id]
      cases owned : r.owners.lookup id with
      | none => exact ⟨tracks, rfl⟩
      | some workspace => exact tracks.act plain owned action

/-- **A run of the session answers as the machine does.** -/
theorem run (plain : OutputFile.IsPlain store.settings) (tracks : Tracks store s r)
    (uses : List Storage.Use) :
    (s.run store.host (uses.map (·.step store))).2 = r.answers store uses := by
  induction uses generalizing s r with
  | nil => rfl
  | cons use uses ih =>
      obtain ⟨next, answer⟩ := tracks.step plain use
      rw [List.map_cons, Session.run, Registers.answers, answer, ih next]

end Tracks

/-! ## Where a run begins -/

variable {store : Storage} {fs : FileSystem}

/-- **In a vacant storage directory where some output file can be created, nothing was done
yet to any register.** -/
theorem tracks_start (plain : OutputFile.IsPlain store.settings)
    (vacant : fs.IsVacant (destination store.host.working (Path.ofText store.path)))
    (creates : ∃ workspace, (OutputFile.create fs store.host.working store.host.levels
      store.settings store.path workspace).2.isOk = true) (notes : List (Text × Text)) :
    Tracks store ⟨fs, [], notes⟩ .empty := by
  obtain ⟨first, created⟩ := creates
  obtain ⟨made, ensured, entry, _, taken, -⟩ := OutputFile.written_of_create created
  have free := FileSystem.ne_directory_of_overwrite taken
  have parents : ∀ workspace, (store.file workspace).path.parent = (store.file first).path.parent :=
    fun workspace => OutputFile.parent_pathIn_eq plain store.path workspace first
  have entries : ∀ workspace, IsEntry made store.host.working (store.file workspace).path :=
    fun _ => OutputFile.isEntry_pathIn plain entry
  have grown := FileSystem.ensureDirectory_grown fs store.host.working store.host.levels
    (store.file first).path.parent
  have whole : (fs.ensureDirectory store.host.working store.host.levels
      (store.file first).path.parent).1 = made :=
    congrArg Prod.fst ensured
  rw [whole] at grown
  refine ⟨rfl, fun _ owns => absurd owns List.not_mem_nil, made, fun workspace => ?_,
    ⟨entries, fun workspace => ?_⟩, fun owned => absurd rfl owned⟩
  · rw [parents workspace]
    exact ensured
  · by_cases obstructs : store.Obstructs workspace
    · rw [if_pos obstructs]
      obtain ⟨part, leads, here⟩ := obstructs
      rw [here]
      exact FileSystem.lookup_of_find_directory (entries workspace).directory leads
    · rw [if_neg obstructs]
      rcases grown (store.place workspace) with same | ⟨-, -, onWay⟩
      · rw [same]
        exact OutputFile.lookup_destination_pathIn plain vacant grown entries free
      · rw [← parents workspace] at onWay
        exact absurd onWay obstructs

namespace Storage

/-- **The output files of a storage directory are independent registers.**  Let the storage
directory be vacant, and let some output file be creatable there.  Then every run of uses
answers as the registers do: a read gives what the last step left that was made for the same
key, through whatever handle, and no creation, entry, exit, write or disposal fails, but for
the creation of a file whose way leads through its own place. -/
theorem answers_run (store : Storage) (fs : FileSystem) (notes : List (Text × Text))
    (plain : OutputFile.IsPlain store.settings)
    (vacant : fs.IsVacant (destination store.host.working (Path.ofText store.path)))
    (creates : ∃ workspace, (OutputFile.create fs store.host.working store.host.levels
      store.settings store.path workspace).2.isOk = true) (uses : List Use) :
    (Session.run store.host ⟨fs, [], notes⟩ (uses.map (·.step store))).2 =
      Registers.answers store .empty uses := by
  have start : Tracks store ⟨fs, [], notes⟩ .empty := tracks_start plain vacant creates notes
  exact start.run plain uses

/-- An empty directory, which a path leads to by a detour. -/
def sharedFiles : FileSystem := ⟨[(["s".toList], .directory)]⟩

def shared : Storage := ⟨⟨[], false, none, [], 3⟩, "a/../s//.".toList, .standard⟩

/-- Three handles on two output files. -/
def sharedUses : List Use :=
  [.create ['x'] "one".toList, .create ['y'] "two".toList, .create ['z'] "one".toList,
    .act ['x'] (.write [13, 10, 195]), .act ['y'] .exit, .act ['z'] .read, .act ['y'] .read,
    .act ['z'] .dispose, .act ['x'] (.diagnostics ['/']), .act ['x'] .dispose]

theorem answers_run_shared : OutputFile.IsPlain shared.settings ∧
    sharedFiles.IsVacant (destination shared.host.working (Path.ofText shared.path)) ∧
    (∃ workspace, (OutputFile.create sharedFiles shared.host.working shared.host.levels
      shared.settings shared.path workspace).2.isOk = true) ∧
    (Session.run shared.host ⟨sharedFiles, [], []⟩ (sharedUses.map (·.step shared))).2 =
      Registers.answers shared .empty sharedUses := by
  have plain : OutputFile.IsPlain shared.settings := by decide
  have vacant : sharedFiles.IsVacant (destination shared.host.working (Path.ofText shared.path)) := by
    have leads : destination shared.host.working (Path.ofText shared.path) = ["s".toList] := by decide
    rw [leads]
    refine ⟨Or.inr rfl, fun name rest => ?_⟩
    simp [FileSystem.lookup, sharedFiles, List.lookup_cons]
  have creates : ∃ workspace, (OutputFile.create sharedFiles shared.host.working shared.host.levels
      shared.settings shared.path workspace).2.isOk = true := ⟨"one".toList, by decide +kernel⟩
  exact ⟨plain, vacant, creates, answers_run shared _ [] plain vacant creates sharedUses⟩

/-- A storage directory that is not there, written with a detour through the place of an
output file. -/
def crossing : Storage := ⟨⟨[], false, none, [], 3⟩, "s/ghcid-3fc4ccfe745870e2c0d9.txt/..".toList, .standard⟩

def crossingUses : List Use := [.create ['x'] "one".toList, .create ['y'] "two".toList]

theorem refused_on_its_way : OutputFile.IsPlain crossing.settings ∧
    FileSystem.IsVacant ⟨[]⟩ (destination crossing.host.working (Path.ofText crossing.path)) ∧
    (OutputFile.create ⟨[]⟩ crossing.host.working crossing.host.levels crossing.settings
      crossing.path "one".toList).2.isOk = true ∧
    (Session.run crossing.host ⟨⟨[]⟩, [], []⟩ (crossingUses.map (·.step crossing))).2 =
      [.ok (.created (crossing.file "one".toList)),
        .error (.outputFile
          ⟨(crossing.file "two".toList).path.render, .uncreatable .isDirectory⟩)] := by
  have plain : OutputFile.IsPlain crossing.settings := by decide
  have vacant : FileSystem.IsVacant ⟨[]⟩
      (destination crossing.host.working (Path.ofText crossing.path)) := by
    have leads : destination crossing.host.working (Path.ofText crossing.path) = ["s".toList] := by
      decide
    rw [leads]
    exact ⟨Or.inl rfl, fun name rest => rfl⟩
  have creates : (OutputFile.create ⟨[]⟩ crossing.host.working crossing.host.levels crossing.settings
      crossing.path "one".toList).2.isOk = true := by decide +kernel
  have first : ¬ crossing.Obstructs "one".toList := by decide +kernel
  have second : crossing.Obstructs "two".toList := by decide +kernel
  have start : Tracks crossing ⟨⟨[]⟩, [], []⟩ .empty := tracks_start plain vacant ⟨_, creates⟩ []
  refine ⟨plain, vacant, creates, ?_⟩
  rw [start.run plain crossingUses]
  simp only [crossingUses, Registers.answers, Registers.step, if_neg first, if_pos second]

end Storage

end CompilerFeedback
