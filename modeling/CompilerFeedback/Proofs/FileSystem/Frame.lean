/-
# CompilerFeedback.Proofs.FileSystem.Frame -- what an operation leaves alone

`Confined` is the frame of a change: it names the places whose files may be created,
emptied or removed, and the places where directories may be made.  All other files, special
ones among them, stay as they are, and no directory is ever taken away.

* `writeAnywhere_confined`: writing touches the file at the end of its path and makes
  directories where leading parts of the path lead.  If it is refused it touches no file,
  but directories that were made on the way stay.
* `writeAnywhere_fault`: it is refused by the system, or because of a null character in the
  path, or because too many directories are missing; then none was made.
* `remove_confined`: removing touches the file at the end of its path; nothing is found
  there afterwards, and there is nothing left to remove.
-/
import CompilerFeedback.Proofs.FileSystem.Directories

namespace CompilerFeedback.FileSystem

set_option autoImplicit false

variable {fs made after : FileSystem} {working place : Place} {p : Path} {levels : Nat}
  {files directories allowed : Place → Prop} {fault : Fault}

/-! ## Confined changes -/

/-- Whether a change touches only the given `files` and makes only the given
`directories`. -/
structure Confined (files directories : Place → Prop) (fs after : FileSystem) : Prop where
  otherFiles : ∀ place, ¬ files place → ∀ node, node ≠ .directory →
    (after.lookup place = some node ↔ fs.lookup place = some node)
  keepsDirectories : KeepsDirectories fs after
  newDirectories : ∀ place, after.lookup place = some .directory →
    fs.lookup place = some .directory ∨ directories place

/-- Making directories touches no file. -/
theorem Grown.confined (grown : Grown allowed fs after) :
    Confined (fun _ => False) allowed fs after := by
  refine ⟨fun place _ node isFile => ?_, grown.keepsDirectories, fun place there => ?_⟩
  · rcases grown place with same | ⟨free, built, -⟩
    · rw [same]
    · rw [free, built]
      simpa using Ne.symm isFile
  · rcases grown place with same | ⟨-, -, ok⟩
    · exact Or.inl (same ▸ there)
    · exact Or.inr ok

/-- Writing over no directory touches what is there. -/
theorem Confined.put (confined : Confined (fun _ => False) directories fs made)
    (free : made.lookup place ≠ some .directory) {node : Node} (isFile : node ≠ .directory) :
    Confined (· = place) directories fs (made.put place node) := by
  have below := ne_nil_of_free free
  refine ⟨fun other differs => ?_, fun other there => ?_, fun other there => ?_⟩
  · rw [lookup_put_of_ne below differs]
    exact confined.otherFiles other id
  · exact keepsDirectories_put free _ other (confined.keepsDirectories other there)
  · have differs : other ≠ place := by
      rintro rfl
      rw [lookup_put_self below, Option.some.injEq] at there
      exact isFile there
    rw [lookup_put_of_ne below differs] at there
    exact confined.newDirectories other there

/-! ## Writing -/

/-- What is left of the file system when writing is refused: the directories that were made. -/
theorem eq_of_writeAnywhere_refused {content : Bytes}
    (refused : fs.writeAnywhere working levels p content = (after, some fault)) :
    after = (fs.ensureDirectory working levels p.parent).1 := by
  rcases writeAnywhere_eq_refused_iff.mp refused with stopped | ⟨ensured, -⟩
  · rw [stopped]
  · rw [ensured]

/-- Whether a path leads to a file with this content, or to a device as before. -/
def IsWritten (working : Place) (p : Path) (content : Bytes) (fs after : FileSystem) : Prop :=
  after.find working p = .ok (.file content) ∨
    ∃ given, fs.lookup (destination working p) = some (.device given) ∧
      after.find working p = .ok (.device given)

/-- **Writing leaves every other file alone.** -/
theorem writeAnywhere_confined (fs : FileSystem) (working : Place) (levels : Nat) (p : Path)
    (content : Bytes) :
    (∃ after, fs.writeAnywhere working levels p content = (after, none) ∧
        IsWritten working p content fs after ∧
        Confined (· = destination working p) (LeadsThrough working p.parent) fs after) ∨
      ∃ after fault, fs.writeAnywhere working levels p content = (after, some fault) ∧
        Confined (fun _ => False) (LeadsThrough working p.parent) fs after := by
  -- the directories are made first, whether or not that succeeds
  have confined := (ensureDirectory_grown fs working levels p.parent).confined
  cases outcome : fs.writeAnywhere working levels p content with
  | mk after fault =>
      cases fault with
      | some fault =>
          refine Or.inr ⟨after, fault, rfl, ?_⟩
          rwa [eq_of_writeAnywhere_refused outcome]
      | none =>
          obtain ⟨made, ensured, entry, node, taken, rfl⟩ := writeAnywhere_eq_done_iff.mp outcome
          rw [ensured] at confined
          have free := ne_directory_of_overwrite taken
          have found := entry.find_put free node
          refine Or.inl ⟨_, rfl, ?_⟩
          rcases overwrite_eq_ok_iff.mp taken with ⟨-, rfl⟩ | ⟨given, device, rfl⟩
          · exact ⟨Or.inl found, confined.put free (by simp)⟩
          · have before := (confined.otherFiles _ id (.device given) (by simp)).mp device
            exact ⟨Or.inr ⟨given, before, found⟩, confined.put free (by simp)⟩

/-! ### Why writing is refused -/

theorem reach_isSystem {name : Text} (refused : fs.reach working p name = .error fault) :
    fault.isSystem = true := by
  rcases bind_eq_error_iff.mp refused with stopped | ⟨_, -, missed⟩
  · exact isSystem_of_walk stopped
  · exact isSystem_of_child missed

theorem target_isDue (refused : fs.target working p = .error fault) : IsDue p fault := by
  rcases target_eq_error_iff.mp refused with stopped | ⟨-, _, -, missed⟩
  · exact isDue_of_accept stopped
  · exact Or.inl (reach_isSystem missed)

/-- An operation on what a path names is refused with the path, or by the system. -/
theorem isDue_of_named {α : Type} {rest : Option Place → Except Fault α}
    (refused : (fs.target working p >>= rest) = .error fault)
    (system : ∀ named, rest named = .error fault → fault.isSystem = true) : IsDue p fault := by
  rcases bind_eq_error_iff.mp refused with stopped | ⟨named, -, missed⟩
  · exact target_isDue stopped
  · exact Or.inl (system named missed)

theorem overwrite_isSystem {content : Bytes} {node : Option Node}
    (refused : overwrite content node = .error fault) : fault.isSystem = true := by
  unfold overwrite at refused
  split at refused <;> cases refused <;> rfl

theorem write_isDue {content : Bytes} (refused : fs.write working p content = .error fault) :
    IsDue p fault := by
  refine isDue_of_named refused fun named missed => ?_
  cases named with
  | none =>
      cases missed
      rfl
  | some place =>
      rcases bind_eq_error_iff.mp missed with taken | ⟨_, -, impossible⟩
      · exact overwrite_isSystem taken
      · cases impossible

theorem remove_isDue (refused : fs.remove working p = .error fault) : IsDue p fault := by
  refine isDue_of_named refused fun named missed => ?_
  cases named with
  | none =>
      cases missed
      rfl
  | some place =>
      dsimp only at missed
      split at missed <;> cases missed <;> rfl

theorem makeDirectory_isDue (refused : fs.makeDirectory working p = .error fault) :
    IsDue p fault := by
  refine isDue_of_named refused fun named missed => ?_
  cases named with
  | none =>
      cases missed
      rfl
  | some place =>
      dsimp only at missed
      split at missed <;> cases missed
      rfl

theorem allowDirectory_isDue (refused : fs.allowDirectory working p = .error fault) :
    IsDue p fault := by
  unfold allowDirectory at refused
  split at refused
  · cases refused
  · rename_i gone
    cases refused
    exact makeDirectory_isDue gone
  · rename_i stop
    split at refused
    · cases refused
    · cases refused
      exact makeDirectory_isDue stop

/-- A fault of making directories is due to the path, or there were too many of them and
none was made. -/
theorem ensureNames_fault {root : Path.Root} {upward : List Text}
    (stopped : fs.ensureNames working root levels upward = (made, some fault)) :
    IsDue ⟨root, upward.reverse⟩ fault ∨
      fault = .tooDeep ∧ levels < upward.length ∧ made = fs := by
  induction upward generalizing fs made levels with
  | nil =>
      unfold ensureNames at stopped
      split at stopped
      · cases stopped
      · rename_i refused
        cases stopped
        exact Or.inl (allowDirectory_isDue refused)
  | cons name above ih =>
      have fewer : above.reverse ⊆ (name :: above).reverse := by simp
      unfold ensureNames at stopped
      dsimp only at stopped
      split at stopped
      · cases stopped
      · split at stopped
        · rename_i none_left
          cases stopped
          exact Or.inr ⟨rfl, by simp [none_left], rfl⟩
        · rename_i some_left
          split at stopped
          · rename_i upper
            cases stopped
            rcases ih upper with due | ⟨deep, few, same⟩
            · exact Or.inl (due.of_subset fewer)
            · refine Or.inr ⟨deep, ?_, same⟩
              rw [List.length_cons]
              omega
          · split at stopped
            · cases stopped
            · rename_i refused
              cases stopped
              exact Or.inl (allowDirectory_isDue refused)
      · rename_i refused
        cases stopped
        exact Or.inl (allowDirectory_isDue refused)

/-- **Why writing is refused**: by the system, because of a null character in the path, or
because too many directories are missing, and then none was made. -/
theorem writeAnywhere_fault {content : Bytes}
    (refused : fs.writeAnywhere working levels p content = (after, some fault)) :
    IsDue p fault ∨ fault = .tooDeep ∧ levels < p.parent.names.length ∧ after = fs := by
  rcases writeAnywhere_eq_refused_iff.mp refused with stopped | ⟨-, unwritten⟩
  · have fewer : p.parent.names ⊆ p.names := List.dropLast_subset p.names
    rcases ensureNames_fault stopped with due | ⟨deep, few, same⟩
    · rw [List.reverse_reverse] at due
      exact Or.inl (due.of_subset fewer)
    · rw [List.length_reverse] at few
      exact Or.inr ⟨deep, few, same⟩
  · exact Or.inl (write_isDue unwritten)

/-! ## Removing -/

/-- Where a path cannot be followed to its last name, nothing is found. -/
theorem find_of_target (refused : fs.target working p = .error fault) :
    fs.find working p = .error fault := by
  rcases target_eq_error_iff.mp refused with stopped | ⟨accepted, name, last, missed⟩
  · exact bind_eq_error_iff.mpr (Or.inl stopped)
  · rw [find_of_getLast? accepted last]
    exact bind_eq_error_iff.mpr (Or.inl missed)

/-- Where there is nothing to remove, nothing is found. -/
theorem find_of_remove_notFound (gone : fs.remove working p = .error .notFound) :
    fs.find working p = .error .notFound := by
  rcases bind_eq_error_iff.mp gone with stopped | ⟨found, named, refused⟩
  · exact find_of_target stopped
  · cases found with
    | none => cases refused
    | some place =>
        obtain ⟨entry, -⟩ := target_eq_some_iff.mp named
        rw [remove_of_isEntry entry] at gone
        rw [find_of_isEntry entry]
        cases there : fs.lookup (destination working p) with
        | none => rfl
        | some node =>
            rw [there] at gone
            cases node <;> cases gone

/-- **Removing leaves everything else alone, and nothing to remove.** -/
theorem remove_confined (removed : fs.remove working p = .ok after) :
    (∀ place, place ≠ destination working p → after.lookup place = fs.lookup place) ∧
      after.remove working p = .error .notFound := by
  obtain ⟨entry, ⟨node, isFile, there⟩, rfl⟩ := remove_eq_ok_iff.mp removed
  have free : fs.lookup (destination working p) ≠ some .directory := by
    rw [there]
    simpa using isFile
  refine ⟨fun place differs => lookup_erase_of_ne entry.destination_ne_nil differs, ?_⟩
  rw [remove_of_isEntry (entry.mono (keepsDirectories_erase free)),
    lookup_erase_self entry.destination_ne_nil]

end CompilerFeedback.FileSystem
