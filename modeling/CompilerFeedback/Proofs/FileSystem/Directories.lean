/-
# CompilerFeedback.Proofs.FileSystem.Directories -- paths on paper and directories that are made

Where a path leads can be read off the path: a name goes down, `..` goes up.  A walk that
succeeds ends at that place (`walk_eq_ok_of`), and on its way it only meets directories.

* `IsEntry`: a path that ends in a name of its own, in a directory that is there.  At such a
  path the operations are changes of the table at one place (`write_of_isEntry`,
  `read_of_isEntry`, `remove_of_isEntry`).
* `KeepsDirectories`: a change that takes no directory away.  What led to a directory before
  still does, and what was an entry still is.
* `Grown`: a change that only adds directories, and only at some places.  Making a directory
  with those above it adds directories where the leading parts of its path lead
  (`ensureDirectory_grown`), whether or not it succeeds.
-/
import CompilerFeedback.Proofs.FileSystem.Walk
import CompilerFeedback.Proofs.Path
import Mathlib.Data.List.Infix

namespace CompilerFeedback

set_option autoImplicit false

namespace FileSystem

variable {fs made after : FileSystem} {working place next : Place} {name : Text}
  {names part : List Text} {p : Path}

/-! ## Where a path leads -/

/-- The place that a name leads to, whatever is there. -/
def follow (place : Place) (name : Text) : Place :=
  if name = Path.up then place.dropLast else place ++ [name]

/-- The place that a path leads to, whatever is there. -/
def destination (working : Place) (p : Path) : Place := p.names.foldl follow (origin working p)

theorem follow_of_ne (isName : name ≠ Path.up) (place : Place) : follow place name = place ++ [name] :=
  if_neg isName

theorem child_eq_ok_iff_follow : fs.child place name = .ok next ↔
    fs.lookup place = some .directory ∧ (name ≠ Path.up → isLongName name = false) ∧
      next = follow place name := by
  rw [child_eq_ok_iff, follow]
  by_cases isUp : name = Path.up <;> simp [isUp]

/-- A walk ends where its names lead. -/
theorem walk_eq_ok_of (found : fs.walk place names = .ok next) : next = names.foldl follow place := by
  induction names generalizing place with
  | nil =>
      cases found
      rfl
  | cons name names ih =>
      obtain ⟨there, led, rest⟩ := walk_cons_eq_ok_iff.mp found
      obtain ⟨-, -, rfl⟩ := child_eq_ok_iff_follow.mp (step_eq_ok_iff.mp led).1
      exact ih rest

/-- A walk to a directory meets only directories. -/
theorem lookup_of_walk {rest : List Text} (found : fs.walk place (part ++ rest) = .ok next)
    (there : fs.lookup next = some .directory) :
    fs.lookup (part.foldl follow place) = some .directory := by
  obtain ⟨between, first, second⟩ := walk_append_eq_ok_iff.mp found
  rw [← walk_eq_ok_of first]
  cases rest with
  | nil =>
      cases second
      exact there
  | cons name rest =>
      obtain ⟨_, led, -⟩ := walk_cons_eq_ok_iff.mp second
      exact (child_eq_ok_iff.mp (step_eq_ok_iff.mp led).1).1

theorem lookup_of_find_directory (found : fs.find working p = .ok .directory)
    (leads : part <+: p.names) : fs.lookup (destination working ⟨p.root, part⟩) = some .directory := by
  obtain ⟨-, place, walked, there⟩ := find_eq_ok_iff.mp found
  obtain ⟨rest, whole⟩ := leads
  rw [← whole] at walked
  exact lookup_of_walk walked there

/-! ## Changes that keep directories -/

/-- Whether no directory is taken away. -/
def KeepsDirectories (fs after : FileSystem) : Prop :=
  ∀ place, fs.lookup place = some .directory → after.lookup place = some .directory

theorem KeepsDirectories.walk (keeps : KeepsDirectories fs after)
    (found : fs.walk place names = .ok next) (there : fs.lookup next = some .directory) :
    after.walk place names = .ok next := by
  induction names generalizing place with
  | nil => exact found
  | cons name names ih =>
      obtain ⟨between, led, rest⟩ := walk_cons_eq_ok_iff.mp found
      obtain ⟨here, short, rfl⟩ := child_eq_ok_iff_follow.mp (step_eq_ok_iff.mp led).1
      have walked : fs.walk (follow place name) ([] ++ names) = .ok next := rest
      have onWay : fs.lookup (follow place name) = some .directory := lookup_of_walk walked there
      have goes : after.step place name = .ok (follow place name) := by
        refine step_eq_ok_iff.mpr ⟨child_eq_ok_iff_follow.mpr ⟨keeps _ here, short, rfl⟩, ?_⟩
        rw [keeps _ onWay]
        rfl
      exact walk_cons_eq_ok_iff.mpr ⟨_, goes, ih rest⟩

theorem KeepsDirectories.find (keeps : KeepsDirectories fs after)
    (found : fs.find working p = .ok .directory) : after.find working p = .ok .directory := by
  obtain ⟨accepted, place, walked, there⟩ := find_eq_ok_iff.mp found
  exact find_eq_ok_iff.mpr ⟨accepted, place, keeps.walk walked there, keeps _ there⟩

/-- The root is a directory. -/
theorem ne_nil_of_free (free : fs.lookup place ≠ some .directory) : place ≠ [] := by
  rintro rfl
  exact free rfl

theorem lookup_put_self (below : place ≠ []) (node : Node) :
    (fs.put place node).lookup place = some node := by
  rw [lookup_put _ _ _ _ below, if_pos rfl]

theorem lookup_put_of_ne {other : Place} (below : place ≠ []) (differs : other ≠ place)
    (node : Node) : (fs.put place node).lookup other = fs.lookup other := by
  rw [lookup_put _ _ _ _ below, if_neg differs]

theorem lookup_erase_self (below : place ≠ []) : (fs.erase place).lookup place = none := by
  rw [lookup_erase _ _ _ below, if_pos rfl]

theorem lookup_erase_of_ne {other : Place} (below : place ≠ []) (differs : other ≠ place) :
    (fs.erase place).lookup other = fs.lookup other := by
  rw [lookup_erase _ _ _ below, if_neg differs]

/-- A place that holds no directory can get any node. -/
theorem keepsDirectories_put (free : fs.lookup place ≠ some .directory) (node : Node) :
    KeepsDirectories fs (fs.put place node) := by
  intro other there
  have differs : other ≠ place := by
    rintro rfl
    exact free there
  rw [lookup_put_of_ne (ne_nil_of_free free) differs, there]

theorem keepsDirectories_erase (free : fs.lookup place ≠ some .directory) :
    KeepsDirectories fs (fs.erase place) := by
  intro other there
  have differs : other ≠ place := by
    rintro rfl
    exact free there
  rw [lookup_erase_of_ne (ne_nil_of_free free) differs, there]

/-! ## Changes that only add directories -/

/-- Whether the only change is that there are more directories, all of them at `allowed`
places. -/
def Grown (allowed : Place → Prop) (fs after : FileSystem) : Prop :=
  ∀ place, after.lookup place = fs.lookup place ∨
    fs.lookup place = none ∧ after.lookup place = some .directory ∧ allowed place

theorem Grown.refl (allowed : Place → Prop) (fs : FileSystem) : Grown allowed fs fs :=
  fun _ => Or.inl rfl

theorem Grown.trans {allowed : Place → Prop} (first : Grown allowed fs made)
    (second : Grown allowed made after) : Grown allowed fs after := by
  intro place
  rcases second place with same | ⟨free, there, ok⟩
  · rw [same]
    exact first place
  · rcases first place with same | ⟨-, taken, -⟩
    · exact Or.inr ⟨same ▸ free, there, ok⟩
    · rw [free] at taken
      cases taken

theorem Grown.imp {allowed wider : Place → Prop} (weaker : ∀ place, allowed place → wider place)
    (grown : Grown allowed fs after) : Grown wider fs after :=
  fun place => (grown place).imp_right fun ⟨free, there, ok⟩ => ⟨free, there, weaker place ok⟩

theorem Grown.keepsDirectories {allowed : Place → Prop} (grown : Grown allowed fs after) :
    KeepsDirectories fs after := by
  intro place there
  rcases grown place with same | ⟨-, made, -⟩
  · rw [same, there]
  · exact made

/-- Whether a place is free or holds an empty directory. -/
structure IsVacant (fs : FileSystem) (place : Place) : Prop where
  here : fs.lookup place = none ∨ fs.lookup place = some .directory
  below : ∀ name rest, fs.lookup (place ++ name :: rest) = none

/-! ## Entries of directories -/

/-- Whether a path ends in a name of its own, in a directory that is there. -/
structure IsEntry (fs : FileSystem) (working : Place) (p : Path) : Prop where
  accepted : accept p = .ok ()
  directory : fs.find working p.parent = .ok .directory
  named : ∃ name, p.names.getLast? = some name ∧ name ≠ Path.up ∧ isLongName name = false

theorem IsEntry.mono (entry : IsEntry fs working p) (keeps : KeepsDirectories fs after) :
    IsEntry after working p := ⟨entry.accepted, keeps.find entry.directory, entry.named⟩

/-- A parent is written with no more bytes than the path, or as a dot. -/
theorem length_encode_render_parent (p : Path) :
    (Text.Utf8.encode p.parent.render).length ≤ max 1 (Text.Utf8.encode p.render).length := by
  by_cases nowhere : p.parent.root.render ++ Text.join ['/'] p.parent.names = []
  · rw [Path.render_of_nil nowhere]
    exact Nat.le_max_left _ _
  · have fewer : (p.parent.root.render ++ Text.join ['/'] p.parent.names).Sublist
        (p.root.render ++ Text.join ['/'] p.names) :=
      (Path.join_sublist (List.dropLast_sublist p.names) ['/']).append_left _
    have held : p.root.render ++ Text.join ['/'] p.names ≠ [] := by
      intro empty
      rw [empty] at fewer
      exact nowhere (List.sublist_nil.mp fewer)
    rw [Path.render_of_ne_nil nowhere, Path.render_of_ne_nil held]
    exact (fewer.flatMap Text.Utf8.encodeChar).length_le.trans (Nat.le_max_right _ _)

theorem accept_parent (accepted : accept p = .ok ()) : accept p.parent = .ok () := by
  obtain ⟨clean, short⟩ := accept_eq_ok_iff.mp accepted
  have bound := length_encode_render_parent p
  refine accept_eq_ok_iff.mpr
    ⟨hasNull_eq_false_of_subset (List.dropLast_subset p.names) clean, ?_⟩
  simp only [isLongPath, decide_eq_false_iff_not, Nat.not_lt] at short ⊢
  omega

theorem find_parent_eq_directory_iff (accepted : accept p = .ok ()) :
    fs.find working p.parent = .ok .directory ↔
      ∃ place, fs.walk (origin working p) p.names.dropLast = .ok place ∧
        fs.lookup place = some .directory := by
  rw [find_eq_ok_iff]
  exact and_iff_right (accept_parent accepted)

theorem destination_of_getLast? (last : p.names.getLast? = some name) :
    destination working p = follow (p.names.dropLast.foldl follow (origin working p)) name := by
  have whole : p.names = p.names.dropLast ++ [name] := by
    rw [List.dropLast_append_getLast? name last]
  conv_lhs => rw [destination, whole]
  rw [List.foldl_append]
  rfl

/-! ## The last name of a path -/

/-- The place that the last name of a path leads to, from the directory before it; it need
not be there. -/
def reach (fs : FileSystem) (working : Place) (p : Path) (name : Text) : Except Fault Place :=
  fs.walk (origin working p) p.names.dropLast >>= fun directory => fs.child directory name

theorem reach_eq_ok_iff (accepted : accept p = .ok ()) (last : p.names.getLast? = some name) :
    fs.reach working p name = .ok place ↔
      fs.find working p.parent = .ok .directory ∧ (name ≠ Path.up → isLongName name = false) ∧
        place = destination working p := by
  rw [reach, bind_eq_ok_iff, find_parent_eq_directory_iff accepted, destination_of_getLast? last]
  constructor
  · rintro ⟨directory, walked, led⟩
    obtain ⟨here, shortName, rfl⟩ := child_eq_ok_iff_follow.mp led
    exact ⟨⟨directory, walked, here⟩, shortName, by rw [walk_eq_ok_of walked]⟩
  · rintro ⟨⟨directory, walked, here⟩, shortName, rfl⟩
    refine ⟨directory, walked, child_eq_ok_iff_follow.mpr ⟨here, shortName, ?_⟩⟩
    rw [walk_eq_ok_of walked]

theorem find_of_accept (accepted : accept p = .ok ()) :
    fs.find working p = fs.walk (origin working p) p.names >>= fun place =>
      (fs.lookup place).elim (.error .notFound) .ok := by
  unfold find
  rw [accepted]
  show (fs.walk (origin working p) p.names >>= fun place => _) = _
  refine bind_congr fun place => ?_
  cases fs.lookup place <;> rfl

theorem find_of_getLast? (accepted : accept p = .ok ()) (last : p.names.getLast? = some name) :
    fs.find working p = fs.reach working p name >>= fun place =>
      (fs.lookup place).elim (.error .notFound) .ok := by
  have walked : fs.walk (origin working p) p.names =
      fs.walk (origin working p) p.names.dropLast >>= fun directory => fs.step directory name := by
    rw [← walk_concat, List.dropLast_append_getLast? name last]
  simp only [find_of_accept accepted, walked, reach, bind_assoc, step]
  refine bind_congr fun directory => bind_congr fun place => ?_
  cases there : fs.lookup place with
  | none => rfl
  | some node =>
      simp only [Option.isSome_some, if_true, pure_bind, there]

/-- A path that the system does not take names nothing. -/
theorem target_of_refused {fault : Fault} (refused : accept p = .error fault) :
    fs.target working p = .error fault := by
  unfold target
  rw [refused]
  rfl

theorem target_of_getLast? (accepted : accept p = .ok ()) (last : p.names.getLast? = some name) :
    fs.target working p = fs.reach working p name >>= fun place =>
      .ok (if name = Path.up then none else some place) := by
  unfold target
  rw [accepted]
  simp only [last, reach, bind_assoc]
  rfl

/-- A path without a last name names nothing. -/
theorem target_of_getLast?_none (accepted : accept p = .ok ()) (last : p.names.getLast? = none) :
    fs.target working p = .ok none := by
  unfold target
  rw [accepted, last]
  rfl

/-- A path is refused as it is written, or on the way to its last name. -/
theorem target_eq_error_iff {fault : Fault} : fs.target working p = .error fault ↔
    accept p = .error fault ∨
      accept p = .ok () ∧ ∃ name, p.names.getLast? = some name ∧
        fs.reach working p name = .error fault := by
  cases accepted : accept p with
  | error stop =>
      rw [target_of_refused accepted]
      simp
  | ok _ =>
      cases last : p.names.getLast? with
      | none =>
          rw [target_of_getLast?_none accepted last]
          simp
      | some name =>
          rw [target_of_getLast? accepted last, bind_eq_error_iff]
          simp

theorem IsEntry.reach (entry : IsEntry fs working p) (last : p.names.getLast? = some name) :
    fs.reach working p name = .ok (destination working p) := by
  obtain ⟨_, isLast, -, shortName⟩ := entry.named
  obtain rfl := Option.some.inj (last.symm.trans isLast)
  exact (reach_eq_ok_iff entry.accepted last).mpr ⟨entry.directory, fun _ => shortName, rfl⟩

/-- A path can be given something new exactly if it is an entry. -/
theorem target_eq_some_iff : fs.target working p = .ok (some place) ↔
    IsEntry fs working p ∧ place = destination working p := by
  constructor
  · intro found
    cases accepted : accept p with
    | error fault =>
        rw [target_of_refused accepted] at found
        cases found
    | ok _ =>
        cases last : p.names.getLast? with
        | none =>
            rw [target_of_getLast?_none accepted last] at found
            cases found
        | some name =>
            rw [target_of_getLast? accepted last] at found
            obtain ⟨there, reached, found⟩ := bind_eq_ok_iff.mp found
            obtain ⟨directory, shortName, rfl⟩ := (reach_eq_ok_iff accepted last).mp reached
            by_cases isUp : name = Path.up
            · rw [if_pos isUp] at found
              cases found
            · rw [if_neg isUp] at found
              cases found
              exact ⟨⟨accepted, directory, name, last, isUp, shortName isUp⟩, rfl⟩
  · rintro ⟨entry, rfl⟩
    obtain ⟨name, last, isName, -⟩ := entry.named
    rw [target_of_getLast? entry.accepted last, entry.reach last]
    show Except.ok (if name = Path.up then none else some (destination working p)) = _
    rw [if_neg isName]

namespace IsEntry

theorem target (entry : IsEntry fs working p) :
    fs.target working p = .ok (some (destination working p)) :=
  target_eq_some_iff.mpr ⟨entry, rfl⟩

/-- An entry lies in a directory, so it is not the root. -/
theorem destination_ne_nil (entry : IsEntry fs working p) : destination working p ≠ [] := by
  obtain ⟨name, last, isName, -⟩ := entry.named
  rw [destination_of_getLast? last, follow_of_ne isName]
  simp

end IsEntry

/-! ## Operations at an entry -/

theorem write_of_isEntry (entry : IsEntry fs working p) (content : Bytes) :
    fs.write working p content =
      (overwrite content (fs.lookup (destination working p))).map
        (fs.put (destination working p)) := by
  unfold write
  rw [entry.target]
  show (overwrite content (fs.lookup (destination working p)) >>= fun node => _) = _
  cases overwrite content (fs.lookup (destination working p)) <;> rfl

theorem remove_of_isEntry (entry : IsEntry fs working p) :
    fs.remove working p =
      match fs.lookup (destination working p) with
      | none => .error .notFound
      | some .directory => .error .isDirectory
      | some _ => .ok (fs.erase (destination working p)) := by
  unfold remove
  rw [entry.target]
  rfl

theorem find_of_isEntry (entry : IsEntry fs working p) :
    fs.find working p = (fs.lookup (destination working p)).elim (.error .notFound) .ok := by
  obtain ⟨name, last, -⟩ := entry.named
  rw [find_of_getLast? entry.accepted last, entry.reach last]
  rfl

/-- What is put at an entry in the place of no directory is found there. -/
theorem IsEntry.find_put (entry : IsEntry fs working p)
    (free : fs.lookup (destination working p) ≠ some .directory) (node : Node) :
    (fs.put (destination working p) node).find working p = .ok node := by
  rw [find_of_isEntry (entry.mono (keepsDirectories_put free _)),
    lookup_put_self entry.destination_ne_nil]
  rfl

theorem read_of_isEntry (entry : IsEntry fs working p) :
    fs.read working p =
      (fs.lookup (destination working p)).elim (.error .notFound) contentOf := by
  unfold read
  rw [find_of_isEntry entry]
  cases fs.lookup (destination working p) <;> rfl

/-- What is overwritten is no directory. -/
theorem ne_directory_of_overwrite {content : Bytes} {before : Option Node} {node : Node}
    (taken : overwrite content before = .ok node) : before ≠ some .directory := by
  rintro rfl
  cases taken

/-- What is overwritten is a device, or there is a file with the content afterwards. -/
theorem overwrite_eq_ok_iff {content : Bytes} {before : Option Node} {node : Node} :
    overwrite content before = .ok node ↔
      (before = none ∨ ∃ old, before = some (.file old)) ∧ node = .file content ∨
        ∃ given, before = some (.device given) ∧ node = .device given := by
  cases before with
  | none => simp [overwrite, eq_comm]
  | some before => cases before <;> simp [overwrite, eq_comm]

theorem write_eq_ok_iff {content : Bytes} : fs.write working p content = .ok after ↔
    IsEntry fs working p ∧ ∃ node,
      overwrite content (fs.lookup (destination working p)) = .ok node ∧
        after = fs.put (destination working p) node := by
  constructor
  · intro written
    obtain ⟨found, named, rest⟩ := bind_eq_ok_iff.mp written
    cases found with
    | none => cases rest
    | some place =>
        obtain ⟨entry, rfl⟩ := target_eq_some_iff.mp named
        obtain ⟨node, taken, put⟩ := bind_eq_ok_iff.mp rest
        cases put
        exact ⟨entry, node, taken, rfl⟩
  · rintro ⟨entry, node, taken, rfl⟩
    rw [write_of_isEntry entry, taken]
    rfl

theorem remove_eq_ok_iff : fs.remove working p = .ok after ↔
    IsEntry fs working p ∧
      (∃ node, node ≠ .directory ∧ fs.lookup (destination working p) = some node) ∧
      after = fs.erase (destination working p) := by
  constructor
  · intro removed
    obtain ⟨found, named, rest⟩ := bind_eq_ok_iff.mp removed
    cases found with
    | none => cases rest
    | some place =>
        obtain ⟨entry, rfl⟩ := target_eq_some_iff.mp named
        rw [remove_of_isEntry entry] at removed
        refine ⟨entry, ?_⟩
        cases there : fs.lookup (destination working p) with
        | none =>
            rw [there] at removed
            cases removed
        | some node =>
            rw [there] at removed
            cases node <;> cases removed <;> exact ⟨⟨_, by simp, rfl⟩, rfl⟩
  · rintro ⟨entry, ⟨node, isFile, there⟩, rfl⟩
    rw [remove_of_isEntry entry, there]
    cases node <;> first | rfl | exact absurd rfl isFile

/-! ## Making directories -/

theorem makeDirectory_eq_ok_iff : fs.makeDirectory working p = .ok made ↔
    IsEntry fs working p ∧ fs.lookup (destination working p) = none ∧
      made = fs.put (destination working p) .directory := by
  constructor
  · intro built
    obtain ⟨found, named, built⟩ := bind_eq_ok_iff.mp built
    cases found with
    | none => cases built
    | some place =>
        obtain ⟨entry, rfl⟩ := target_eq_some_iff.mp named
        cases there : fs.lookup (destination working p) with
        | some node =>
            simp only [there, Option.isSome_some, if_true] at built
            cases built
        | none =>
            simp only [there, Option.isSome_none, Bool.false_eq_true, if_false] at built
            cases built
            exact ⟨entry, rfl, rfl⟩
  · rintro ⟨entry, free, rfl⟩
    unfold makeDirectory
    rw [entry.target]
    change (if (fs.lookup (destination working p)).isSome = true then _ else _) = _
    rw [free]
    rfl

/-- A directory that is there cannot be made. -/
theorem makeDirectory_of_found (found : fs.find working p = .ok .directory) :
    fs.makeDirectory working p = .error .alreadyExists := by
  obtain ⟨accepted, -⟩ := find_eq_ok_iff.mp found
  unfold makeDirectory
  cases last : p.names.getLast? with
  | none =>
      rw [target_of_getLast?_none accepted last]
      rfl
  | some name =>
      rw [find_of_getLast? accepted last] at found
      obtain ⟨place, reached, there⟩ := bind_eq_ok_iff.mp found
      have named : fs.target working p = .ok (if name = Path.up then none else some place) := by
        rw [target_of_getLast? accepted last, reached]
        rfl
      rw [named]
      by_cases isUp : name = Path.up
      · rw [if_pos isUp]
        rfl
      · have taken : (fs.lookup place).isSome := by
          cases free : fs.lookup place with
          | none =>
              rw [free] at there
              cases there
          | some node => rfl
        rw [if_neg isUp]
        show (if (fs.lookup place).isSome = true then _ else _) = _
        rw [taken]
        rfl

theorem isDirectory_iff : fs.isDirectory working p = true ↔ fs.find working p = .ok .directory := by
  unfold isDirectory
  split
  · rename_i found
    simp [found]
  · rename_i other
    exact iff_of_false (by decide) other

theorem allowDirectory_of_found (found : fs.find working p = .ok .directory) :
    fs.allowDirectory working p = .ok fs := by
  unfold allowDirectory
  rw [makeDirectory_of_found found]
  exact if_pos (isDirectory_iff.mpr found)

/-- Allowing a directory makes it, or finds it. -/
theorem allowDirectory_grown (allowed : fs.allowDirectory working p = .ok made) :
    Grown (· = destination working p) fs made := by
  unfold allowDirectory at allowed
  split at allowed
  · rename_i built
    cases allowed
    obtain ⟨entry, free, rfl⟩ := makeDirectory_eq_ok_iff.mp built
    intro place
    rw [lookup_put _ _ _ _ entry.destination_ne_nil]
    split
    · rename_i here
      exact Or.inr ⟨here ▸ free, rfl, here⟩
    · exact Or.inl rfl
  · cases allowed
  · split at allowed
    · cases allowed
      exact Grown.refl _ fs
    · cases allowed

/-- Whether a leading part of a path leads to a place. -/
def LeadsThrough (working : Place) (p : Path) (place : Place) : Prop :=
  ∃ part, part <+: p.names ∧ place = destination working ⟨p.root, part⟩

instance (working : Place) (p : Path) (place : Place) : Decidable (LeadsThrough working p place) :=
  decidable_of_iff (∃ part ∈ p.names.inits, place = destination working ⟨p.root, part⟩) <| by
    simp only [List.mem_inits, LeadsThrough]

theorem ensureNames_grown (root : Path.Root) (levels : Nat) (upward : List Text) :
    Grown (LeadsThrough working ⟨root, upward.reverse⟩) fs
      (fs.ensureNames working root levels upward).1 := by
  induction upward generalizing fs levels with
  | nil =>
      unfold ensureNames
      split
      · rename_i allowed
        refine (allowDirectory_grown allowed).imp fun place here => ⟨[], List.nil_prefix, here⟩
      · exact Grown.refl _ fs
  | cons name above ih =>
      have self : ∀ place, place = destination working ⟨root, (name :: above).reverse⟩ →
          LeadsThrough working ⟨root, (name :: above).reverse⟩ place :=
        fun place here => ⟨_, List.prefix_refl _, here⟩
      have wider : ∀ place, LeadsThrough working ⟨root, above.reverse⟩ place →
          LeadsThrough working ⟨root, (name :: above).reverse⟩ place := by
        rintro place ⟨part, leads, here⟩
        refine ⟨part, leads.trans ?_, here⟩
        rw [List.reverse_cons]
        exact List.prefix_append _ _
      have first : Grown (LeadsThrough working ⟨root, (name :: above).reverse⟩) fs
          (fs.ensureNames working root (levels - 1) above).1 := (ih (levels - 1)).imp wider
      unfold ensureNames
      dsimp only
      split
      · rename_i allowed
        exact (allowDirectory_grown allowed).imp self
      · split
        · exact Grown.refl _ fs
        · split
          · rename_i upper
            rwa [upper] at first
          · rename_i upper
            rw [upper] at first
            split
            · rename_i allowed
              exact first.trans ((allowDirectory_grown allowed).imp self)
            · exact first
      · exact Grown.refl _ fs

/-- **Making a directory adds directories on the way to it, and nothing else changes.** -/
theorem ensureDirectory_grown (fs : FileSystem) (working : Place) (levels : Nat) (p : Path) :
    Grown (LeadsThrough working p) fs (fs.ensureDirectory working levels p).1 := by
  have grown : Grown (LeadsThrough working ⟨p.root, p.names.reverse.reverse⟩) fs
      (fs.ensureDirectory working levels p).1 := ensureNames_grown p.root levels p.names.reverse
  rwa [List.reverse_reverse] at grown

theorem ensureDirectory_of_found (found : fs.find working p = .ok .directory) (levels : Nat) :
    fs.ensureDirectory working levels p = (fs, none) := by
  unfold ensureDirectory
  cases upward : p.names.reverse with
  | nil =>
      have whole : (⟨p.root, []⟩ : Path) = p := by
        rw [← List.reverse_eq_nil_iff.mp upward]
      rw [ensureNames, whole, allowDirectory_of_found found]
  | cons name above =>
      have whole : (⟨p.root, (name :: above).reverse⟩ : Path) = p := by
        rw [← upward, List.reverse_reverse]
      rw [ensureNames, whole]
      simp only [allowDirectory_of_found found]

/-! ## Writing in a directory that is made for it -/

variable {levels : Nat}

theorem writeAnywhere_of_write {content : Bytes}
    (ensured : fs.ensureDirectory working levels p.parent = (made, none))
    (written : made.write working p content = .ok after) :
    fs.writeAnywhere working levels p content = (after, none) := by
  unfold writeAnywhere
  rw [ensured]
  dsimp only
  rw [written]

theorem writeAnywhere_of_fault {content : Bytes} {fault : Fault}
    (ensured : fs.ensureDirectory working levels p.parent = (made, none))
    (refused : made.write working p content = .error fault) :
    fs.writeAnywhere working levels p content = (made, some fault) := by
  unfold writeAnywhere
  rw [ensured]
  dsimp only
  rw [refused]

theorem writeAnywhere_of_stopped {content : Bytes} {fault : Fault}
    (stopped : fs.ensureDirectory working levels p.parent = (made, some fault)) :
    fs.writeAnywhere working levels p content = (made, some fault) := by
  unfold writeAnywhere
  rw [stopped]

/-- What a file was written in, and what it was written over. -/
theorem writeAnywhere_eq_done_iff {content : Bytes} :
    fs.writeAnywhere working levels p content = (after, none) ↔
      ∃ made, fs.ensureDirectory working levels p.parent = (made, none) ∧ IsEntry made working p ∧
        ∃ node, overwrite content (made.lookup (destination working p)) = .ok node ∧
          after = made.put (destination working p) node := by
  constructor
  · intro written
    cases ensured : fs.ensureDirectory working levels p.parent with
    | mk made fault =>
        cases fault with
        | some fault =>
            rw [writeAnywhere_of_stopped ensured] at written
            cases written
        | none =>
            cases outcome : made.write working p content with
            | error fault =>
                rw [writeAnywhere_of_fault ensured outcome] at written
                cases written
            | ok _ =>
                rw [writeAnywhere_of_write ensured outcome] at written
                cases written
                exact ⟨made, rfl, write_eq_ok_iff.mp outcome⟩
  · rintro ⟨made, ensured, written⟩
    exact writeAnywhere_of_write ensured (write_eq_ok_iff.mpr written)

/-- What a file was not written in: its directory was not made, or it was refused there. -/
theorem writeAnywhere_eq_refused_iff {content : Bytes} {fault : Fault} :
    fs.writeAnywhere working levels p content = (after, some fault) ↔
      fs.ensureDirectory working levels p.parent = (after, some fault) ∨
        fs.ensureDirectory working levels p.parent = (after, none) ∧
          after.write working p content = .error fault := by
  constructor
  · intro refused
    cases ensured : fs.ensureDirectory working levels p.parent with
    | mk made stop =>
        cases stop with
        | some stop =>
            rw [writeAnywhere_of_stopped ensured] at refused
            exact Or.inl refused
        | none =>
            cases outcome : made.write working p content with
            | ok _ =>
                rw [writeAnywhere_of_write ensured outcome] at refused
                cases refused
            | error stop =>
                rw [writeAnywhere_of_fault ensured outcome] at refused
                cases refused
                exact Or.inr ⟨rfl, outcome⟩
  · rintro (stopped | ⟨ensured, refused⟩)
    · exact writeAnywhere_of_stopped stopped
    · exact writeAnywhere_of_fault ensured refused

theorem writeAnywhere_of_directory {content : Bytes}
    (ensured : fs.ensureDirectory working levels p.parent = (made, none))
    (entry : IsEntry made working p)
    (taken : made.lookup (destination working p) = some .directory) :
    fs.writeAnywhere working levels p content = (made, some .isDirectory) := by
  refine writeAnywhere_of_fault ensured ?_
  rw [write_of_isEntry entry, taken]
  rfl

/-- A file is written where nothing is, or over a file. -/
theorem writeAnywhere_of_free {content : Bytes}
    (ensured : fs.ensureDirectory working levels p.parent = (made, none))
    (entry : IsEntry made working p)
    (free : made.lookup (destination working p) = none ∨
      ∃ old, made.lookup (destination working p) = some (.file old)) :
    fs.writeAnywhere working levels p content =
      (made.put (destination working p) (.file content), none) :=
  writeAnywhere_eq_done_iff.mpr ⟨made, ensured, entry, .file content,
    overwrite_eq_ok_iff.mpr (Or.inl ⟨free, rfl⟩), rfl⟩

end FileSystem

end CompilerFeedback
