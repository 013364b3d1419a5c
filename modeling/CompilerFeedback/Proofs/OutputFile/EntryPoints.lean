/-
# CompilerFeedback.Proofs.OutputFile.EntryPoints -- one file, reached in two ways

A handle opens its path as it stands, from the working directory.  When the same path is
given in writing, a home directory is expanded, the working directory is put in front, and
every `..` is resolved on paper.  As long as the working directory is reached by its own
names, both lead to one file (`FileSystem.find_absolute`), so a handle and the written path
give the same diagnostics (`entry_points_agree`).  They agree on a device as well, which
gives what it always gives.

Two things come between them (`entry_points_differ`).  A handle takes a leading `~` for a
name, and a path from the root may be too long where a relative one is not.
-/
import CompilerFeedback.Proofs.OutputFile.Name
import CompilerFeedback.Proofs.OutputFile.Reading

namespace CompilerFeedback

set_option autoImplicit false

/-! ## Paths from the working directory -/

theorem Host.absolute_eq_ok_iff {host : Host} {p whole : Path} : host.absolute p = .ok whole ↔
    FileSystem.hasNull (host.namesFromRoot p) = false ∧
      ¬ (p.root = .relative ∧ host.workingGone) ∧
      whole = Path.collapse ⟨.absolute, host.namesFromRoot p⟩ := by
  unfold absolute
  cases null : FileSystem.hasNull (host.namesFromRoot p) with
  | true =>
      rw [if_pos rfl]
      exact iff_of_false (by simp) fun located => Bool.noConfusion located.1
  | false =>
      rw [if_neg Bool.false_ne_true]
      by_cases lost : p.root = .relative ∧ host.workingGone
      · rw [if_pos lost]
        exact iff_of_false (by simp) fun located => located.2.1 lost
      · rw [if_neg lost, Except.ok.injEq]
        constructor
        · rintro rfl
          exact ⟨rfl, lost, rfl⟩
        · rintro ⟨-, -, rfl⟩
          rfl

namespace FileSystem

variable {fs after : FileSystem} {place working : Place} {host : Host} {p : Path} {node : Node}

/-- A place that its own names lead to is there. -/
theorem OwnWay.isSome (own : OwnWay fs place) : (fs.lookup place).isSome := by
  obtain rfl | ⟨above, last, rfl⟩ := place.eq_nil_or_concat
  · rfl
  · rw [List.concat_eq_append] at own ⊢
    obtain ⟨there, -, led⟩ := walk_append_eq_ok_iff.mp own.found
    exact (step_eq_ok_iff.mp (walk_singleton_eq_ok_iff.mp led)).2

theorem OwnWay.mono (own : OwnWay fs place) (there : fs.lookup place = some .directory)
    (keeps : KeepsDirectories fs after) : OwnWay after place :=
  ⟨own.noUp, keeps.walk own.found there⟩

/-- **What a relative path leads to, it leads to when it is written out from the root.** -/
theorem find_absolute {whole : Path} (own : OwnWay fs host.working) (relative : p.root = .relative)
    (absolute : host.absolute p = .ok whole) (accepted : accept whole = .ok ())
    (found : fs.find host.working p = .ok node) : fs.find host.working whole = .ok node := by
  obtain ⟨-, place, walked, there⟩ := find_eq_ok_iff.mp found
  have start : origin host.working p = host.working := if_pos relative
  rw [start] at walked
  obtain ⟨ownThere, ended⟩ := own.walk walked
  obtain ⟨-, -, rfl⟩ := Host.absolute_eq_ok_iff.mp absolute
  have fromRoot : host.namesFromRoot p = host.working ++ p.names := if_pos relative
  have stack : (host.working.foldl (Path.push .absolute) []).reverse = host.working :=
    (OwnWay.nil.walk own.found).2.symm
  have names : (Path.collapse ⟨.absolute, host.namesFromRoot p⟩).names = place := by
    rw [fromRoot, ended, Path.collapse, List.foldl_append, ← List.reverse_eq_iff.mp stack]
  refine find_eq_ok_iff.mpr ⟨accepted, place, ?_, there⟩
  rw [names]
  exact ownThere.found

/-- The file system that holds one directory and those above it. -/
def directories (place : Place) : FileSystem := ⟨place.inits.map fun above => (above, .directory)⟩

theorem lookup_directories_iff {above : Place} :
    (directories place).lookup above = some .directory ↔ above <+: place := by
  have listed : ∀ places : List Place,
      (places.map fun there => (there, Node.directory)).lookup above = some .directory ↔
        above ∈ places := by
    intro places
    induction places with
    | nil => simp
    | cons there places ih =>
        rw [List.map_cons, List.lookup_cons, List.mem_cons]
        by_cases same : above = there
        · simp [same]
        · rw [beq_eq_false_iff_ne.mpr same, ih]
          simp [same]
  unfold FileSystem.lookup directories
  split
  · rename_i root
    rw [root]
    exact iff_of_true rfl List.nil_prefix
  · exact (listed _).trans (List.mem_inits _ _)

theorem lookup_directories_of_outside {above : Place} (outside : ¬ above <+: place) :
    (directories place).lookup above = none := by
  have below : above ≠ [] := by
    rintro rfl
    exact outside List.nil_prefix
  unfold FileSystem.lookup directories
  rw [if_neg below, List.lookup_eq_none_iff]
  intro entry member
  obtain ⟨there, inPlace, rfl⟩ := List.mem_map.mp member
  have differs : above ≠ there := by
    rintro rfl
    exact outside ((List.mem_inits _ _).mp inPlace)
  simpa using differs

/-- In such a file system the names of the directory lead to it. -/
theorem ownWay_directories (plain : ∀ name ∈ place, name ≠ Path.up ∧ isLongName name = false) :
    OwnWay (directories place) place := by
  refine ⟨fun name member => (plain name member).1, ?_⟩
  have reached : ∀ names above, above ++ names = place →
      (directories place).walk above names = .ok place := by
    intro names
    induction names with
    | nil =>
        intro above whole
        rw [List.append_nil] at whole
        rw [whole]
        rfl
    | cons name names ih =>
        intro above whole
        have here : (directories place).lookup above = some .directory :=
          lookup_directories_iff.mpr ⟨name :: names, whole⟩
        have next : above ++ [name] ++ names = place := by
          rw [List.append_assoc]
          exact whole
        have there : (directories place).lookup (above ++ [name]) = some .directory :=
          lookup_directories_iff.mpr ⟨names, next⟩
        obtain ⟨noUp, short⟩ := plain name (by rw [← whole]; simp)
        have led : (directories place).child above name = .ok (above ++ [name]) :=
          child_eq_ok_iff.mpr ⟨here, Or.inr ⟨noUp, short, rfl⟩⟩
        refine walk_cons_eq_ok_iff.mpr ⟨_, step_eq_ok_iff.mpr ⟨led, ?_⟩, ih _ next⟩
        rw [there]
        rfl
  exact reached place [] rfl

theorem read_of_refused {fault : Fault} (refused : accept p = .error fault) :
    fs.read working p = .error fault := by
  unfold read find
  rw [refused]
  rfl

end FileSystem

/-- A path that does not begin with `~` is not expanded. -/
theorem Host.expand_of_no_home (host : Host) {p : Path} (noHome : p.render.head? ≠ some '~') :
    host.expand p = .ok p := by
  unfold expand
  split
  · rename_i account names relative first
    have starts : (Text.join ['/'] (('~' :: account) :: names)).head? = some '~' :=
      Path.head?_join (List.cons_ne_nil '~' account) names
    have bare : p.root.render ++ Text.join ['/'] p.names =
        Text.join ['/'] (('~' :: account) :: names) := by
      rw [relative, first]
      rfl
    have written : p.render = Text.join ['/'] (('~' :: account) :: names) := by
      rw [Path.render_of_ne_nil, bare]
      intro empty
      rw [← bare, empty] at starts
      cases starts
    exact absurd (written ▸ starts) noHome
  · rfl

namespace OutputFile

open FileSystem (OwnWay KeepsDirectories IsEntry destination accept)

variable {fs made : FileSystem} {host : Host} {settings : Settings}
  {storage workspace base written : Text} {file : OutputFile} {path : Path}

/-- A path that does not begin with `~` is located as it was before it was written. -/
theorem locate_render (host : Host) (proper : path.IsProper) (noHome : path.render.head? ≠ some '~') :
    locate host path.render = host.absolute path := by
  rw [locate, Path.ofText_render proper, host.expand_of_no_home noHome]
  rfl

theorem load_of_read {content : Bytes} (located : locate host written = .ok path)
    (held : fs.read host.working path = .ok content) :
    load host (fs.read host.working) written = .ok ⟨path, textOf content⟩ := by
  rw [load, located]
  dsimp only
  rw [held]
  rfl

/-! ## A file that was created and written -/

/-- A file that was created takes any content, a device apart, and the way to it stays. -/
theorem exists_written
    (created : create fs host.working host.levels settings storage workspace = (made, .ok file))
    (content : Bytes) : file.path.IsProper ∧
      ∃ after node, made.write host.working file.path content = .ok after ∧
        after.find host.working file.path = .ok node ∧
        (node = .file content ∨
          ∃ given, node = .device given ∧ made.find host.working file.path = .ok node) ∧
        (file.path.root = .relative → OwnWay fs host.working → OwnWay after host.working) := by
  have succeeds : (create fs host.working host.levels settings storage workspace).2.isOk = true := by
    rw [created]
    rfl
  obtain ⟨grown, ensured, entry, first, taken, outcome⟩ := written_of_create succeeds
  rw [created, Prod.mk.injEq, Except.ok.injEq] at outcome
  obtain ⟨rfl, rfl⟩ := outcome
  set p := pathIn settings storage workspace
  have free := FileSystem.ne_directory_of_overwrite taken
  have keepsFirst : KeepsDirectories grown (grown.put (destination host.working p) first) :=
    FileSystem.keepsDirectories_put free _
  have held : (grown.put (destination host.working p) first).lookup (destination host.working p) =
      some first := FileSystem.lookup_put_self entry.destination_ne_nil _
  have entryAfter := entry.mono keepsFirst
  -- what was opened for writing once can be written again, and is of the same kind
  have again : ∃ node, FileSystem.overwrite content (some first) = .ok node ∧
      (node = .file content ∨ ∃ given, node = .device given ∧ first = node) := by
    rcases FileSystem.overwrite_eq_ok_iff.mp taken with ⟨-, rfl⟩ | ⟨given, -, rfl⟩
    · exact ⟨_, rfl, Or.inl rfl⟩
    · exact ⟨_, rfl, Or.inr ⟨given, rfl, rfl⟩⟩
  obtain ⟨node, overwritten, kind⟩ := again
  rw [← held] at overwritten
  have stillFree := FileSystem.ne_directory_of_overwrite overwritten
  refine ⟨isProper_pathIn settings storage workspace, _, node,
    FileSystem.write_eq_ok_iff.mpr ⟨entryAfter, node, overwritten, rfl⟩,
    entryAfter.find_put stillFree node, ?_, ?_⟩
  · rcases kind with isFile | ⟨given, device, rfl⟩
    · exact Or.inl isFile
    · exact Or.inr ⟨given, device, entry.find_put free first⟩
  · intro relative own
    have start : destination host.working ⟨p.parent.root, []⟩ = host.working := if_pos relative
    have inGrown : grown.lookup host.working = some .directory := by
      rw [← start]
      exact FileSystem.lookup_of_find_directory entry.directory List.nil_prefix
    have growing := FileSystem.ensureDirectory_grown fs host.working host.levels p.parent
    rw [ensured] at growing
    have inFirst : fs.lookup host.working = some .directory := by
      rcases growing host.working with same | ⟨gone, -, -⟩
      · rw [← same, inGrown]
      · have there := own.isSome
        rw [gone] at there
        cases there
    exact own.mono inFirst fun place there =>
      FileSystem.keepsDirectories_put stillFree node _
        (keepsFirst _ (growing.keepsDirectories _ there))

/-- **A handle and the written form of its path lead to one file.**  Let an output file be
created whose path does not begin with `~`.  If the path is relative, let the working directory
be reached by its own names, and let the path stand for one from the root that the system takes.
Then the file takes any content, and its diagnostics are the same, whether they are asked of
the handle or of the file that the written path names: those of the content, or of what a
device gives at the end of the path. -/
theorem entry_points_agree (fs made : FileSystem) (host : Host) (settings : Settings)
    (storage workspace : Text) (file : OutputFile)
    (created : create fs host.working host.levels settings storage workspace = (made, .ok file))
    (noHome : file.path.render.head? ≠ some '~')
    (reached : file.path.root = .relative → OwnWay fs host.working ∧
      ∃ whole, host.absolute file.path = .ok whole ∧ accept whole = .ok ())
    (content : Bytes) (base : Text) :
    ∃ after, made.write host.working file.path content = .ok after ∧
      ∃ bytes, (bytes = content ∨ made.find host.working file.path = .ok (.device bytes)) ∧
        diagnostics after host.working file base = .ok (Feedback.groups base (textOf bytes)) ∧
        parse after host file.path.render (some base) =
          .ok (Feedback.groups base (textOf bytes)) := by
  obtain ⟨proper, after, node, written, found, kind, stays⟩ := exists_written created content
  have located : ∃ whole, host.absolute file.path = .ok whole ∧
      after.find host.working whole = .ok node := by
    by_cases relative : file.path.root = .relative
    · obtain ⟨own, whole, absolute, accepted⟩ := reached relative
      exact ⟨whole, absolute,
        FileSystem.find_absolute (stays relative own) relative absolute accepted found⟩
    · have accepted := (FileSystem.find_eq_ok_iff.mp found).1
      exact ⟨_, host.absolute_of_rooted relative (FileSystem.accept_eq_ok_iff.mp accepted).1,
        FileSystem.find_collapse relative found⟩
  obtain ⟨whole, absolute, foundWhole⟩ := located
  have opened : ∃ bytes, FileSystem.contentOf node = .ok bytes ∧
      (bytes = content ∨ made.find host.working file.path = .ok (.device bytes)) := by
    rcases kind with rfl | ⟨given, rfl, device⟩
    · exact ⟨content, rfl, Or.inl rfl⟩
    · exact ⟨given, rfl, Or.inr device⟩
  obtain ⟨bytes, opened, origin⟩ := opened
  have near : after.read host.working file.path = .ok bytes :=
    FileSystem.bind_eq_ok_iff.mpr ⟨node, found, opened⟩
  have far : after.read host.working whole = .ok bytes :=
    FileSystem.bind_eq_ok_iff.mpr ⟨node, foundWhole, opened⟩
  refine ⟨after, written, bytes, origin, ?_, ?_⟩
  · rw [diagnostics, readText, readPath, near]
    rfl
  · rw [parse, load_of_read ((locate_render host proper noHome).trans absolute) far]
    rfl

/-! ## Runs -/

/-- Settings under which all workspaces have one output file. -/
def oneFile (name : Text) : Settings := ⟨"ghcid".toList, name, [], 0⟩

def nearHost : Host := ⟨["w".toList], false, some "/h".toList, [], 2⟩

/-- A file behind a detour, whose name begins with `~` but not its path. -/
def nearFile : OutputFile :=
  ⟨"one".toList, ⟨.relative, ["x".toList, Path.up, "y".toList, "~out".toList]⟩⟩

theorem entry_points_agree_near :
    nearFile.path.render.head? ≠ some '~' ∧
      OwnWay (FileSystem.directories nearHost.working) nearHost.working ∧
      (∃ whole, nearHost.absolute nearFile.path = .ok whole ∧ accept whole = .ok ()) ∧
      ∃ made, create (FileSystem.directories nearHost.working) nearHost.working nearHost.levels
          (oneFile "~out".toList) "./x/..//y".toList "one".toList = (made, .ok nearFile) ∧
        ∃ after, made.write nearHost.working nearFile.path [65, 13] = .ok after ∧
          ∃ bytes, (bytes = [65, 13] ∨
              made.find nearHost.working nearFile.path = .ok (.device bytes)) ∧
            diagnostics after nearHost.working nearFile ['/'] =
              .ok (Feedback.groups ['/'] (textOf bytes)) ∧
            parse after nearHost nearFile.path.render (some ['/']) =
              .ok (Feedback.groups ['/'] (textOf bytes)) := by
  have own : OwnWay (FileSystem.directories nearHost.working) nearHost.working :=
    FileSystem.ownWay_directories (by decide)
  have noHome : nearFile.path.render.head? ≠ some '~' := by decide
  have whole : ∃ whole, nearHost.absolute nearFile.path = .ok whole ∧ accept whole = .ok () :=
    ⟨⟨.absolute, ["w".toList, "y".toList, "~out".toList]⟩, by decide, by decide⟩
  refine ⟨noHome, own, whole, _, rfl, ?_⟩
  exact entry_points_agree _ _ nearHost (oneFile "~out".toList) "./x/..//y".toList "one".toList
    nearFile rfl noHome (fun _ => ⟨own, whole⟩) [65, 13] ['/']

/-- A working directory whose path is nearly too long. -/
def deepHost : Host := ⟨List.replicate 16 (List.replicate 250 'w'), false, none, [], 0⟩

def deepFile : OutputFile := ⟨"one".toList, ⟨.relative, [List.replicate 100 'o']⟩⟩

/-- The path of that file from the root. -/
def deepPath : Path := ⟨.absolute, deepHost.working ++ [List.replicate 100 'o']⟩

theorem entry_points_differ :
    (OwnWay (FileSystem.directories nearHost.working) nearHost.working ∧
      ∃ made file after, create (FileSystem.directories nearHost.working) nearHost.working
          nearHost.levels (oneFile "out".toList) "~".toList "one".toList = (made, .ok file) ∧
        made.write nearHost.working file.path [] = .ok after ∧
        diagnostics after nearHost.working file ['/'] = .ok [] ∧
        parse after nearHost file.path.render (some ['/']) =
          .error (.unread (.reported ⟨"/h/out".toList, .missing⟩))) ∧
      OwnWay (FileSystem.directories deepHost.working) deepHost.working ∧
      ∃ made file after, create (FileSystem.directories deepHost.working) deepHost.working
          deepHost.levels (oneFile (List.replicate 100 'o')) [] "one".toList = (made, .ok file) ∧
        made.write deepHost.working file.path [] = .ok after ∧
        diagnostics after deepHost.working file ['/'] = .ok [] ∧
        parse after deepHost file.path.render (some ['/']) =
          .error (.unread (.reported ⟨deepPath.render, .unreadable .nameTooLong⟩)) := by
  refine ⟨⟨FileSystem.ownWay_directories (by decide), _, _, _, rfl, rfl, rfl, rfl⟩, ?_⟩
  have own : OwnWay (FileSystem.directories deepHost.working) deepHost.working := by
    refine FileSystem.ownWay_directories fun name member => ?_
    rw [List.eq_of_mem_replicate member]
    decide +kernel
  have directory : (FileSystem.directories deepHost.working).find deepHost.working ⟨.relative, []⟩ =
      .ok .directory :=
    FileSystem.find_eq_ok_iff.mpr ⟨by decide, deepHost.working, rfl,
      FileSystem.lookup_directories_iff.mpr (List.prefix_refl _)⟩
  have entry : IsEntry (FileSystem.directories deepHost.working) deepHost.working deepFile.path :=
    ⟨by decide, directory, List.replicate 100 'o', rfl, by decide, by decide⟩
  have free : (FileSystem.directories deepHost.working).lookup
      (destination deepHost.working deepFile.path) = none := by
    refine FileSystem.lookup_directories_of_outside fun leads => ?_
    have bound := leads.length_le
    revert bound
    decide
  have created : create (FileSystem.directories deepHost.working) deepHost.working deepHost.levels
      (oneFile (List.replicate 100 'o')) [] "one".toList = ((FileSystem.directories
        deepHost.working).put (destination deepHost.working deepFile.path) (.file []), .ok deepFile) :=
    create_of_isEntry (FileSystem.ensureDirectory_of_found directory deepHost.levels) entry
      (Or.inl free)
  obtain ⟨proper, after, node, written, found, kind, -⟩ := exists_written created []
  have device : ∀ given, node = .device given →
      ((FileSystem.directories deepHost.working).put (destination deepHost.working deepFile.path)
        (.file [])).find deepHost.working deepFile.path ≠ .ok node := by
    rintro given rfl there
    rw [entry.find_put (by simp [free])] at there
    cases there
  obtain rfl : node = .file [] := kind.resolve_right fun ⟨given, isDevice, there⟩ =>
    device given isDevice there
  refine ⟨own, _, _, after, created, written, ?_, ?_⟩
  · rw [diagnostics, readText, readPath, FileSystem.read_eq_ok_iff.mpr (Or.inl found)]
    rfl
  · have absolute : deepHost.absolute deepFile.path = .ok deepPath := by decide +kernel
    have located := (locate_render deepHost proper (by decide)).trans absolute
    have refused : accept deepPath = .error .nameTooLong :=
      FileSystem.accept_of_long (by decide +kernel) (by decide +kernel)
    rw [parse, load, located]
    dsimp only
    rw [FileSystem.read_of_refused refused]
    rfl

end OutputFile

end CompilerFeedback
