/-
# CompilerFeedback.Proofs.CommandLine -- how reading a named file ends

Between the path that the user writes and the report stand four steps: the home directory
is expanded, the path is written out from the root, the file is read, and its text is
parsed.  A file that cannot be read is an error of its own, whatever the fault: nothing
there, a directory, a file on the way, a name or a path that is too long.

* `OutputFile.parse_ends`: naming a file gives groups exactly if there is a file or a device,
  and such an error otherwise, once the path stands for one from the root.
* `run_ends`: the program ends with 0 and the report, or with 1 and the error in a line.

What breaks the program off instead are the obstacles on the first two steps: a home directory
that is not known, a working directory that was removed (`breaks_off_before_reading`).  In the
earlier edition of the rules for arguments it may also be a base directory that is missing
where a diagnostic needs one.
-/
import CompilerFeedback.CommandLine
import CompilerFeedback.Proofs.OutputFile.EntryPoints

namespace CompilerFeedback

set_option autoImplicit false

/-! ## Paths that stand for no path from the root -/

namespace Host

variable {host : Host} {p : Path} {obstacle : Obstacle}

/-- Whether a path is written in a home directory. -/
def IsAtHome (p : Path) (account : Text) : Prop :=
  p.root = .relative ∧ p.names.head? = some ('~' :: account)

/-- What keeps a path from standing for one from the root. -/
def Obstructs (host : Host) (p : Path) : Obstacle → Prop
  | .unknownHome => ∃ account, IsAtHome p account ∧ account.contains '\x00' = false ∧
      host.homeOf? account = none
  | .noWorkingDirectory => ∃ whole, host.expand p = .ok whole ∧
      FileSystem.hasNull (host.namesFromRoot whole) = false ∧
      whole.root = .relative ∧ host.workingGone = true
  | .nullCharacter => (∃ account, IsAtHome p account ∧ account.contains '\x00' = true) ∨
      ∃ whole, host.expand p = .ok whole ∧ FileSystem.hasNull (host.namesFromRoot whole) = true

theorem expand_eq_error_iff : host.expand p = .error obstacle ↔
    ∃ account, IsAtHome p account ∧
      (account.contains '\x00' = true ∧ obstacle = .nullCharacter ∨
        account.contains '\x00' = false ∧ host.homeOf? account = none ∧
          obstacle = .unknownHome) := by
  unfold expand
  split
  · rename_i account names relative first
    have here : ∀ other, IsAtHome p other ↔ other = account := by
      intro other
      simp [IsAtHome, relative, first, eq_comm]
    simp only [here, exists_eq_left]
    cases account.contains '\x00' with
    | true => simp [eq_comm]
    | false => cases host.homeOf? account <;> simp [eq_comm]
  · rename_i other
    refine iff_of_false (by simp) ?_
    rintro ⟨account, ⟨relative, first⟩, -⟩
    obtain ⟨names, split⟩ := List.head?_eq_some_iff.mp first
    exact other account names relative split

theorem absolute_eq_error_iff : host.absolute p = .error obstacle ↔
    FileSystem.hasNull (host.namesFromRoot p) = true ∧ obstacle = .nullCharacter ∨
      FileSystem.hasNull (host.namesFromRoot p) = false ∧
        (p.root = .relative ∧ host.workingGone = true) ∧ obstacle = .noWorkingDirectory := by
  unfold absolute
  cases FileSystem.hasNull (host.namesFromRoot p) with
  | true =>
      rw [if_pos rfl, Except.error.injEq, eq_comm]
      simp
  | false =>
      rw [if_neg Bool.false_ne_true]
      by_cases lost : p.root = .relative ∧ host.workingGone = true
      · rw [if_pos lost, Except.error.injEq, eq_comm, and_iff_right lost]
        simp
      · rw [if_neg lost]
        refine iff_of_false (by simp) ?_
        rintro (⟨impossible, -⟩ | ⟨-, gone, -⟩)
        · cases impossible
        · exact lost gone

end Host

namespace FileSystem

/-- Whether a path leads to a file, or to a device, that gives `content`. -/
def Gives (fs : FileSystem) (working : Place) (p : Path) (content : Bytes) : Prop :=
  fs.find working p = .ok (.file content) ∨ fs.find working p = .ok (.device content)

end FileSystem

namespace OutputFile

open FileSystem (Gives)

variable {fs : FileSystem} {host : Host} {written : Text} {path : Path}
  {obstacle : Host.Obstacle}

theorem locate_eq_error_iff : locate host written = .error obstacle ↔
    host.Obstructs (Path.ofText written) obstacle := by
  rw [locate, FileSystem.bind_eq_error_iff, Host.expand_eq_error_iff]
  simp only [Host.absolute_eq_error_iff]
  cases obstacle <;> simp [Host.Obstructs]

/-- A path that was located holds no null character. -/
theorem hasNull_of_locate (located : locate host written = .ok path) :
    FileSystem.hasNull path.names = false := by
  obtain ⟨whole, -, absolute⟩ := FileSystem.bind_eq_ok_iff.mp located
  obtain ⟨clean, -, rfl⟩ := Host.absolute_eq_ok_iff.mp absolute
  refine FileSystem.hasNull_eq_false_of_subset (fun name member => ?_) clean
  have kept := (Path.foldl_push_sublist (host.namesFromRoot whole) []).subset member
  simpa using kept

/-- Whatever is there instead of a file, it is an error of the output file. -/
theorem load_of_no_file (located : locate host written = .ok path)
    (noFile : ∀ content, ¬ fs.Gives host.working path content) :
    ∃ cause, load host (fs.read host.working) written =
      .error (.unread (.reported ⟨path.render, cause⟩)) := by
  rw [load, located]
  dsimp only
  cases outcome : fs.read host.working path with
  | ok content => exact absurd (FileSystem.read_eq_ok_iff.mp outcome) (noFile content)
  | error fault =>
      have system : fault.isSystem = true :=
        (FileSystem.read_isDue outcome).isSystem (hasNull_of_locate located)
      refine ⟨.ofRead fault, ?_⟩
      rw [textOrFailure, Failure.of, if_pos system]

theorem load_of_obstacle {read : Path → Except FileSystem.Fault Bytes}
    (unlocated : locate host written = .error obstacle) :
    load host read written = .error (.unlocated obstacle) := by
  rw [load, unlocated]

/-- **A named file gives groups exactly if it is there.**  Otherwise it gives an error of the
output file, unless the path stands for none from the root. -/
theorem parse_ends (fs : FileSystem) (host : Host) (written : Text) (given : Option Text) :
    (∀ obstacle, locate host written = .error obstacle →
        parse fs host written given = .error (.unlocated obstacle)) ∧
      ∀ path, locate host written = .ok path →
        (∀ content, fs.Gives host.working path content →
          parse fs host written given =
            .ok (Feedback.groups (given.getD path.parent.render) (textOf content))) ∧
        ((∀ content, ¬ fs.Gives host.working path content) →
          ∃ cause, parse fs host written given =
            .error (.unread (.reported ⟨path.render, cause⟩))) := by
  refine ⟨fun obstacle unlocated => ?_,
    fun path located => ⟨fun content gives => ?_, fun noFile => ?_⟩⟩
  · rw [parse, load_of_obstacle unlocated]
    rfl
  · rw [parse, load_of_read located (FileSystem.read_eq_ok_iff.mpr gives)]
    rfl
  · obtain ⟨cause, refused⟩ := load_of_no_file located noFile
    refine ⟨cause, ?_⟩
    rw [parse, refused]
    rfl

end OutputFile

/-! ## Texts that need no base directory -/

theorem Entry.ofBlock?_of_no_base {block : Block} (free : Entry.needsBase block = false)
    (base other : Text) : Entry.ofBlock? base block = Entry.ofBlock? other block := by
  unfold Entry.needsBase at free
  unfold Entry.ofBlock?
  cases dedented : Block.dedent block with
  | nil => rfl
  | cons opening body =>
      rw [dedented] at free
      dsimp only at free ⊢
      cases read : Opening.ofLine opening with
      | success => rfl
      | unlocated =>
          rw [read] at free
          cases free
      | located header rest =>
          rw [read] at free
          have rooted : Path.isRooted header.path = true := by simpa using free
          have resolved : ∀ base, Path.resolve base header.path = header.path :=
            fun base => if_pos rooted
          dsimp only
          rw [Entry.located, Entry.located, resolved, resolved]

/-- Where no entry depends on the base directory, any will do. -/
theorem Feedback.groups_of_no_base {text : Text} (free : Feedback.needsBase text = false)
    (base other : Text) : Feedback.groups base text = Feedback.groups other text := by
  have entries : Feedback.entries base text = Feedback.entries other text := by
    unfold Feedback.entries
    refine List.filterMap_congr fun block member => ?_
    have own := List.any_eq_false.mp free block member
    exact Entry.ofBlock?_of_no_base (Bool.eq_false_iff.mpr own) base other
  rw [Feedback.groups, Feedback.groups, entries]

/-! ## The program -/

namespace CommandLine

/-! ### The base directory that is asked for -/

theorem base_turnOn (r : Request) (switch : Switch) : (r.turnOn switch).base = r.base := by
  cases switch <;> rfl

theorem base_takeFree (r : Request) (argument : Text) : (r.takeFree argument).base = r.base := by
  unfold Request.takeFree
  split <;> rfl

theorem base_takeBundle (r : Request) (bundle : Bundle) : (r.takeBundle bundle).base = r.base := by
  have plain : ∀ (switches : List Switch) (r : Request),
      (switches.foldl Request.turnOn r).base = r.base := by
    intro switches
    induction switches with
    | nil => exact fun r => rfl
    | cons switch switches ih => exact fun r => (ih _).trans (base_turnOn r switch)
  unfold Request.takeBundle
  dsimp only
  split
  · exact plain bundle.plain r
  · exact plain bundle.plain r

theorem ofValue_current (value : Text) : Base.ofValue .current value = .directory value :=
  if_neg (by simp)

/-- In the current edition no value of an option is dropped. -/
theorem base_of_collect {r after : Request} {items : List Item}
    (collected : collect .current r items = .ok after) (held : r.base ≠ .nowhere) :
    after.base ≠ .nowhere := by
  induction r, items using collect.induct .current with
  | case1 r =>
      rw [collect] at collected
      cases collected
      exact held
  | case2 r argument items ih =>
      rw [collect] at collected
      exact ih collected held
  | case3 r argument items free ih =>
      rw [collect, free] at collected
      exact ih collected (by rwa [base_takeFree])
  | case4 r argument items taken there ih =>
      rw [collect, there] at collected
      exact ih collected (by rwa [base_takeFree])
  | case5 r items noFree ih =>
      rw [collect] at collected
      · exact ih collected held
      · exact noFree
  | case6 r argument items free ih =>
      rw [collect, free] at collected
      exact ih collected (by rwa [base_takeFree])
  | case7 r argument items taken there ih =>
      rw [collect, there] at collected
      exact ih collected (by rwa [base_takeFree])
  | case8 r argument items noEnd ih =>
      rw [collect] at collected
      · exact ih collected (by rwa [base_takeFree])
      · exact noEnd
  | case9 r found items ih =>
      rw [collect] at collected
      obtain ⟨bundle, -, rest⟩ := FileSystem.bind_eq_ok_iff.mp collected
      have each := ih bundle
      have kept : (r.takeBundle bundle).base ≠ .nowhere := by rwa [base_takeBundle]
      dsimp only at rest each
      split at rest
      · rename_i none
        simp only [none] at each
        split at rest
        · cases rest
          exact kept
        · exact each rest kept
      · rename_i valued
        simp only [valued] at each
        split at rest
        · cases rest
          exact kept
        · exact each rest (by simp [ofValue_current])
      · rename_i valued
        simp only [valued] at each
        split at rest
        · cases rest
          exact kept
        · exact each rest (by simp [ofValue_current])
      · cases rest

theorem base_of_interpret {arguments : List Text} {output : Text} {base : Base} {json debug : Bool}
    (asked : interpret .current arguments = .ok (.report output base json debug)) :
    base ≠ .nowhere := by
  obtain ⟨items, -, rest⟩ := FileSystem.bind_eq_ok_iff.mp asked
  obtain ⟨r, collected, order⟩ := FileSystem.bind_eq_ok_iff.mp rest
  have held : r.base ≠ .nowhere := base_of_collect collected (by simp [Request.start])
  split at order
  · cases order
  · split at order <;> cases order
    exact held

/-! ### Options before a lone free argument -/

section Arguments

variable {edition : Edition} {arguments : List Text} {argument output : Text} {r : Request}
  {items : List Item} {found : Found}

theorem sort_cons {item : Item} (noMarker : argument ≠ endMarker)
    (kind : Item.ofArgument argument = .ok item) (sorted : sort arguments = .ok items) :
    sort (argument :: arguments) = .ok (item :: items) := by
  rw [sort, if_neg noMarker, kind, sorted]
  rfl

theorem sort_free (free : Text.startsWith ['-'] argument = false) :
    sort [argument] = .ok [.free argument] := by
  have noMarker : argument ≠ endMarker := by
    rintro rfl
    cases free
  have kind : Item.ofArgument argument = .ok (.free argument) := if_pos (by simp [free])
  exact sort_cons noMarker kind (by rw [sort])

theorem collect_free (edition : Edition) (r : Request) (argument : Text) :
    collect edition r [.free argument] = .ok (r.takeFree argument) := by
  rw [collect]
  · rw [collect]
  · intro items impossible
    cases impossible

theorem collect_switch {switch : Switch} (bundled : found.bundle edition = .ok ⟨[switch], none, none⟩)
    (noHelp : (r.turnOn switch).help = false) :
    collect edition r (.option found :: items) = collect edition (r.turnOn switch) items := by
  rw [collect, bundled]
  exact if_neg (by simp [Request.takeBundle, noHelp])

theorem collect_value {value : Text}
    (bundled : found.bundle edition = .ok ⟨[], some (some value), none⟩) (noHelp : r.help = false) :
    collect edition r (.option found :: items) =
      collect edition { r with base := .ofValue edition value } items := by
  rw [collect, bundled]
  exact if_neg (by simp [Request.takeBundle, noHelp])

/-- Where nothing is left over, the file that was taken is reported on. -/
theorem interpret_of_collect (sorted : sort arguments = .ok items)
    (collected : collect edition .start items = .ok r) (noHelp : r.help = false)
    (taken : r.output = some output) (nothing : r.leftOver = []) :
    interpret edition arguments = .ok (.report output r.base r.json r.debug) := by
  rw [interpret, sorted]
  change (collect edition .start items >>= _) = _
  rw [collected]
  simp [bind, Except.bind, noHelp, taken, nothing, pure, Except.pure]

/-- A lone argument that is no option names the output file. -/
theorem interpret_singleton (edition : Edition) (free : Text.startsWith ['-'] output = false) :
    interpret edition [output] = .ok (.report output .beside false false) :=
  interpret_of_collect (sort_free free) (collect_free edition .start output) rfl rfl rfl

/-- The same with an option before it. -/
theorem interpret_json (edition : Edition) (free : Text.startsWith ['-'] output = false) :
    interpret edition ["--json".toList, output] = .ok (.report output .beside true false) := by
  have sorted : sort ["--json".toList, output] =
      .ok [.option ⟨.json, "--json".toList, none, false⟩, .free output] :=
    sort_cons (by decide) rfl (sort_free free)
  have collected : collect edition .start
      [.option ⟨.json, "--json".toList, none, false⟩, .free output] =
      .ok ((Request.start.turnOn .json).takeFree output) := by
    rw [collect_switch rfl rfl, collect_free]
  exact interpret_of_collect sorted collected rfl rfl rfl

end Arguments

/-! ### How a run ends -/

/-- The base directory that is given with the arguments, if there is one. -/
def Base.given : Base → Option Text
  | .directory path => some path
  | .beside | .nowhere => none

/-- Whether a text can be read with a base directory. -/
def Base.Serves (base : Base) (text : Text) : Prop :=
  base = .nowhere → Feedback.needsBase text = false

namespace Outcome

/-- Whether a run ended with the report on some groups. -/
def Reports (outcome : Outcome) (json : Bool) (groups : List Group) : Prop :=
  outcome.ending = .exit 0 ∧
    outcome.output = if json then Report.json groups else Report.plain groups

/-- Whether a run ended with an error in a line, and wrote nothing else. -/
def Refuses (outcome : Outcome) (error : OutputFile.Error) : Prop :=
  outcome = ⟨.exit 1, [], "ghcidlog: ".toList ++ error.render ++ ['\n']⟩

/-- Whether a run broke off before it wrote a report. -/
def BreaksOff (outcome : Outcome) (fault : Fault) : Prop :=
  outcome.ending = .broken fault ∧ outcome.output = []

end Outcome

theorem reportIn_reports {base : Base} {file : OutputFile.Loaded} (serves : base.Serves file.text)
    (time : Text) (json debug : Bool) :
    (reportIn time json debug file base).Reports json (file.groups base.given) := by
  cases base with
  | beside => exact ⟨rfl, rfl⟩
  | directory path => exact ⟨rfl, rfl⟩
  | nowhere =>
      have free : Feedback.needsBase file.text = false := serves rfl
      have same : file.groups (some []) = file.groups none := Feedback.groups_of_no_base free _ _
      unfold reportIn
      rw [if_neg (by simp [free])]
      refine ⟨rfl, ?_⟩
      rw [Base.given, ← same]
      rfl

theorem reportIn_breaksOff {base : Base} {file : OutputFile.Loaded}
    (fails : ¬ base.Serves file.text) (time : Text) (json debug : Bool) :
    (reportIn time json debug file base).BreaksOff .noDirectory := by
  unfold Base.Serves at fails
  push Not at fails
  obtain ⟨rfl, needs⟩ := fails
  unfold reportIn
  rw [if_pos (by simpa using needs)]
  exact ⟨rfl, rfl⟩

section Run

variable {edition : Edition} {fs : FileSystem} {host : Host} {arguments : List Text}
  {output : Text} {base : Base} {json debug : Bool} {path : Path} {obstacle : Host.Obstacle}

theorem run_of_obstacle
    (asked : interpret edition arguments = .ok (.report output base json debug))
    (unlocated : OutputFile.locate host output = .error obstacle) (time : Text) :
    (run edition host (fs.read host.working) time arguments).BreaksOff (.unlocated obstacle) := by
  rw [run, asked]
  dsimp only
  rw [OutputFile.load_of_obstacle unlocated]
  exact ⟨rfl, rfl⟩

theorem run_of_file {content : Bytes}
    (asked : interpret edition arguments = .ok (.report output base json debug))
    (located : OutputFile.locate host output = .ok path)
    (gives : fs.Gives host.working path content) (time : Text) :
    (base.Serves (OutputFile.textOf content) →
      ∃ groups, OutputFile.parse fs host output base.given = .ok groups ∧
        (run edition host (fs.read host.working) time arguments).Reports json groups) ∧
      (¬ base.Serves (OutputFile.textOf content) →
        (run edition host (fs.read host.working) time arguments).BreaksOff .noDirectory) := by
  have outcome : run edition host (fs.read host.working) time arguments =
      reportIn time json debug ⟨path, OutputFile.textOf content⟩ base := by
    rw [run, asked]
    dsimp only
    rw [OutputFile.load_of_read located (FileSystem.read_eq_ok_iff.mpr gives)]
  have parsed := ((OutputFile.parse_ends fs host output base.given).2 path located).1 content gives
  rw [outcome]
  exact ⟨fun serves => ⟨_, parsed, reportIn_reports serves time json debug⟩,
    fun fails => reportIn_breaksOff fails time json debug⟩

theorem run_of_no_file
    (asked : interpret edition arguments = .ok (.report output base json debug))
    (located : OutputFile.locate host output = .ok path)
    (noFile : ∀ content, ¬ fs.Gives host.working path content) (time : Text) :
    ∃ error, (∀ given, OutputFile.parse fs host output given =
        .error (.unread (.reported error))) ∧
      (run edition host (fs.read host.working) time arguments).Refuses error := by
  obtain ⟨cause, refused⟩ := OutputFile.load_of_no_file located noFile
  refine ⟨⟨path.render, cause⟩, fun given => ?_, ?_⟩
  · rw [OutputFile.parse, refused]
    rfl
  · rw [run, asked]
    dsimp only
    rw [refused]
    rfl

/-- A run that breaks off at an obstacle did not locate its file. -/
theorem locate_of_breaksOff
    (asked : interpret edition arguments = .ok (.report output base json debug)) {time : Text}
    (broken : (run edition host (fs.read host.working) time arguments).BreaksOff
      (.unlocated obstacle)) : OutputFile.locate host output = .error obstacle := by
  cases located : OutputFile.locate host output with
  | error other =>
      have stopped : (run edition host (fs.read host.working) time arguments).BreaksOff
          (.unlocated other) := run_of_obstacle asked located time
      have ending := stopped.1
      rw [broken.1] at ending
      cases ending
      rfl
  | ok path =>
      exfalso
      by_cases file : ∃ content, fs.Gives host.working path content
      · obtain ⟨content, gives⟩ := file
        obtain ⟨reports, breaks⟩ := run_of_file asked located gives time
        by_cases serves : base.Serves (OutputFile.textOf content)
        · obtain ⟨groups, -, ending, -⟩ := reports serves
          rw [broken.1] at ending
          cases ending
        · have ending := (breaks serves).1
          rw [broken.1] at ending
          cases ending
      · push Not at file
        obtain ⟨error, -, refuses⟩ := run_of_no_file asked located file time
        have ending := broken.1
        rw [refuses] at ending
        cases ending

end Run

/-- **How a run ends.**  If the path of the output file stands for one from the root, the run
ends with 0 and the report where a file or a device is there, and with 1 and the error in a line
where none is, just as parsing the file gives groups or that error.  It breaks off exactly at
the obstacles on the way to a path from the root, and where a diagnostic of the file needs a
base directory and there is none, which the current edition of the rules does not let happen. -/
theorem run_ends (edition : Edition) (fs : FileSystem) (host : Host) (time : Text)
    {arguments : List Text} {output : Text} {base : Base} {json debug : Bool}
    (asked : interpret edition arguments = .ok (.report output base json debug)) :
    (∀ obstacle,
      ((run edition host (fs.read host.working) time arguments).BreaksOff (.unlocated obstacle) ↔
        host.Obstructs (Path.ofText output) obstacle) ∧
      (host.Obstructs (Path.ofText output) obstacle → ∀ given,
        OutputFile.parse fs host output given = .error (.unlocated obstacle))) ∧
    (∀ path, OutputFile.locate host output = .ok path →
      (∀ content, fs.Gives host.working path content →
        (∀ given, OutputFile.parse fs host output given = .ok
          (Feedback.groups (given.getD path.parent.render) (OutputFile.textOf content))) ∧
        (base.Serves (OutputFile.textOf content) →
          ∃ groups, OutputFile.parse fs host output base.given = .ok groups ∧
            (run edition host (fs.read host.working) time arguments).Reports json groups) ∧
        (¬ base.Serves (OutputFile.textOf content) →
          (run edition host (fs.read host.working) time arguments).BreaksOff .noDirectory)) ∧
      ((∀ content, ¬ fs.Gives host.working path content) →
        ∃ error, (∀ given, OutputFile.parse fs host output given =
            .error (.unread (.reported error))) ∧
          (run edition host (fs.read host.working) time arguments).Refuses error)) ∧
    (edition = .current → base ≠ .nowhere) := by
  refine ⟨fun obstacle => ?_, fun path located => ⟨fun content gives => ?_, fun noFile => ?_⟩, ?_⟩
  · rw [← OutputFile.locate_eq_error_iff]
    refine ⟨⟨locate_of_breaksOff asked, fun unlocated => run_of_obstacle asked unlocated time⟩, ?_⟩
    exact fun unlocated given => (OutputFile.parse_ends fs host output given).1 obstacle unlocated
  · have parses := fun given =>
      ((OutputFile.parse_ends fs host output given).2 path located).1 content gives
    exact ⟨parses, run_of_file asked located gives time⟩
  · exact run_of_no_file asked located noFile time
  · rintro rfl
    exact base_of_interpret asked

def homeHost : Host := ⟨["w".toList], false, some "/h/".toList, [], 0⟩

/-- A home directory with an output file. -/
def homeFiles : FileSystem :=
  ⟨[(["h".toList], .directory),
    (["h".toList, "out".toList], .file (Text.Utf8.encode "A.hs:1:2: error:\r\n    é".toList))]⟩

theorem run_ends_at_home :
    interpret .current ["~/out".toList] = .ok (.report "~/out".toList .beside false false) ∧
      (∃ groups, OutputFile.parse homeFiles homeHost "~/out".toList none = .ok groups ∧
        (run .current homeHost (homeFiles.read homeHost.working) [] ["~/out".toList]).Reports
          false groups) ∧
      interpret .current ["~/out/x".toList] = .ok (.report "~/out/x".toList .beside false false) ∧
      ∃ error, (∀ given, OutputFile.parse homeFiles homeHost "~/out/x".toList given =
          .error (.unread (.reported error))) ∧
        (run .current homeHost (homeFiles.read homeHost.working) [] ["~/out/x".toList]).Refuses
          error := by
  have first : interpret .current ["~/out".toList] =
      .ok (.report "~/out".toList .beside false false) := interpret_singleton .current rfl
  have second : interpret .current ["~/out/x".toList] =
      .ok (.report "~/out/x".toList .beside false false) := interpret_singleton .current rfl
  have there := (run_ends .current homeFiles homeHost [] first).2.1
    ⟨.absolute, ["h".toList, "out".toList]⟩ (by decide)
  have below := (run_ends .current homeFiles homeHost [] second).2.1
    ⟨.absolute, ["h".toList, "out".toList, "x".toList]⟩ (by decide)
  refine ⟨first, ?_, second, ?_⟩
  · refine (there.1 (Text.Utf8.encode "A.hs:1:2: error:\r\n    é".toList) (Or.inl rfl)).2.1 ?_
    intro nowhere
    cases nowhere
  · refine below.2 fun content gives => ?_
    have fault : homeFiles.find homeHost.working
        ⟨.absolute, ["h".toList, "out".toList, "x".toList]⟩ = .error .notDirectory := by rfl
    rcases gives with found | found
    · rw [fault] at found
      cases found
    · rw [fault] at found
      cases found

/-- A host whose working directory was removed, and whose user has a home directory that begins
with `~` itself. -/
def lostHost : Host := ⟨[], true, some "~/h".toList, [], 0⟩

/-- Paths that stand for no path from the root: in the home directory of nobody, in a home
directory that begins with `~`, and in a working directory that is gone. -/
theorem breaks_off_before_reading :
    (OutputFile.parse homeFiles homeHost "~ghost/x".toList none =
        .error (.unlocated .unknownHome) ∧
      interpret .current ["~ghost/x".toList] =
        .ok (.report "~ghost/x".toList .beside false false) ∧
      (run .current homeHost (homeFiles.read homeHost.working) [] ["~ghost/x".toList]).BreaksOff
        (.unlocated .unknownHome)) ∧
    OutputFile.parse homeFiles lostHost "~/x".toList none = .error (.unlocated .unknownHome) ∧
    OutputFile.parse homeFiles lostHost "x".toList none =
      .error (.unlocated .noWorkingDirectory) := by
  have asked : interpret .current ["~ghost/x".toList] =
      .ok (.report "~ghost/x".toList .beside false false) := interpret_singleton .current rfl
  have ghost : OutputFile.locate homeHost "~ghost/x".toList = .error .unknownHome := by decide
  have again : OutputFile.locate lostHost "~/x".toList = .error .unknownHome := by decide
  have gone : OutputFile.locate lostHost "x".toList = .error .noWorkingDirectory := by decide
  refine ⟨⟨?_, asked, run_of_obstacle asked ghost []⟩, ?_, ?_⟩
  · exact (OutputFile.parse_ends homeFiles homeHost "~ghost/x".toList none).1 _ ghost
  · exact (OutputFile.parse_ends homeFiles lostHost "~/x".toList none).1 _ again
  · exact (OutputFile.parse_ends homeFiles lostHost "x".toList none).1 _ gone

end CommandLine

end CompilerFeedback
