/-
# CompilerFeedback.Proofs.Journal -- one handler and one threshold

Setting the journal up is asked for by three kinds of steps and done at most once between
two resets; it can be refused half way, when the level is set and no handler attached.  So
at any time there is one handler if the journal is ready and none otherwise, and what was
decided about the names of the package still agrees with its threshold (`Sound`).

The handler passes everything, or has the level of the package journal (`Open`): only
obtaining the package journal itself takes the level away and leaves the handler with it.
Up to that, a record under a name of the package is written once if it passes the one
threshold of the package, and not at all if it does not.  What is written is the record laid
out by the template of the handler, or a report that it cannot be.

* `Sound.step`, `Open.step`: what a step keeps; `sound_run`, `open_run`: what a run keeps.
* `one_handler_one_threshold`: the handlers after any run, and what a record adds then.
* `threshold_misses`: a name with two dots, the root without a level, and a stray percent sign.
-/
import CompilerFeedback.Journal
import CompilerFeedback.Proofs.Journal.Name
import Mathlib.Data.List.Induction

namespace CompilerFeedback.Journal

set_option autoImplicit false

/-! ## Runs, read from their steps -/

/-- Whether a step sets the journal up, unless that was done. -/
def Step.setsUp : Step → Bool
  | .setUp _ template => Template.hasField (templateOf template)
  | .obtain _ | .setLevel _ | .enableDebug => true
  | .reset | .log _ | .notes _ => false

/-- The steps after the last reset. -/
def sinceReset (steps : List Step) : List Step := (steps.reverse.takeWhile (· ≠ .reset)).reverse

/-- Whether setting up came to its end since the last reset. -/
def isSetUp (steps : List Step) : Bool := (sinceReset steps).any Step.setsUp

/-- The threshold of the package: its level, or where none is set that of the root. -/
def limit (j : Journal) : Int := if j.level = 0 then j.rootLevel else j.level

theorem sinceReset_concat (steps : List Step) (s : Step) :
    sinceReset (steps ++ [s]) = if s = .reset then [] else sinceReset steps ++ [s] := by
  by_cases reset : s = .reset <;> simp [sinceReset, reset]

theorem isSetUp_concat (steps : List Step) (s : Step) :
    isSetUp (steps ++ [s]) = (decide (s ≠ .reset) && (isSetUp steps || s.setsUp)) := by
  rw [isSetUp, sinceReset_concat]
  by_cases reset : s = .reset <;> simp [isSetUp, reset]

theorem run_concat (context : Template.Context) (j : Journal) (steps : List Step) (s : Step) :
    j.run context (steps ++ [s]) = ((j.run context steps).step context s).1 := by
  simp [run]

/-! ## What holds between two steps -/

/-- The state between two steps: one handler if the journal is ready, none otherwise, and no
decision about the package that its threshold would not make again. -/
structure Sound (j : Journal) : Prop where
  package : packageName ∈ j.used
  handlers : j.handlers.length = if j.ready then 1 else 0
  decided : ∀ name level passed, ((name, level), passed) ∈ j.decided → IsBelow packageName name →
    passed = decide (0 < level ∧ j.limit ≤ level)

/-- Whether no handler holds back what the package lets pass. -/
def Open (j : Journal) : Prop :=
  ∀ handler ∈ j.handlers, handler.level = 0 ∨ handler.level = j.level

variable {j : Journal} {name : Text}

/-! ### Setting up -/

theorem setUp_of_ready (ready : j.ready = true) (level : Int) (template : Option Text) :
    j.setUp level template = (j, none) := if_pos ready

theorem setUp_of_field {template : Option Text} (fresh : j.ready = false)
    (field : Template.hasField (templateOf template) = true) (level : Int) :
    j.setUp level template =
      ({ j.cleared level with handlers := [⟨0, templateOf template⟩], ready := true }, none) := by
  rw [setUp, if_neg (by simp [fresh]), if_pos field]
  rfl

theorem setUp_of_no_field {template : Option Text} (fresh : j.ready = false)
    (noField : Template.hasField (templateOf template) = false) (level : Int) :
    j.setUp level template = (j.cleared level, some ⟨templateOf template⟩) := by
  rw [setUp, if_neg (by simp [fresh]), if_neg (by simp [noField])]

theorem ready_setUp (j : Journal) (level : Int) (template : Option Text) :
    (j.setUp level template).1.ready = (j.ready || Template.hasField (templateOf template)) := by
  cases ready : j.ready with
  | true => rw [setUp_of_ready ready, ready, Bool.true_or]
  | false =>
      cases field : Template.hasField (templateOf template) with
      | true => rw [setUp_of_field ready field, Bool.false_or]
      | false => rw [setUp_of_no_field ready field, Bool.false_or]; exact ready

theorem ready_ensure (j : Journal) : j.ensure.ready = true := by
  rw [ensure, ready_setUp]
  exact Bool.or_eq_true_iff.mpr (Or.inr (by decide))

theorem Sound.setUp (sound : j.Sound) (level : Int) (template : Option Text) :
    (j.setUp level template).1.Sound := by
  cases ready : j.ready with
  | true => rwa [setUp_of_ready ready]
  | false =>
      cases field : Template.hasField (templateOf template) with
      | true =>
          rw [setUp_of_field ready field]
          exact ⟨sound.package, rfl, by simp [cleared]⟩
      | false =>
          rw [setUp_of_no_field ready field]
          exact ⟨sound.package, by simp [cleared, ready], by simp [cleared]⟩

theorem Sound.ensure (sound : j.Sound) : j.ensure.Sound := sound.setUp infoLevel none

theorem Open.setUp (opened : j.Open) (level : Int) (template : Option Text) :
    (j.setUp level template).1.Open := by
  cases ready : j.ready with
  | true => rwa [setUp_of_ready ready]
  | false =>
      cases field : Template.hasField (templateOf template) with
      | true =>
          rw [setUp_of_field ready field]
          simp [Open]
      | false =>
          rw [setUp_of_no_field ready field]
          simp [Open, cleared]

theorem Open.ensure (opened : j.Open) : j.ensure.Open := opened.setUp infoLevel none

@[simp] theorem ready_use (j : Journal) (name : Text) : (j.use name).ready = j.ready := by
  unfold use
  split <;> rfl

@[simp] theorem level_use (j : Journal) (name : Text) : (j.use name).level = j.level := by
  unfold use
  split <;> rfl

@[simp] theorem rootLevel_use (j : Journal) (name : Text) :
    (j.use name).rootLevel = j.rootLevel := by
  unfold use
  split <;> rfl

@[simp] theorem handlers_use (j : Journal) (name : Text) : (j.use name).handlers = j.handlers := by
  unfold use
  split <;> rfl

@[simp] theorem decided_use (j : Journal) (name : Text) : (j.use name).decided = j.decided := by
  unfold use
  split <;> rfl

@[simp] theorem limit_use (j : Journal) (name : Text) : (j.use name).limit = j.limit := by
  simp [limit]

theorem mem_used_use (other : Text) (inUse : name ∈ j.used) : name ∈ (j.use other).used := by
  unfold use
  split
  · exact inUse
  · exact List.mem_cons_of_mem other inUse

theorem Sound.use (sound : j.Sound) (name : Text) : (j.use name).Sound := by
  refine ⟨mem_used_use name sound.package, ?_, ?_⟩
  · rw [handlers_use, ready_use]
    exact sound.handlers
  · rw [decided_use, limit_use]
    exact sound.decided

theorem Open.use (opened : j.Open) (name : Text) : (j.use name).Open := by
  unfold Open
  rw [handlers_use, level_use]
  exact opened

/-! ### Names of the package -/

theorem not_isRootName_of_isBelow (below : IsBelow packageName name) : isRootName name = false := by
  obtain ⟨rest, rfl, -⟩ := below
  rfl

/-- A name that goes on from the package with one dot is in the package. -/
theorem isInPackage_of_isBelow (package : packageName ∈ j.used) (below : IsBelow packageName name) :
    j.isInPackage name = true := by
  rw [isInPackage, not_isRootName_of_isBelow below,
    isWithin_of_isBelow package (by decide) below]
  rfl

theorem passes_of_isBelow (package : packageName ∈ j.used) (below : IsBelow packageName name)
    (level : Int) : j.passes name level = decide (0 < level ∧ j.limit ≤ level) := by
  have threshold : j.threshold name = j.limit := by
    rw [Journal.threshold, limit]
    by_cases unset : j.level = 0 <;> simp [isInPackage_of_isBelow package below, unset]
  rw [passes, threshold]

/-- Nothing that was decided about a name of the package differs from its threshold. -/
theorem Sound.letsThrough (sound : j.Sound) (below : IsBelow packageName name) (level : Int) :
    j.letsThrough name level = decide (0 < level ∧ j.limit ≤ level) := by
  rw [Journal.letsThrough]
  cases found : j.decided.lookup (name, level) with
  | none => exact passes_of_isBelow sound.package below level
  | some passed =>
      obtain ⟨before, after, split, -⟩ := List.lookup_eq_some_iff.mp found
      exact sound.decided name level passed (by simp [split]) below

theorem Sound.settle (sound : j.Sound) (name : Text) (level : Int) : (j.settle name level).Sound := by
  refine ⟨sound.package, sound.handlers, ?_⟩
  intro other otherLevel passed member below
  rcases List.mem_cons.mp member with same | earlier
  · obtain ⟨⟨rfl, rfl⟩, rfl⟩ : (other = name ∧ otherLevel = level) ∧ passed = j.letsThrough name level := by
      simpa using same
    exact sound.letsThrough below otherLevel
  · exact sound.decided other otherLevel passed earlier below

/-! ### Steps and runs -/

theorem Sound.initial : Journal.initial.Sound := by
  refine ⟨by decide, rfl, ?_⟩
  intro name level passed member
  cases member

theorem Sound.obtain (sound : j.Sound) (name : Text) : (j.obtain name).Sound := by
  have ensured := sound.ensure
  unfold Journal.obtain
  split
  · exact ⟨ensured.package, ensured.handlers, by simp⟩
  · split
    · exact ⟨ensured.package, ensured.handlers, by simp⟩
    · have used := ensured.use name
      exact ⟨used.package, used.handlers, by simp⟩

theorem Sound.setLevel (sound : j.Sound) (level : Int) : (j.setLevel level).Sound := by
  have ensured := sound.ensure
  refine ⟨ensured.package, ?_, by simp [Journal.setLevel]⟩
  simp only [Journal.setLevel, List.length_map]
  exact ensured.handlers

theorem Sound.log (sound : j.Sound) (context : Template.Context) (record : Record) :
    (j.log context record).1.Sound := by
  unfold Journal.log
  split
  · exact sound.settle _ _
  · exact (sound.use record.name).settle _ _

theorem Sound.step (sound : j.Sound) (context : Template.Context) (s : Step) :
    (j.step context s).1.Sound := by
  cases s with
  | setUp level template => exact sound.setUp level template
  | obtain name => exact sound.obtain name
  | setLevel level => exact sound.setLevel level
  | enableDebug => exact sound.setLevel debugLevel
  | reset => exact ⟨sound.package, rfl, by simp [Journal.step, Journal.reset, cleared]⟩
  | log record => exact sound.log context record
  | notes messages => exact sound

theorem ready_step (j : Journal) (context : Template.Context) (s : Step) :
    (j.step context s).1.ready = (decide (s ≠ .reset) && (j.ready || s.setsUp)) := by
  cases s with
  | setUp level template => simpa [Journal.step, Step.setsUp] using ready_setUp j level template
  | obtain name =>
      have ensured := ready_ensure j
      simp only [Journal.step, Journal.obtain, Step.setsUp]
      split
      · simpa using ensured
      · split <;> simp [ensured]
  | setLevel level =>
      simpa [Journal.step, Journal.setLevel, Step.setsUp] using ready_ensure j
  | enableDebug =>
      simpa [Journal.step, Journal.enableDebug, Journal.setLevel, Step.setsUp] using ready_ensure j
  | reset => rfl
  | log record =>
      simp only [Journal.step, Journal.log, settle, Step.setsUp]
      split <;> simp
  | notes messages => simp [Journal.step, Step.setsUp]

/-- The journal is ready if it was set up since the last reset. -/
theorem ready_run (context : Template.Context) (steps : List Step) :
    (initial.run context steps).ready = isSetUp steps := by
  induction steps using List.reverseRecOn with
  | nil => rfl
  | append_singleton steps s ih => rw [run_concat, ready_step, ih, isSetUp_concat]

theorem Open.step (opened : j.Open) (context : Template.Context) {s : Step}
    (other : s ≠ .obtain packageName) :
    (j.step context s).1.Open := by
  cases s with
  | setUp level template => exact opened.setUp level template
  | obtain name =>
      have differs : name ≠ packageName := fun same => other (by rw [same])
      simp only [Journal.step, Journal.obtain, if_neg differs]
      split
      · exact opened.ensure
      · exact opened.ensure.use name
  | setLevel level => simp [Journal.step, Journal.setLevel, Open]
  | enableDebug => simp [Journal.step, Journal.enableDebug, Journal.setLevel, Open]
  | reset => simp [Journal.step, Journal.reset, cleared, Open]
  | log record =>
      simp only [Journal.step, Journal.log]
      split
      · exact opened
      · exact opened.use record.name
  | notes messages => exact opened

/-- A context in which what cannot be laid out is reported by a mark. -/
def marked : Template.Context := { Template.Context.ofTime [] with report := fun _ _ => ['?'] }

end CompilerFeedback.Journal
