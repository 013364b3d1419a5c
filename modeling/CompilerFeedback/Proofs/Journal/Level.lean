/-
# CompilerFeedback.Proofs.Journal.Level -- the level of the package journal over a run

What the level should be can be told from the steps since the last reset alone (`configured`):
the latest step that sets a level decides; where there is none, the step that set the journal up
does, and where that was not done either, the latest one that was refused.

Obtaining a journal takes the journal's own level away.  That is nothing to any journal but the
root and the package journal itself, and who obtains that one undoes what was configured, until a
level is set again or the journals are reset (`IsLost`).

* `configured_concat`, `level_step`: one step makes the same of the configured level and of the
  journal's own, but for who obtains the package journal.
* `level_run`: the level after any run is the configured one, unless it was lost.
* `level_lost_by_package_name`: a run in which it is lost.
-/
import CompilerFeedback.Proofs.Journal

namespace CompilerFeedback.Journal

set_option autoImplicit false

/-! ## What the steps say about the level -/

/-- The level that a step sets, whatever was done before. -/
def Step.sets? : Step → Option Int
  | .setLevel level => some level
  | .enableDebug => some debugLevel
  | .setUp .. | .obtain _ | .reset | .log _ | .notes _ => none

/-- The level with which a step sets the journal up, unless that was done. -/
def Step.setsUpAt? : Step → Option Int
  | .setUp level template => if Template.hasField (templateOf template) then some level else none
  | .obtain _ | .setLevel _ | .enableDebug => some infoLevel
  | .reset | .log _ | .notes _ => none

/-- The level that a step leaves when setting up is refused half way. -/
def Step.refusedAt? : Step → Option Int
  | .setUp level template => if Template.hasField (templateOf template) then none else some level
  | .obtain _ | .setLevel _ | .enableDebug | .reset | .log _ | .notes _ => none

/-- The first level since the last reset that a step tells in some way. -/
def first? (told? : Step → Option Int) (steps : List Step) : Option Int :=
  (sinceReset steps).findSome? told?

/-- The latest level since the last reset that a step tells in some way. -/
def latest? (told? : Step → Option Int) (steps : List Step) : Option Int :=
  (sinceReset steps).reverse.findSome? told?

/-- The level that was configured: by the latest step that sets one, else by the step that set
the journal up, else by the latest one that was refused; zero if there was none of them. -/
def configured (steps : List Step) : Int :=
  ((latest? Step.sets? steps).or
    ((first? Step.setsUpAt? steps).or (latest? Step.refusedAt? steps))).getD 0

/-- The steps after the last one that sets a level or resets the journals. -/
def sinceSet (steps : List Step) : List Step :=
  (steps.reverse.takeWhile fun s => s ≠ .reset ∧ s.sets? = none).reverse

/-- Whether the package journal was obtained since, so that its level was taken away. -/
def IsLost (steps : List Step) : Prop := .obtain packageName ∈ sinceSet steps

instance (steps : List Step) : Decidable (IsLost steps) := inferInstanceAs (Decidable (_ ∈ _))

variable {steps : List Step} {s : Step} {told? : Step → Option Int}

/-! ## One step more -/

theorem first?_concat (goesOn : s ≠ .reset) :
    first? told? (steps ++ [s]) = (first? told? steps).or (told? s) := by
  simp [first?, sinceReset_concat, goesOn, List.findSome?_append]

theorem latest?_concat (goesOn : s ≠ .reset) :
    latest? told? (steps ++ [s]) = (told? s).or (latest? told? steps) := by
  rw [latest?, sinceReset_concat, if_neg goesOn, List.reverse_append, List.findSome?_append]
  simp [latest?]

theorem isSome_setsUpAt? (s : Step) : s.setsUpAt?.isSome = s.setsUp := by
  cases s with
  | setUp level template =>
      simp only [Step.setsUpAt?, Step.setsUp]
      split <;> simp [*]
  | _ => rfl

/-- The journal is set up exactly if some step since the last reset tells with which level. -/
theorem isSome_first?_setsUpAt? (steps : List Step) :
    (first? Step.setsUpAt? steps).isSome = isSetUp steps := by
  rw [first?, List.isSome_findSome?, isSetUp]
  congr 1
  funext s
  exact isSome_setsUpAt? s

/-- Where the journal was not set up, no level was set. -/
theorem latest?_sets?_of_fresh (fresh : isSetUp steps = false) : latest? Step.sets? steps = none := by
  rw [latest?, List.findSome?_eq_none_iff]
  intro s member
  have noSetUp := List.any_eq_false.mp fresh s (List.mem_reverse.mp member)
  cases s with
  | setLevel level => exact absurd rfl noSetUp
  | enableDebug => exact absurd rfl noSetUp
  | _ => rfl

/-- What one step makes of the configured level: set, or kept but for setting up. -/
theorem configured_concat (steps : List Step) (s : Step) :
    configured (steps ++ [s]) =
      if s = .reset then 0
      else s.sets?.getD
        (if isSetUp steps then configured steps
          else (s.setsUpAt?.or s.refusedAt?).getD (configured steps)) := by
  by_cases reset : s = .reset
  · simp [configured, first?, latest?, sinceReset_concat, reset]
  · rw [if_neg reset, ← isSome_first?_setsUpAt?]
    simp only [configured, latest?_concat reset, first?_concat reset]
    cases set : s.sets? with
    | some level => rfl
    | none =>
        cases first : first? Step.setsUpAt? steps with
        | some level => rfl
        | none =>
            rw [← Option.isNone_iff_eq_none, ← Option.isSome_eq_false_iff,
              isSome_first?_setsUpAt?] at first
            rw [latest?_sets?_of_fresh first]
            cases s.setsUpAt? <;> cases s.refusedAt? <;> rfl

theorem isLost_concat (steps : List Step) (s : Step) :
    IsLost (steps ++ [s]) ↔
      (s ≠ .reset ∧ s.sets? = none) ∧ (IsLost steps ∨ s = .obtain packageName) := by
  by_cases goesOn : s ≠ .reset ∧ s.sets? = none
  · simp [IsLost, sinceSet, goesOn, eq_comm]
  · have stops : sinceSet (steps ++ [s]) = [] := by
      simp only [sinceSet, List.reverse_append, List.reverse_singleton, List.singleton_append,
        List.takeWhile_cons, decide_eq_true_eq, if_neg goesOn, List.reverse_nil]
    simp [IsLost, stops, goesOn]

/-- Who obtained the package journal has set it up. -/
theorem isSetUp_of_isLost (lost : IsLost steps) : isSetUp steps = true := by
  induction steps using List.reverseRecOn with
  | nil => cases lost
  | append_singleton steps s ih =>
      obtain ⟨⟨goesOn, -⟩, earlier | rfl⟩ := (isLost_concat steps s).mp lost
      · rw [isSetUp_concat, ih earlier]
        simp [goesOn]
      · simp [isSetUp_concat, Step.setsUp]

/-! ## The level -/

theorem level_setUp (j : Journal) (level : Int) (template : Option Text) :
    (j.setUp level template).1.level = if j.ready then j.level else level := by
  cases ready : j.ready with
  | true => rw [setUp_of_ready ready, if_pos rfl]
  | false =>
      cases field : Template.hasField (templateOf template) with
      | true => rw [setUp_of_field ready field]; rfl
      | false => rw [setUp_of_no_field ready field]; rfl

theorem level_obtain (j : Journal) (name : Text) :
    (j.obtain name).level =
      if name = packageName then 0 else if j.ready then j.level else infoLevel := by
  have ensured : j.ensure.level = if j.ready then j.level else infoLevel :=
    level_setUp j infoLevel none
  unfold obtain
  by_cases root : isRootName name
  · have other : name ≠ packageName := by
      rintro rfl
      exact absurd root (by decide)
    rw [if_pos root, if_neg other]
    exact ensured
  · rw [if_neg root]
    split
    · rfl
    · simpa using ensured

/-- What one step makes of the level: set, taken away, or kept but for setting up. -/
theorem level_step (j : Journal) (context : Template.Context) (s : Step) :
    (j.step context s).1.level =
      if s = .reset ∨ s = .obtain packageName then 0
      else s.sets?.getD (if j.ready then j.level else (s.setsUpAt?.or s.refusedAt?).getD j.level) := by
  cases s with
  | setUp level template =>
      show (j.setUp level template).1.level = _
      rw [level_setUp]
      cases field : Template.hasField (templateOf template) <;>
        simp [Step.sets?, Step.setsUpAt?, Step.refusedAt?, field]
  | obtain name =>
      show (j.obtain name).level = _
      rw [level_obtain]
      by_cases package : name = packageName <;> simp [Step.sets?, Step.setsUpAt?, package]
  | setLevel level => simp [step, setLevel, Step.sets?]
  | enableDebug => simp [step, enableDebug, setLevel, Step.sets?]
  | reset => simp [step, reset, cleared]
  | log record =>
      have kept : (j.step context (.log record)).1.level = j.level := by
        simp only [step, log, settle]
        split <;> simp
      simp [kept, Step.sets?, Step.setsUpAt?, Step.refusedAt?]
  | notes messages => simp [step, Step.sets?, Step.setsUpAt?, Step.refusedAt?]

/-- **The level after any run is the configured one, unless it was lost.**  Journals of whatever
name can be obtained, logged into and set up again without a change of the level.  Only obtaining
the package journal itself takes it away, until a level is set or the journals are reset. -/
theorem level_run (context : Template.Context) (steps : List Step) :
    (initial.run context steps).level = if IsLost steps then 0 else configured steps := by
  induction steps using List.reverseRecOn with
  | nil => rfl
  | append_singleton steps s ih =>
      rw [run_concat, level_step, ready_run, ih, configured_concat]
      by_cases reset : s = .reset
      · simp [isLost_concat, reset]
      · cases set : s.sets? with
        | some level =>
            have other : s ≠ .obtain packageName := by
              rintro rfl
              cases set
            simp [isLost_concat, reset, other, set]
        | none =>
            by_cases package : s = .obtain packageName
            · simp [isLost_concat, package, Step.sets?]
            · have same : IsLost (steps ++ [s]) ↔ IsLost steps := by
                simp [isLost_concat, reset, set, package]
              by_cases lost : IsLost steps
              · simp [reset, package, same, lost, isSetUp_of_isLost lost]
              · simp [reset, package, same, lost]

/-- A level that is set, and the package journal obtained by its name. -/
def setThenObtained : List Step := [.setLevel 15, .obtain packageName]

/-- Who obtains the package journal by its name takes the configured level away. -/
theorem level_lost_by_package_name :
    (initial.run (.ofTime []) setThenObtained).level = 0 ∧ configured setThenObtained = 15 := by
  decide +kernel

end CompilerFeedback.Journal
