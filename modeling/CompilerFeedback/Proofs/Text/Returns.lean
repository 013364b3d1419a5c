/-
# CompilerFeedback.Proofs.Text.Returns -- two readings of a carriage return

Lines are cut after the carriage returns of a text were deleted.  In a file that is
read, every carriage return ends a line.  The two agree as long as no line is torn:
carriage returns with other characters of one line on both sides are a line break to
the one and nothing to the other.  Where a line is torn there is one line more, so
the two cannot agree by chance (`length_lines_le`).

* `lines_normalizeNewlines_eq_iff_not_torn`: the comparison, one character at a time.
* `lines_normalizeNewlines_eq_iff`: the same, in terms of runs of carriage returns.
-/
import CompilerFeedback.Proofs.Text

namespace CompilerFeedback.Text

set_option autoImplicit false

/-! ## Runs of carriage returns -/

/-- Whether a character ends a line, in one reading or the other. -/
def IsBreak (c : Char) : Prop := c = '\n' ∨ c = '\r'

instance (c : Char) : Decidable (IsBreak c) := inferInstanceAs (Decidable (_ ∨ _))

theorem not_isBreak_iff {c : Char} : ¬ IsBreak c ↔ c ≠ '\n' ∧ c ≠ '\r' := not_or

/-- Whether every maximal run of carriage returns stands at an end of the text or beside a
line feed. -/
def ReturnsAtBreaks (t : Text) : Prop :=
  ∀ before run after : Text, t = before ++ (run ++ after) → run ≠ [] → (∀ c ∈ run, c = '\r') →
    before.getLast? ≠ some '\r' → after.head? ≠ some '\r' →
      before = [] ∨ after = [] ∨ before.getLast? = some '\n' ∨ after.head? = some '\n'

/-- Whether a text starts with carriage returns and a character of a line behind them. -/
def StartsTorn (t : Text) : Prop :=
  ∃ run d rest, t = run ++ d :: rest ∧ run ≠ [] ∧ (∀ c ∈ run, c = '\r') ∧ ¬ IsBreak d

/-- Whether some line has carriage returns inside. -/
inductive Torn : Text → Prop where
  | here {c : Char} {t : Text} (inLine : ¬ IsBreak c) (torn : StartsTorn t) : Torn (c :: t)
  | later (c : Char) {t : Text} (torn : Torn t) : Torn (c :: t)

theorem torn_cons_iff {c : Char} {t : Text} :
    Torn (c :: t) ↔ ¬ IsBreak c ∧ StartsTorn t ∨ Torn t := by
  constructor
  · rintro (⟨inLine, torn⟩ | ⟨-, torn⟩)
    · exact Or.inl ⟨inLine, torn⟩
    · exact Or.inr torn
  · rintro (⟨inLine, torn⟩ | torn)
    · exact .here inLine torn
    · exact .later c torn

theorem torn_iff_exists {t : Text} :
    Torn t ↔ ∃ before c tail, t = before ++ c :: tail ∧ ¬ IsBreak c ∧ StartsTorn tail := by
  constructor
  · intro torn
    induction torn with
    | @here c t inLine torn => exact ⟨[], c, t, rfl, inLine, torn⟩
    | later d _ ih =>
        obtain ⟨before, c, tail, rfl, inLine, torn⟩ := ih
        exact ⟨d :: before, c, tail, rfl, inLine, torn⟩
  · rintro ⟨before, c, tail, rfl, inLine, torn⟩
    induction before with
    | nil => exact .here inLine torn
    | cons d before ih => exact .later d ih

/-- A run inside a line tears it, and no other run does. -/
theorem returnsAtBreaks_iff_not_torn {t : Text} : ReturnsAtBreaks t ↔ ¬ Torn t := by
  constructor
  · intro atBreaks torn
    obtain ⟨before, c, tail, rfl, left, run, d, rest, rfl, held, returns, right⟩ :=
      torn_iff_exists.mp torn
    unfold IsBreak at left right
    have found := atBreaks (before ++ [c]) run (d :: rest) (by simp) held returns
    simp only [List.getLast?_concat, List.head?_cons, ne_eq, Option.some.injEq,
      List.append_eq_nil_iff, List.cons_ne_self, and_false, reduceCtorEq, false_or] at found
    tauto
  · intro whole before run after cut held returns notBefore notAfter
    by_contra inside
    push Not at inside
    obtain ⟨beforeHeld, afterHeld, noFeedBefore, noFeedAfter⟩ := inside
    obtain ⟨earlier, c, rfl⟩ := List.eq_nil_or_concat before |>.resolve_left beforeHeld
    obtain ⟨d, rest, rfl⟩ := List.exists_cons_of_ne_nil afterHeld
    rw [List.concat_eq_append, List.getLast?_concat] at notBefore noFeedBefore
    rw [List.head?_cons] at notAfter noFeedAfter
    refine whole (torn_iff_exists.mpr ⟨earlier, c, run ++ d :: rest, ?_, ?_, ?_⟩)
    · simp [cut]
    · rintro (rfl | rfl)
      · exact noFeedBefore rfl
      · exact notBefore rfl
    · refine ⟨run, d, rest, rfl, held, returns, ?_⟩
      rintro (rfl | rfl)
      · exact noFeedAfter rfl
      · exact notAfter rfl

/-! ## The first line, one character at a time -/

theorem dropReturns_of_returns {run : Text} (returns : ∀ c ∈ run, c = '\r') : dropReturns run = [] := by
  rw [dropReturns, List.filter_eq_nil_iff]
  intro c member
  simp [returns c member]

theorem dropReturns_cons {c : Char} (noReturn : c ≠ '\r') (t : Text) :
    dropReturns (c :: t) = c :: dropReturns t :=
  List.filter_cons_of_pos (by simpa using noReturn)

/-- Whether the text goes on with a character of the line it starts in. -/
def goesOn (t : Text) : Bool := (dropReturns t).head?.any (· != '\n')

theorem goesOn_cons {c : Char} (noReturn : c ≠ '\r') (t : Text) : goesOn (c :: t) = (c != '\n') := by
  rw [goesOn, dropReturns_cons noReturn]
  rfl

theorem goesOn_returns_append {run : Text} (returns : ∀ c ∈ run, c = '\r') (t : Text) :
    goesOn (run ++ t) = goesOn t := by
  rw [goesOn, dropReturns_append, dropReturns_of_returns returns]
  rfl

theorem lines_cons_return (t : Text) : lines ('\r' :: t) = lines t := by
  simp [lines, dropReturns]

theorem lines_cons_feed (t : Text) : lines ('\n' :: t) = lines t := lines_append [] t

/-- A character of a line goes to the line that follows it, or is a line. -/
theorem lines_cons {c : Char} (inLine : ¬ IsBreak c) (t : Text) :
    lines (c :: t) = if goesOn t then (lines t).modifyHead (c :: ·) else [c] :: lines t := by
  obtain ⟨noFeed, noReturn⟩ := not_isBreak_iff.mp inLine
  unfold lines goesOn
  rw [dropReturns_cons noReturn, List.splitOn_cons_eq_if_modifyHead, if_neg (by simpa using noFeed)]
  cases dropReturns t with
  | nil => simp
  | cons d u =>
      rw [List.splitOn_cons_eq_if_modifyHead]
      by_cases feed : d = '\n'
      · simp [feed]
      · cases cut : u.splitOn '\n' with
        | nil => exact absurd cut (List.splitOn_ne_nil '\n' u)
        | cons first rest => simp [feed]

theorem normalizeNewlines_cons {c : Char} (noReturn : c ≠ '\r') (t : Text) :
    normalizeNewlines (c :: t) = c :: normalizeNewlines t := by
  rw [normalizeNewlines.eq_3 c t fun _ same => absurd same noReturn, if_neg noReturn]

/-- A carriage return at the start is a line break. -/
theorem lines_normalizeNewlines_return (t : Text) :
    lines (normalizeNewlines ('\r' :: t)) = lines (normalizeNewlines t) := by
  cases t with
  | nil => rfl
  | cons c t =>
      by_cases feed : c = '\n'
      · rw [feed, normalizeNewlines, normalizeNewlines_cons (by decide)]
      · rw [normalizeNewlines.eq_3 '\r' (c :: t) (by simp [feed])]
        exact lines_cons_feed _

/-- A file that is read goes on in its line only if the very next character does. -/
theorem goesOn_normalizeNewlines (t : Text) :
    goesOn (normalizeNewlines t) = t.head?.any fun c => !decide (IsBreak c) := by
  cases t with
  | nil => rfl
  | cons c t =>
      by_cases ret : c = '\r'
      · subst ret
        cases t with
        | nil => rfl
        | cons d t =>
            by_cases feed : d = '\n'
            · rw [feed, normalizeNewlines]
              rfl
            · rw [normalizeNewlines.eq_3 '\r' (d :: t) (by simp [feed])]
              rfl
      · rw [normalizeNewlines_cons ret, goesOn_cons ret]
        by_cases feed : c = '\n'
        · rw [feed]
          rfl
        · simp [IsBreak, feed, ret]

/-- The two readings differ on whether a line goes on exactly where it is torn. -/
theorem startsTorn_iff {t : Text} :
    StartsTorn t ↔ goesOn t = true ∧ goesOn (normalizeNewlines t) = false := by
  rw [goesOn_normalizeNewlines]
  constructor
  · rintro ⟨run, d, rest, rfl, held, returns, inLine⟩
    obtain ⟨noFeed, noReturn⟩ := not_isBreak_iff.mp inLine
    constructor
    · rw [goesOn_returns_append returns, goesOn_cons noReturn]
      simpa using noFeed
    · cases run with
      | nil => exact absurd rfl held
      | cons c run =>
          obtain rfl := returns c List.mem_cons_self
          rfl
  · rintro ⟨on, stops⟩
    have parts : t.takeWhile (· == '\r') ++ t.dropWhile (· == '\r') = t :=
      List.takeWhile_append_dropWhile
    have returns : ∀ c ∈ t.takeWhile (· == '\r'), c = '\r' := fun c member => by
      simpa using List.mem_takeWhile_imp member
    have next := List.head?_dropWhile_not (· == '\r') t
    rw [← parts, goesOn_returns_append returns] at on
    cases tail : t.dropWhile (· == '\r') with
    | nil =>
        rw [tail] at on
        cases on
    | cons d rest =>
        rw [tail] at parts next on
        have noReturn : d ≠ '\r' := by simpa using next
        rw [goesOn_cons noReturn] at on
        have inLine : ¬ IsBreak d := not_isBreak_iff.mpr ⟨by simpa using on, noReturn⟩
        refine ⟨_, d, rest, parts.symm, ?_, returns, inLine⟩
        intro empty
        rw [empty] at parts
        rw [← parts] at stops
        simp [inLine] at stops

/-! ## The two readings -/

theorem goesOn_of_normalizeNewlines {t : Text} (on : goesOn (normalizeNewlines t)) : goesOn t := by
  rw [goesOn_normalizeNewlines] at on
  cases t with
  | nil => simp at on
  | cons c t =>
      have inLine : ¬ IsBreak c := by simpa using on
      obtain ⟨noFeed, noReturn⟩ := not_isBreak_iff.mp inLine
      rw [goesOn_cons noReturn]
      simpa using noFeed

/-- A file that is read has at least as many lines as its text. -/
theorem length_lines_le (t : Text) : (lines t).length ≤ (lines (normalizeNewlines t)).length := by
  induction t with
  | nil => exact Nat.le_refl 0
  | cons c t ih =>
      by_cases inLine : IsBreak c
      · rcases inLine with rfl | rfl
        · rwa [normalizeNewlines_cons (by decide), lines_cons_feed, lines_cons_feed]
        · rwa [lines_normalizeNewlines_return, lines_cons_return]
      · have noReturn : c ≠ '\r' := fun ret => inLine (Or.inr ret)
        rw [normalizeNewlines_cons noReturn, lines_cons inLine, lines_cons inLine]
        by_cases onceRead : goesOn (normalizeNewlines t)
        · rw [if_pos onceRead, if_pos (goesOn_of_normalizeNewlines onceRead)]
          simpa using ih
        · rw [if_neg onceRead]
          split
          · simpa using Nat.le_succ_of_le ih
          · simpa using ih

theorem modifyHead_cons_inj {c : Char} {a b : List Text} :
    a.modifyHead (c :: ·) = b.modifyHead (c :: ·) ↔ a = b := by
  cases a <;> cases b <;> simp

/-- The two readings of a text agree if no line is torn. -/
theorem lines_normalizeNewlines_eq_iff_not_torn (t : Text) :
    lines (normalizeNewlines t) = lines t ↔ ¬ Torn t := by
  induction t with
  | nil =>
      refine iff_of_true rfl ?_
      rintro ⟨⟩
  | cons c t ih =>
      rw [torn_cons_iff]
      by_cases inLine : IsBreak c
      · rw [← ih.trans (by tauto : ¬ Torn t ↔ ¬ (¬ IsBreak c ∧ StartsTorn t ∨ Torn t))]
        rcases inLine with rfl | rfl
        · rw [normalizeNewlines_cons (by decide), lines_cons_feed, lines_cons_feed]
        · rw [lines_normalizeNewlines_return, lines_cons_return]
      · have noReturn : c ≠ '\r' := fun ret => inLine (Or.inr ret)
        rw [normalizeNewlines_cons noReturn, lines_cons inLine, lines_cons inLine, startsTorn_iff]
        by_cases onceRead : goesOn (normalizeNewlines t)
        · rw [if_pos onceRead, if_pos (goesOn_of_normalizeNewlines onceRead), modifyHead_cons_inj, ih]
          simp [onceRead]
        · by_cases on : goesOn t
          · -- here the line is torn, and the file that is read has a line more
            refine iff_of_false ?_ (by simp [inLine, on, onceRead])
            rw [if_neg onceRead, if_pos on]
            intro same
            have lengths := congrArg List.length same
            have bound := length_lines_le t
            rw [List.length_cons, List.length_modifyHead] at lengths
            omega
          · rw [if_neg onceRead, if_neg on, List.cons_inj_right, ih]
            simp [on]

/-- **Lines survive the reading of a file exactly if carriage returns stand at breaks.** -/
theorem lines_normalizeNewlines_eq_iff (t : Text) :
    lines (normalizeNewlines t) = lines t ↔ ReturnsAtBreaks t := by
  rw [lines_normalizeNewlines_eq_iff_not_torn, returnsAtBreaks_iff_not_torn]

end CompilerFeedback.Text
