/-
# CompilerFeedback.Proofs.Line -- what makes a line a continuation or noise

Both tests look at few characters, so a line can be kept clear of them by the
characters that it holds.

* What stands before a bar is blanks and the characters of one number
  (`isMark_of_isGutter`); a colon before the first bar therefore opens a message
  (`not_isContinuation_of_colon`).
* Noise needs a bar or the context marker (`not_isNoise_of_not_mem`).
-/
import CompilerFeedback.Proofs.Line.Numeral

namespace CompilerFeedback

set_option autoImplicit false

namespace Line

/-! ## Continuations -/

/-- A gutter holds blanks and characters of numbers only. -/
theorem isMark_of_isGutter {t : Text} (gutter : isGutter t) {c : Char} (member : c ∈ t) :
    Text.isBlank c ∨ Numeral.isMark c := by
  have parts : t.takeWhile Text.isBlank ++ Text.trimStart t = t := List.takeWhile_append_dropWhile
  rw [← parts, List.mem_append] at member
  rcases member with leading | member
  · exact Or.inl (List.mem_takeWhile_imp leading)
  · simp only [isGutter, Bool.or_eq_true, List.isEmpty_iff, Option.any_eq_true] at gutter
    rcases gutter with empty | ⟨rest, found, blank⟩
    · simp [empty] at member
    · obtain ⟨number, written, glued⟩ := Numeral.exists_written_of_scan? found
      rw [← glued, List.mem_append] at member
      exact member.elim (fun inNumber => Or.inr (written.isMark c inNumber))
        fun inRest => Or.inl (List.all_eq_true.mp blank c inRest)

theorem ne_nil_of_isContinuation {line : Line} (continues : line.isContinuation) : line ≠ [] := by
  rintro rfl
  exact absurd continues (by decide)

theorem isContinuation_of_blank {line : Line} (indented : line.head?.any Text.isBlank) :
    line.isContinuation := by
  simp [isContinuation, indented]

/-- Blanks in front of a continuation leave it one. -/
theorem isContinuation_append_blanks {blanks : Text} (blank : ∀ c ∈ blanks, Text.isBlank c)
    {line : Line} (continues : line.isContinuation) : isContinuation (blanks ++ line) := by
  cases blanks with
  | nil => exact continues
  | cons c blanks => exact isContinuation_of_blank (by simpa using blank c List.mem_cons_self)

/-- Source that is cited behind its line number and a bar is a continuation. -/
theorem isContinuation_of_citation {digits blanks : Text} (run : Text.IsDigits digits)
    (blank : ∀ c ∈ blanks, Text.isBlank c) (source : Text) :
    isContinuation (digits ++ blanks ++ '|' :: source) := by
  have noBar : '|' ∉ digits ++ blanks := by
    rw [List.mem_append]
    rintro (inDigits | inBlanks)
    · exact absurd (run.2 '|' inDigits) (by decide)
    · exact absurd (blank '|' inBlanks) (by decide)
  have gutter : isGutter (digits ++ blanks) := by
    rw [isGutter, Text.trimStart_digits_append run,
      Numeral.scan?_append (Numeral.written_of_isDigits run) (Numeral.ends_of_blanks blank)]
    simpa using Or.inr blank
  rw [isContinuation, Text.before_append noBar, gutter]
  simp

theorem not_isContinuation_of_no_bar {line : Line} (start : line.head?.any Text.isBlank = false)
    (noBar : '|' ∉ line) : line.isContinuation = false := by
  simp [isContinuation, start, noBar]

/-- A line with a colon before any bar opens a message. -/
theorem not_isContinuation_of_colon {before after : Text}
    (start : (before ++ ':' :: after).head?.any Text.isBlank = false) (noBar : '|' ∉ before) :
    isContinuation (before ++ ':' :: after) = false := by
  have kept : ∀ c ∈ before, (c != '|') = true := fun c member => by
    simpa using ne_of_mem_of_not_mem member noBar
  have colon : ':' ∈ Text.before '|' (before ++ ':' :: after) := by
    rw [Text.before, List.takeWhile_append_of_pos kept]
    simp
  have noGutter : isGutter (Text.before '|' (before ++ ':' :: after)) = false := by
    rw [Bool.eq_false_iff]
    exact fun gutter => absurd (isMark_of_isGutter gutter colon) (by decide)
  rw [isContinuation, start, noGutter]
  simp

/-! ## Noise -/

theorem bar_mem_of_isCitation {line : Line} (citation : line.isCitation) : '|' ∈ line := by
  simp only [isCitation, Bool.and_eq_true, beq_iff_eq] at citation
  have bar : '|' ∈ Text.trimStart (Text.dropDigits (Text.trimStart line)) :=
    List.mem_of_head? citation.2
  exact (List.dropWhile_suffix _).mem ((List.dropWhile_suffix _).mem
    ((List.dropWhile_suffix _).mem bar))

theorem bar_mem_of_isDivider {line : Line} (divider : line.isDivider) : '|' ∈ line := by
  have trimmed : Text.trim line = ['|'] := by simpa [isDivider] using divider
  have bar : '|' ∈ Text.trim line := by simp [trimmed]
  exact Text.mem_of_mem_trim bar

/-- A line with no bar that names no context carries message text. -/
theorem not_isNoise_of_not_mem {line : Line} (noContext : line.isContext = false)
    (noBar : '|' ∉ line) : line.isNoise = false := by
  have noCitation : line.isCitation = false :=
    Bool.eq_false_iff.mpr fun citation => noBar (bar_mem_of_isCitation citation)
  have noDivider : line.isDivider = false :=
    Bool.eq_false_iff.mpr fun divider => noBar (bar_mem_of_isDivider divider)
  simp [isNoise, noContext, noCitation, noDivider]

end Line

end CompilerFeedback
