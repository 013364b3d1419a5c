/-
# CompilerFeedback.Proofs.Block.Dedent -- what dedenting takes off, and what it leaves

The margin is the least indentation of the lines that hold a character, and so
the largest number of blanks that all of them begin with (`isLeast_margin`,
`isGreatest_margin`).  Dedenting takes that many characters off every line, and
those that it takes are blank.

Dedenting twice need not be dedenting once.  A line of blanks alone counts for
the margin as long as it holds a character; if it ends at the margin, it holds
none afterwards and counts no more, and the lines that stand further in can move
again.  Lines stay as they are exactly if their margin is zero
(`dedent_eq_self_iff`), so what dedenting leaves stays as it is in two cases:

* it holds no character at all: all lines were blank and of one length
  (`dedent_empty_iff`);
* one of its lines starts with a character that is not blank: that line stood at
  the margin and held such a character (`exists_at_left_dedent_iff`).
-/
import CompilerFeedback.Proofs.Block
import Mathlib.Order.Bounds.Basic

namespace CompilerFeedback.Block

set_option autoImplicit false

variable {lines : List Line} {line : Line}

/-! ## The margin -/

/-- Whether all lines that hold a character begin with so many blanks. -/
def BeginWithBlanks (count : Nat) (lines : List Line) : Prop :=
  ∀ line ∈ lines, line ≠ [] → count ≤ line.length ∧ ∀ c ∈ line.take count, Text.isBlank c

theorem beginWithBlanks_iff {count : Nat} :
    BeginWithBlanks count lines ↔ ∀ line ∈ lines, line ≠ [] → count ≤ Text.indent line := by
  simp only [BeginWithBlanks, Text.le_indent_iff]

/-- The margin is the least indentation. -/
theorem isLeast_margin (some_ : ∃ line ∈ lines, line ≠ []) :
    IsLeast {count | ∃ line ∈ lines, line ≠ [] ∧ Text.indent line = count} (margin lines) := by
  obtain ⟨line, member, held⟩ := some_
  constructor
  · exact exists_indent_eq_margin member held
  · rintro count ⟨other, inside, heldOther, rfl⟩
    exact margin_le_indent inside heldOther

/-- The margin is the largest number of blanks that all lines begin with. -/
theorem isGreatest_margin (some_ : ∃ line ∈ lines, line ≠ []) :
    IsGreatest {count | BeginWithBlanks count lines} (margin lines) := by
  obtain ⟨line, member, held⟩ := some_
  constructor
  · apply beginWithBlanks_iff.mpr
    intro other inside heldOther
    exact margin_le_indent inside heldOther
  · intro count begins
    exact le_margin member held (beginWithBlanks_iff.mp begins)

theorem margin_eq_zero_iff :
    margin lines = 0 ↔
      (∀ line ∈ lines, line = []) ∨ ∃ line ∈ lines, line ≠ [] ∧ Text.indent line = 0 := by
  constructor
  · intro noMargin
    by_cases empty : ∀ line ∈ lines, line = []
    · exact Or.inl empty
    · push Not at empty
      have least := (isLeast_margin empty).1
      rw [noMargin] at least
      exact Or.inr least
  · rintro (empty | ⟨line, member, held, start⟩)
    · exact margin_of_forall_nil empty
    · have bound := margin_le_indent member held
      omega

/-! ## Dedenting -/

/-- What is taken off a line, and what is left of it. -/
theorem exists_blanks_append (member : line ∈ lines) :
    ∃ blanks, (∀ c ∈ blanks, Text.isBlank c) ∧ line = blanks ++ line.drop (margin lines) :=
  ⟨line.take (margin lines), isBlank_of_mem_take_margin member,
    (List.take_append_drop (margin lines) line).symm⟩

theorem dedent_eq_self_iff : dedent lines = lines ↔ margin lines = 0 := by
  constructor
  · intro same
    by_contra deep
    have some_ : ∃ line ∈ lines, line ≠ [] := by
      by_contra none_
      push Not at none_
      exact deep (margin_of_forall_nil none_)
    obtain ⟨line, member, held⟩ := some_
    have each : ∀ line ∈ lines, line.drop (margin lines) = id line :=
      List.map_inj_left.mp (same.trans (List.map_id lines).symm)
    have shorter := congrArg List.length (each line member)
    rw [List.length_drop, id] at shorter
    have bound := (margin_le_indent member held).trans (Text.indent_le_length line)
    omega
  · intro noMargin
    rw [dedent, noMargin]
    exact List.map_id lines

/-- Nothing is left exactly if all lines are blank and of one length. -/
theorem dedent_empty_iff :
    (∀ line ∈ dedent lines, line = []) ↔
      ∃ length, ∀ line ∈ lines, line ≠ [] →
        (∀ c ∈ line, Text.isBlank c) ∧ line.length = length := by
  rw [dedent, List.forall_mem_map]
  constructor
  · intro empty
    refine ⟨margin lines, fun line member held => ?_⟩
    have short := List.drop_eq_nil_iff.mp (empty line member)
    have deep := margin_le_indent member held
    have bound := Text.indent_le_length line
    exact ⟨Text.indent_eq_length_iff.mp (by omega), by omega⟩
  · rintro ⟨length, blank⟩ line member
    by_cases held : line = []
    · rw [held, List.drop_nil]
    · obtain ⟨least, inside, heldLeast, same⟩ := exists_indent_eq_margin member held
      have whole := Text.indent_eq_length_iff.mpr (blank least inside heldLeast).1
      apply List.drop_eq_nil_iff.mpr
      rw [(blank line member held).2, ← (blank least inside heldLeast).2, ← whole, same]

/-- A line starts with a character that is not blank afterwards exactly if it stood at the
margin and held one. -/
theorem at_left_drop_iff (member : line ∈ lines) (held : line ≠ []) :
    (line.drop (margin lines) ≠ [] ∧ Text.indent (line.drop (margin lines)) = 0) ↔
      Text.indent line = margin lines ∧ ∃ c ∈ line, Text.isBlank c = false := by
  have deep := margin_le_indent member held
  have bound := Text.indent_le_length line
  have mixed : (∃ c ∈ line, Text.isBlank c = false) ↔ Text.indent line < line.length := by
    rw [lt_iff_le_and_ne, Ne, Text.indent_eq_length_iff]
    simp [bound]
  rw [Text.indent_drop deep, mixed, Ne, List.drop_eq_nil_iff]
  omega

theorem exists_at_left_dedent_iff :
    (∃ line ∈ dedent lines, line ≠ [] ∧ Text.indent line = 0) ↔
      ∃ line ∈ lines, line ≠ [] ∧ Text.indent line = margin lines ∧
        ∃ c ∈ line, Text.isBlank c = false := by
  constructor
  · rintro ⟨left, moved, start⟩
    obtain ⟨line, member, rfl⟩ := List.mem_map.mp moved
    have held : line ≠ [] := by
      rintro rfl
      exact start.1 List.drop_nil
    exact ⟨line, member, held, (at_left_drop_iff member held).mp start⟩
  · rintro ⟨line, member, held, shallow⟩
    exact ⟨line.drop (margin lines), List.mem_map_of_mem member,
      (at_left_drop_iff member held).mpr shallow⟩

/-- **Dedenting takes the common indentation off.**  Every line loses as many characters as
the least indented one has blanks at its start, and it loses no others than blanks; that is
as far as all lines can move together.  A second time takes nothing more off exactly if a line
at the margin holds more than blanks, or no line does and all are of one length. -/
theorem dedent_takes_common_indentation (lines : List Line) :
    (dedent lines).length = lines.length ∧
      (∀ (i : Nat) (line : Line), lines[i]? = some line →
        (dedent lines)[i]? = some (line.drop (margin lines)) ∧
          ∃ blanks, (∀ c ∈ blanks, Text.isBlank c) ∧ line = blanks ++ line.drop (margin lines)) ∧
      ((∀ line ∈ lines, line = []) → margin lines = 0) ∧
      ((∃ line ∈ lines, line ≠ []) →
        IsLeast {count | ∃ line ∈ lines, line ≠ [] ∧ Text.indent line = count} (margin lines) ∧
          IsGreatest {count | BeginWithBlanks count lines} (margin lines)) ∧
      (dedent (dedent lines) = dedent lines ↔
        (∃ line ∈ lines, line ≠ [] ∧ Text.indent line = margin lines ∧
            ∃ c ∈ line, Text.isBlank c = false) ∨
          (∃ length, ∀ line ∈ lines, line ≠ [] →
            (∀ c ∈ line, Text.isBlank c) ∧ line.length = length) ∨
          ∀ line ∈ lines, line = []) := by
  refine ⟨length_dedent lines, fun i line found => ⟨?_, ?_⟩, margin_of_forall_nil,
    fun some_ => ⟨isLeast_margin some_, isGreatest_margin some_⟩, ?_⟩
  · rw [dedent, List.getElem?_map, found]
    rfl
  · exact exists_blanks_append (List.mem_of_getElem? found)
  · rw [dedent_eq_self_iff, margin_eq_zero_iff, dedent_empty_iff, exists_at_left_dedent_iff,
      or_comm]
    -- lines that hold no character are all of any length
    have covered : (∀ line ∈ lines, line = []) → ∃ length, ∀ line ∈ lines, line ≠ [] →
        (∀ c ∈ line, Text.isBlank c) ∧ line.length = length := fun empty =>
      ⟨0, fun line member held => absurd (empty line member) held⟩
    rw [or_iff_left_of_imp covered]

/-- One line at the margin, one of blanks alone and one that holds no character. -/
theorem dedent_takes_common_indentation_mixed :
    [" a".toList, "\t\t".toList, []][1]? = some "\t\t".toList ∧
      ((dedent [" a".toList, "\t\t".toList, []])[1]? =
          some ("\t\t".toList.drop (margin [" a".toList, "\t\t".toList, []])) ∧
        ∃ blanks, (∀ c ∈ blanks, Text.isBlank c) ∧ "\t\t".toList =
          blanks ++ "\t\t".toList.drop (margin [" a".toList, "\t\t".toList, []])) ∧
      (∀ line ∈ ([[], []] : List Line), line = []) ∧ margin [[], []] = 0 ∧
      (∃ line ∈ [" a".toList, "\t\t".toList, []], line ≠ []) ∧
      IsLeast {count | ∃ line ∈ [" a".toList, "\t\t".toList, []],
          line ≠ [] ∧ Text.indent line = count} (margin [" a".toList, "\t\t".toList, []]) ∧
      IsGreatest {count | BeginWithBlanks count [" a".toList, "\t\t".toList, []]}
        (margin [" a".toList, "\t\t".toList, []]) ∧
      dedent (dedent [" a".toList, "\t\t".toList, []]) =
        dedent [" a".toList, "\t\t".toList, []] :=
  have second : [" a".toList, "\t\t".toList, []][1]? = some "\t\t".toList := rfl
  have empty : ∀ line ∈ ([[], []] : List Line), line = [] := by decide
  have some_ : ∃ line ∈ [" a".toList, "\t\t".toList, []], line ≠ [] := by decide
  have atMargin : ∃ line ∈ [" a".toList, "\t\t".toList, []], line ≠ [] ∧
      Text.indent line = margin [" a".toList, "\t\t".toList, []] ∧
      ∃ c ∈ line, Text.isBlank c = false :=
    ⟨" a".toList, by decide, by decide, by decide, 'a', by decide, by decide⟩
  have whole := dedent_takes_common_indentation [" a".toList, "\t\t".toList, []]
  ⟨second, whole.2.1 1 "\t\t".toList second, empty,
    (dedent_takes_common_indentation [[], []]).2.2.1 empty, some_,
    (whole.2.2.2.1 some_).1, (whole.2.2.2.1 some_).2, whole.2.2.2.2.mpr (Or.inl atMargin)⟩

/-- A line of blanks alone holds the lines behind it back the first time only. -/
example : dedent (dedent ["\t\t".toList, "   a".toList]) = [[], "a".toList] ∧
    dedent ["\t\t".toList, "   a".toList] = [[], " a".toList] := by decide

end CompilerFeedback.Block
