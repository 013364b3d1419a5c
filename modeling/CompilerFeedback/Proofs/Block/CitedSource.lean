/-
# CompilerFeedback.Proofs.Block.CitedSource -- cited source opens no message

The compiler cites source behind a line number and a bar, and frames it by bars alone.  Such
lines meet two tests that share no pattern.  One asks for an indentation or a gutter before
the first bar, and decides where messages are cut; the other asks for digits before a bar or
for nothing but a bar, and decides where their text ends.  If cited source were noise but no
continuation, it would open a message of its own.

An indented line is a continuation whatever it cites, and at the margin there are digits and
blanks before the bar, or nothing.

* `Line.isNoise_iff_context_or_citesSource`: noise names a context or cites source.
* `Block.cited_source_opens_no_message`: cited source opens a block only where it is the very
  first line, and noise that opens any other block names a context.
-/
import CompilerFeedback.Proofs.Block.Segmentation
import CompilerFeedback.Proofs.Line.Grammar
import CompilerFeedback.Proofs.Noise

namespace CompilerFeedback

set_option autoImplicit false

namespace Line

/-! ## Cited source as patterns -/

/-- The pattern of a line number and a bar. -/
def citationPattern : Pattern Empty :=
  .seq (.many Text.isBlank 0) <| .seq Numeral.digitsPattern <|
    .seq (.many Text.isBlank 0) (.word ['|'])

/-- The pattern of a bar and nothing else. -/
def dividerPattern : Pattern Empty :=
  .seq (.many Text.isBlank 0) <| .seq (.word ['|']) (.many Text.isBlank 0)

/-- Whether a line begins with a line number and a bar, or is a bar alone. -/
def CitesSource (line : Line) : Prop :=
  (citationPattern.match? line).isSome ∨ dividerPattern.matchesWhole line

theorem match_citation_iff {line : Line} :
    (citationPattern.match? line).isSome ↔ line.isCitation := by
  rw [Pattern.isSome_match?_iff, isCitation_iff]
  constructor
  · rintro ⟨_, source, rfl, margin, _, rfl, ⟨-, outer⟩, number, _, rfl, run, gap, _, rfl,
      ⟨-, inner⟩, rfl⟩
    refine ⟨margin, number, gap, source, outer, Numeral.spells_digits_iff.mp run, inner, ?_⟩
    simp
  · rintro ⟨margin, number, gap, source, outer, run, inner, rfl⟩
    refine ⟨margin ++ (number ++ (gap ++ ['|'])), source, by simp, ?_⟩
    exact ⟨margin, _, rfl, ⟨Nat.zero_le _, outer⟩, number, _, rfl,
      Numeral.spells_digits_iff.mpr run, gap, _, rfl, ⟨Nat.zero_le _, inner⟩, rfl⟩

theorem matchesWhole_divider_iff {line : Line} :
    dividerPattern.matchesWhole line ↔ line.isDivider := by
  rw [Pattern.matchesWhole_iff, isDivider_iff]
  constructor
  · rintro ⟨margin, _, rfl, ⟨-, outer⟩, _, gap, rfl, rfl, -, inner⟩
    exact ⟨margin, gap, outer, inner, rfl⟩
  · rintro ⟨margin, gap, outer, inner, rfl⟩
    exact ⟨margin, _, rfl, ⟨Nat.zero_le _, outer⟩, ['|'], gap, rfl, rfl, Nat.zero_le _, inner⟩

/-- Noise names a context or cites source. -/
theorem isNoise_iff_context_or_citesSource {line : Line} :
    line.isNoise ↔
      (∃ before after, line = before ++ contextMarker ++ after) ∨ line.CitesSource := by
  rw [isNoise, Bool.or_eq_true, Bool.or_eq_true, or_assoc, isContext_iff, CitesSource,
    match_citation_iff, matchesWhole_divider_iff]

/-! ## Cited source continues a message -/

theorem isContinuation_of_isCitation {line : Line} (citation : line.isCitation) :
    line.isContinuation := by
  obtain ⟨margin, number, gap, source, outer, run, inner, rfl⟩ := isCitation_iff.mp citation
  have atMargin := isContinuation_of_citation run inner source
  rw [List.append_assoc] at atMargin
  exact isContinuation_append_blanks outer atMargin

theorem isContinuation_of_isDivider {line : Line} (divider : line.isDivider) :
    line.isContinuation := by
  obtain ⟨margin, gap, outer, -, rfl⟩ := isDivider_iff.mp divider
  -- Nothing stands before the bar, so what follows it does not matter.
  have atMargin : isContinuation ('|' :: gap) := by
    simp [isContinuation, isGutter, Text.before, Text.trimStart]
  exact isContinuation_append_blanks outer atMargin

theorem CitesSource.isContinuation {line : Line} (cites : line.CitesSource) :
    line.isContinuation := by
  rcases cites with citation | divider
  · exact isContinuation_of_isCitation (match_citation_iff.mp citation)
  · exact isContinuation_of_isDivider (matchesWhole_divider_iff.mp divider)

end Line

namespace Block

/-! ## Which lines open a block -/

variable {lines : List Line} {i : Nat} {block : Block} {opening : Line}

/-- Every block but the first opens a message. -/
theorem not_isContinuation_of_later (found : (split lines)[i]? = some block)
    (first : block.head? = some opening) (later : 0 < i) : opening.isContinuation = false := by
  cases i with
  | zero => omega
  | succ i =>
      have inTail : block ∈ (split lines).tail := by
        apply List.mem_of_getElem? (i := i)
        rw [List.getElem?_tail]
        exact found
      have opens := (segmentation_split lines).opens block inTail
      rw [first] at opens
      exact opens

/-- A continuation that opens a block is the first of all lines. -/
theorem first_of_isContinuation (found : (split lines)[i]? = some block)
    (first : block.head? = some opening) (continues : opening.isContinuation) :
    i = 0 ∧ lines.head? = some opening := by
  have zero : i = 0 := by
    by_contra other
    have opens := not_isContinuation_of_later found first (Nat.pos_of_ne_zero other)
    rw [continues] at opens
    cases opens
  refine ⟨zero, ?_⟩
  rw [← head?_split lines, List.head?_eq_getElem?, ← zero, found]
  exact first

/-- **Cited source opens no message.**  A line that begins with a line number and a bar, or is
a bar alone, continues the message before it.  So it can open a block only as the first of all
lines, where no message stands before it; and noise that opens any later block names a
context, as there is no other noise. -/
theorem cited_source_opens_no_message :
    (∀ line : Line, line.CitesSource → line.isContinuation) ∧
      (∀ line : Line, line.isNoise ↔
        (∃ before after, line = before ++ Line.contextMarker ++ after) ∨ line.CitesSource) ∧
      ∀ (lines : List Line) (i : Nat) (block : Block) (opening : Line),
        (split lines)[i]? = some block → block.head? = some opening →
          (opening.CitesSource → i = 0 ∧ lines.head? = some opening) ∧
          (0 < i → opening.isNoise →
            ∃ before after, opening = before ++ Line.contextMarker ++ after) := by
  refine ⟨?_, ?_, ?_⟩
  · intro line cites
    exact cites.isContinuation
  · intro line
    exact Line.isNoise_iff_context_or_citesSource
  · intro lines i block opening found first
    refine ⟨?_, ?_⟩
    · intro cites
      exact first_of_isContinuation found first cites.isContinuation
    · intro later noise
      rcases Line.isNoise_iff_context_or_citesSource.mp noise with context | cites
      · exact context
      · have opens := not_isContinuation_of_later found first later
        rw [cites.isContinuation] at opens
        cases opens

/-- A citation in front, a bar inside a message, and a context that opens one. -/
def citingLines : List Line :=
  ["3\u00a0| f x".toList, "A.hs:1:1: e".toList, "\u3000|".toList, "In the w".toList]

theorem cited_source_opens_no_message_first :
    Line.CitesSource "\u3000|".toList ∧ Line.isContinuation "\u3000|".toList ∧
      (split citingLines)[0]? = some ["3\u00a0| f x".toList] ∧
      Line.CitesSource "3\u00a0| f x".toList ∧
      (0 = 0 ∧ citingLines.head? = some "3\u00a0| f x".toList) ∧
      (split citingLines)[2]? = some ["In the w".toList] ∧ 0 < 2 ∧
      Line.isNoise "In the w".toList ∧
      ∃ before after, "In the w".toList = before ++ Line.contextMarker ++ after :=
  have divider : Line.CitesSource "\u3000|".toList := Or.inr (by decide)
  have citation : Line.CitesSource "3\u00a0| f x".toList := Or.inl (by decide)
  have front : (split citingLines)[0]? = some ["3\u00a0| f x".toList] := by decide
  have last : (split citingLines)[2]? = some ["In the w".toList] := by decide
  have noise : Line.isNoise "In the w".toList := by decide
  have blocks := cited_source_opens_no_message.2.2 citingLines
  ⟨divider, cited_source_opens_no_message.1 _ divider, front, citation,
    (blocks 0 _ _ front rfl).1 citation, last, by decide, noise,
    (blocks 2 _ _ last rfl).2 (by decide) noise⟩

end Block

end CompilerFeedback
