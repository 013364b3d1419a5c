/-
# CompilerFeedback.Proofs.Block.Pass -- cutting lines in one pass

Lines can be cut while they are read, with no line read twice.  A pass holds the blocks
that are finished and the block at hand.  A continuation joins the block at hand; any
other line finishes it, unless it is empty, and begins the next one.  At the end the
block at hand is finished like the others.

* `Reached`: the blocks of a pass, the one at hand included, are a lawful cut of the lines
  that were read.  `Reached.take` keeps that for one line, `Reached.run` for a whole run.
* `only_lawful_cut`: the pass, `split` and every lawful cut are one and the same.
-/
import CompilerFeedback.Proofs.Block.Segmentation

namespace CompilerFeedback.Block

set_option autoImplicit false

/-- How far lines have been cut: the finished blocks, and the one at hand. -/
structure Pass where
  finished : List Block
  pending : Block

namespace Pass

variable {s : Pass} {line : Line} {read more : List Line}

/-- A pass before the first line. -/
def start : Pass := ⟨[], []⟩

/-- The blocks so far; the block at hand is one of them unless it is empty. -/
def blocks (s : Pass) : List Block :=
  if s.pending = [] then s.finished else s.finished ++ [s.pending]

/-- One line more. -/
def take (s : Pass) (line : Line) : Pass :=
  if line.isContinuation then ⟨s.finished, s.pending ++ [line]⟩ else ⟨s.blocks, [line]⟩

/-- The blocks of some lines, cut in one pass. -/
def run (lines : List Line) : List Block := (lines.foldl take start).blocks

theorem blocks_of_ne_nil {finished : List Block} {pending : Block} (held : pending ≠ []) :
    blocks ⟨finished, pending⟩ = finished ++ [pending] := if_neg held

theorem take_of_continues (continues : line.isContinuation) :
    s.take line = ⟨s.finished, s.pending ++ [line]⟩ := if_pos continues

theorem take_of_opens (opens : line.isContinuation = false) : s.take line = ⟨s.blocks, [line]⟩ :=
  if_neg (by simp [opens])

/-! ## What a pass keeps -/

/-- Whether a pass has cut the lines that were read.  The block at hand is empty only
before the first line, so no block is finished without it. -/
structure Reached (s : Pass) (read : List Line) : Prop where
  cut : Segmentation read s.blocks
  begun : s.pending = [] → s.finished = []

theorem reached_start : Reached start [] := ⟨segmentation_split [], fun _ => rfl⟩

/-- One line more is cut lawfully. -/
theorem Reached.take (reached : Reached s read) (line : Line) :
    Reached (s.take line) (read ++ [line]) := by
  obtain ⟨finished, pending⟩ := s
  cases continues : line.isContinuation with
  | true =>
      rw [take_of_continues continues]
      refine ⟨?_, by simp⟩
      rw [blocks_of_ne_nil (by simp)]
      by_cases empty : pending = []
      · -- The very first line: it may be a continuation, and opens the first block.
        have first : finished = [] := reached.begun empty
        have nothing : read = [] := by
          rw [← reached.cut.whole, blocks, if_pos empty]
          simp [first]
        rw [first, empty, nothing]
        exact segmentation_split [line]
      · have cut := reached.cut
        rw [blocks_of_ne_nil empty] at cut
        exact cut.append (by simpa using continues)
  | false =>
      rw [take_of_opens continues]
      refine ⟨?_, by simp⟩
      have opens : Opens [line] := continues
      have cut : blocks ⟨finished, pending⟩ ++ [[line]] = split (read ++ [line]) := by
        rw [split_append read opens, reached.cut.eq_split]
        rfl
      rw [blocks_of_ne_nil (by simp), cut]
      exact segmentation_split _

/-- Any number of lines are cut lawfully. -/
theorem Reached.run (reached : Reached s read) :
    Reached (more.foldl Pass.take s) (read ++ more) := by
  induction more generalizing s read with
  | nil => simpa using reached
  | cons line more ih => simpa using ih (reached.take line)

theorem segmentation_run (lines : List Line) : Segmentation lines (run lines) := by
  have reached : Reached (lines.foldl Pass.take start) ([] ++ lines) := reached_start.run
  exact reached.cut

end Pass

/-- **There is one lawful way to cut lines into blocks, and both the cut from the end and
the pass from the start make it.**  Blocks that are not empty and hold the lines in their
order, with nothing but continuations behind their first lines, and of which only the first
may begin with a continuation, are the blocks of the lines. -/
theorem only_lawful_cut (lines : List Line) (blocks : List Block) :
    (Segmentation lines blocks ↔ blocks = split lines) ∧ Pass.run lines = split lines := by
  refine ⟨⟨fun cut => cut.eq_split, ?_⟩, (Pass.segmentation_run lines).eq_split⟩
  rintro rfl
  exact segmentation_split lines

/-- A continuation in front, an opening line alone, and a block at the end. -/
example : Pass.run ["  stray".toList, "a".toList, "b".toList, "1 | x".toList] =
    [["  stray".toList], ["a".toList], ["b".toList, "1 | x".toList]] := by decide

end CompilerFeedback.Block
