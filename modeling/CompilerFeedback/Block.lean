/-
# CompilerFeedback.Block -- the lines of one message

Lines are cut into blocks before every line that is no continuation, so a block
is one message of the compiler: its opening line and the continuations after it.
Only the very first block may open with a continuation, when the text does.

* `Block.split` is the cut; nothing is lost or moved (`flatten_split`).
* `Block.clean` ends a block before its first noise line; the opening line stays.
* `Block.dedent` takes the common indentation off.
-/
import CompilerFeedback.Line

namespace CompilerFeedback

set_option autoImplicit false

/-- A block is a list of lines. -/
abbrev Block := List Line

namespace Block

/-! ## Cutting lines into blocks -/

/-- Puts a line in front of the blocks that follow it: into the first of them if
that one opens with a continuation, else as a block of its own. -/
def attach (line : Line) : List Block → List Block
  | [] => [[line]]
  | block :: blocks =>
      if block.head?.any Line.isContinuation then (line :: block) :: blocks
      else [line] :: block :: blocks

/-- The blocks of a list of lines. -/
def split (lines : List Line) : List Block := lines.foldr attach []

theorem flatten_attach (line : Line) (blocks : List Block) :
    (attach line blocks).flatten = line :: blocks.flatten := by
  cases blocks with
  | nil => rfl
  | cons block blocks => simp only [attach]; split <;> simp

/-- The blocks hold exactly the lines, in order. -/
theorem flatten_split (lines : List Line) : (split lines).flatten = lines := by
  induction lines with
  | nil => rfl
  | cons line lines ih => simpa [split, flatten_attach] using ih

/-! ## Message text -/

/-- The block up to its first noise line; the opening line always stays. -/
def clean : Block → Block
  | [] => []
  | opening :: body => opening :: body.takeWhile fun line => !Line.isNoise line

/-! ## Indentation -/

/-- The least indentation of the lines that hold a character; zero if none does. -/
def margin (lines : List Line) : Nat :=
  (((lines.filter (· ≠ [])).map Text.indent).min?).getD 0

/-- Every line without its first `margin` characters. -/
def dedent (lines : List Line) : List Line := lines.map (·.drop (margin lines))

theorem length_dedent (lines : List Line) : (dedent lines).length = lines.length := by
  simp [dedent]

end Block

end CompilerFeedback
