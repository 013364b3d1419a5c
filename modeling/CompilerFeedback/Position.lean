/-
# CompilerFeedback.Position -- places in a source file

The compiler counts lines and columns from one; a stored position counts both
from zero.  A zero in the compiler's output is taken as a one.

The end of a span is kept as line from zero and column from one, so that it
points just past the last character of the span.  It may precede the start.
-/
import CompilerFeedback.Text.Decimal

namespace CompilerFeedback

set_option autoImplicit false

/-- A line and a column, both counted from zero. -/
structure Position where
  line : Int
  column : Int
  deriving DecidableEq, Repr

namespace Position

/-- The first character of a file. -/
def origin : Position := ⟨0, 0⟩

/-- The position that the compiler writes as `line` and `column`. -/
def ofOneBased (line column : Int) : Position := ⟨max (line - 1) 0, max (column - 1) 0⟩

end Position

/-- A range of characters of one file. -/
structure Span where
  file : Text
  start : Position
  stop : Position
  deriving DecidableEq, Repr

namespace Span

/-- The start of the file, as an empty range. -/
def top (file : Text) : Span := ⟨file, .origin, .origin⟩

/-- The file and the start of the span, counted from one: `file:line:column`. -/
def render (span : Span) : Text :=
  span.file ++ ':' :: Text.ofInt (span.start.line + 1) ++ ':' :: Text.ofInt (span.start.column + 1)

end Span

end CompilerFeedback
