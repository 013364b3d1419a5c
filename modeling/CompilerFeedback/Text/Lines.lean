/-
# CompilerFeedback.Text.Lines -- lines of a text

A text is cut into lines after its carriage returns are deleted; empty lines are
dropped.  Reading a file has another rule for carriage returns: there each one
ends a line, together with a line feed that follows it.
-/
import CompilerFeedback.Text.Basic

namespace CompilerFeedback.Text

set_option autoImplicit false

/-- The text without its carriage returns. -/
def dropReturns (t : Text) : Text := t.filter (· != '\r')

/-- The lines that hold at least one character, in order. -/
def lines (t : Text) : List Text := ((dropReturns t).splitOn '\n').filter (· ≠ [])

/-- The lines in order, a line feed between every two neighbours. -/
def unlines (ls : List Text) : Text := join ['\n'] ls

/-- A carriage return, alone or before a line feed, is read as one line feed. -/
def normalizeNewlines : Text → Text
  | [] => []
  | '\r' :: '\n' :: t => '\n' :: normalizeNewlines t
  | c :: t => (if c = '\r' then '\n' else c) :: normalizeNewlines t

theorem ne_nil_of_mem_lines {t line : Text} (h : line ∈ lines t) : line ≠ [] := by
  simpa using (List.mem_filter.mp h).2

end CompilerFeedback.Text
