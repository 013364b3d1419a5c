/-
# CompilerFeedback.Diagnostic -- a located message

A diagnostic is a message with a severity and the span it is about.  Its written
form is one line head, `file:line:column: severity: `, before the message.
-/
import CompilerFeedback.Position
import CompilerFeedback.Text.Blank

namespace CompilerFeedback

set_option autoImplicit false

/-- How serious a message is. -/
inductive Severity where
  | error
  | warning
  deriving DecidableEq, Repr

namespace Severity

/-- The word for a severity. -/
def name : Severity → Text
  | .error => "error".toList
  | .warning => "warning".toList

/-- The severity that a word names; case matters. -/
def ofName? (word : Text) : Option Severity := [error, warning].find? (·.name == word)

theorem ofName?_name (severity : Severity) : ofName? severity.name = some severity := by
  cases severity <;> decide

/-- The severity at the start of a message, and the message without it.  A
warning is marked by the word `warning`, in any case, before the first colon;
the text of a message without this mark is left as it is. -/
def split (message : Text) : Severity × Text :=
  match Text.after? ':' message with
  | some rest =>
      if Text.lower (Text.before ':' message) = warning.name then (.warning, Text.trim rest)
      else (.error, message)
  | none => (.error, message)

end Severity

/-- A message about a span. -/
structure Diagnostic where
  span : Span
  severity : Severity
  message : Text
  deriving DecidableEq, Repr

namespace Diagnostic

/-- The written form of a diagnostic. -/
def render (d : Diagnostic) : Text :=
  d.span.render ++ ": ".toList ++ d.severity.name ++ ": ".toList ++ d.message

end Diagnostic

end CompilerFeedback
