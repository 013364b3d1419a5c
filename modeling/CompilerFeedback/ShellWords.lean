/-
# CompilerFeedback.ShellWords -- the words of a command line

Words are separated by spaces, tabs, carriage returns and line feeds.  Single
quotes keep everything between them as it is.  Between double quotes a backslash
takes the character after it if that is a double quote or a backslash, and stands
for itself before any other.  Outside quotes a backslash takes any character.
Pieces that touch make one word, and a quoted piece makes a word even if empty.

* `ShellWords.read` goes through the line once and knows what surrounds the next
  character; `Words.current` is what the word under way still gets.
-/
import CompilerFeedback.Text.Basic

namespace CompilerFeedback.ShellWords

set_option autoImplicit false

/-- Why a command line cannot be read. -/
inductive Fault where
  /-- It ends between quotes. -/
  | openQuote
  /-- It ends behind a backslash. -/
  | openEscape
  deriving DecidableEq, Repr

/-- The wording of a fault. -/
def Fault.message : Fault → Text
  | .openQuote => "No closing quotation".toList
  | .openEscape => "No escaped character".toList

/-- What surrounds the next character. -/
inductive Mode where
  | plain
  | single
  | double
  | escaped
  | escapedInDouble
  deriving DecidableEq, Repr

/-- The characters that separate words. -/
def isSeparator (c : Char) : Bool := c == ' ' || c == '\t' || c == '\r' || c == '\n'

/-- What a rest of the line adds: characters of the word under way, `none` if no
word is under way, and the words after it. -/
structure Words where
  current : Option Text
  later : List Text
  deriving DecidableEq, Repr

namespace Words

/-- More characters of the word under way; none make a word, too. -/
def glue (more : Text) (w : Words) : Words := ⟨some (more ++ w.current.getD []), w.later⟩

/-- A separator before the words. -/
def separate (w : Words) : Words := ⟨none, w.current.toList ++ w.later⟩

/-- All words. -/
def toList (w : Words) : List Text := w.current.toList ++ w.later

end Words

/-- The words of the rest of a line. -/
def read : Mode → Text → Except Fault Words
  | .plain, [] => .ok ⟨none, []⟩
  | .single, [] | .double, [] => .error .openQuote
  | .escaped, [] | .escapedInDouble, [] => .error .openEscape
  | .plain, c :: rest =>
      if isSeparator c then (read .plain rest).map .separate
      else if c = '\'' then (read .single rest).map (.glue [])
      else if c = '"' then (read .double rest).map (.glue [])
      else if c = '\\' then read .escaped rest
      else (read .plain rest).map (.glue [c])
  | .single, c :: rest =>
      if c = '\'' then (read .plain rest).map (.glue []) else (read .single rest).map (.glue [c])
  | .double, c :: rest =>
      if c = '"' then (read .plain rest).map (.glue [])
      else if c = '\\' then read .escapedInDouble rest
      else (read .double rest).map (.glue [c])
  | .escaped, c :: rest => (read .plain rest).map (.glue [c])
  | .escapedInDouble, c :: rest =>
      (read .double rest).map (.glue (if c = '"' ∨ c = '\\' then [c] else ['\\', c]))

/-- The words of a command line. -/
def split (t : Text) : Except Fault (List Text) := (read .plain t).map Words.toList

end CompilerFeedback.ShellWords
