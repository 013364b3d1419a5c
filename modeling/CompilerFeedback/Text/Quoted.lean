/-
# CompilerFeedback.Text.Quoted -- text as it is quoted in messages

A quoted text stands between single quotes, or between double quotes where that
saves escaping: if it holds a single quote and no double quote.  A backslash
escapes itself and the quote; tab, line feed and carriage return have short
escapes; other characters without a printed form are written by their number, in
two, four or eight digits of base sixteen.
-/
import CompilerFeedback.Text.Hex
import CompilerFeedback.Text.Printable

namespace CompilerFeedback.Text

set_option autoImplicit false

/-- The quote that is chosen for a text. -/
def quoteMark (t : Text) : Char := if t.contains '\'' && !t.contains '"' then '"' else '\''

/-- The number of a character behind a backslash, in the shortest of three widths. -/
def escapeNumber (c : Char) : Text :=
  if c.toNat < 0x100 then '\\' :: 'x' :: hex 2 c.toNat
  else if c.toNat < 0x10000 then '\\' :: 'u' :: hex 4 c.toNat
  else '\\' :: 'U' :: hex 8 c.toNat

/-- One character between the quotes `mark`. -/
def quoteChar (mark c : Char) : Text :=
  if c = mark ∨ c = '\\' then ['\\', c]
  else if c = '\t' then ['\\', 't']
  else if c = '\n' then ['\\', 'n']
  else if c = '\r' then ['\\', 'r']
  else if isPrintable c then [c]
  else escapeNumber c

/-- The quoted form of a text. -/
def quoted (t : Text) : Text :=
  quoteMark t :: t.flatMap (quoteChar (quoteMark t)) ++ [quoteMark t]

end CompilerFeedback.Text
