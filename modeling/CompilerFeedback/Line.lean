/-
# CompilerFeedback.Line -- kinds of lines

A message of the compiler starts with a line at the left margin.  A line belongs
to the message before it, as a *continuation*, if it is indented or frames a
piece of source: ` 12 | f x`, `   | ^`.  What stands before the bar is blank or
one number, which may have a sign, a fraction and an exponent.

Three kinds of lines carry no message text and are *noise*: those that name a
context (`In the expression: ...`), numbered citations and empty frames.

* `Numeral.scan?` reads the longest number at the start of a text; nothing that
  follows a number could extend it, so no shorter reading is ever needed.
-/
import CompilerFeedback.Text.Blank
import CompilerFeedback.Text.Decimal

namespace CompilerFeedback

set_option autoImplicit false

/-- A line is a text; lines that were cut out of a text hold no line feed. -/
abbrev Line := Text

/-! ## Numbers before a bar -/

namespace Numeral

/-- What follows an optional sign. -/
def skipSign : Text → Text
  | [] => []
  | c :: t => if c = '+' ∨ c = '-' then t else c :: t

/-- What follows digits with an optional fraction, or a fraction alone. -/
def scanMantissa? (t : Text) : Option Text :=
  if Text.startsWithDigit t then
    match Text.dropDigits t with
    | '.' :: rest => some (Text.dropDigits rest)
    | rest => some rest
  else
    match t with
    | '.' :: rest => if Text.startsWithDigit rest then some (Text.dropDigits rest) else none
    | _ => none

/-- What follows an exponent, if one stands here. -/
def skipExponent : Text → Text
  | [] => []
  | c :: t =>
      if (c = 'e' ∨ c = 'E') ∧ Text.startsWithDigit (skipSign t) then Text.dropDigits (skipSign t)
      else c :: t

/-- What follows the longest number at the start; `none` if no number stands there. -/
def scan? (t : Text) : Option Text := (scanMantissa? (skipSign t)).map skipExponent

end Numeral

namespace Line

/-! ## Continuations -/

/-- Whether a text is blank but for at most one number. -/
def isGutter (t : Text) : Bool :=
  let rest := Text.trimStart t
  rest.isEmpty || (Numeral.scan? rest).any (·.all Text.isBlank)

/-- Whether the line continues the message before it. -/
def isContinuation (line : Line) : Bool :=
  line.head?.any Text.isBlank || (line.contains '|' && isGutter (Text.before '|' line))

/-! ## Noise -/

/-- The words that introduce the context of an error. -/
def contextMarker : Text := "In the".toList

/-- Whether the line names a context. -/
def isContext (line : Line) : Bool := Text.hasPart contextMarker line

/-- Whether the line begins with a line number and a bar. -/
def isCitation (line : Line) : Bool :=
  let number := Text.trimStart line
  Text.startsWithDigit number && (Text.trimStart (Text.dropDigits number)).head? == some '|'

/-- Whether the line is a bar and otherwise blank. -/
def isDivider (line : Line) : Bool := Text.trim line == ['|']

/-- Whether the line carries no message text. -/
def isNoise (line : Line) : Bool := isContext line || isCitation line || isDivider line

end Line

end CompilerFeedback
