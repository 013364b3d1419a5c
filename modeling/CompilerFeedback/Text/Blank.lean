/-
# CompilerFeedback.Text.Blank -- blank characters

Blank characters are the white space of the Unicode character database together
with the four information separators U+001C to U+001F.  The zero-width space,
the byte order mark and the Mongolian vowel separator are not blank.

Indentation is the number of leading blanks, whatever their width on a screen.
-/
import CompilerFeedback.Text.Basic

namespace CompilerFeedback.Text

set_option autoImplicit false

/-- The blank characters, as closed ranges of code points. -/
def blankRanges : List (Nat × Nat) :=
  [(0x09, 0x0D), (0x1C, 0x20), (0x85, 0x85), (0xA0, 0xA0), (0x1680, 0x1680), (0x2000, 0x200A),
    (0x2028, 0x2029), (0x202F, 0x202F), (0x205F, 0x205F), (0x3000, 0x3000)]

/-- Whether `c` is white space. -/
def isBlank (c : Char) : Bool := blankRanges.any fun r => r.1 ≤ c.toNat && c.toNat ≤ r.2

/-- The number of leading blanks. -/
def indent (t : Text) : Nat := (t.takeWhile isBlank).length

/-- The text without its leading blanks. -/
def trimStart (t : Text) : Text := t.dropWhile isBlank

/-- The text without its trailing blanks. -/
def trimEnd (t : Text) : Text := (t.reverse.dropWhile isBlank).reverse

/-- The text without blanks at either end. -/
def trim (t : Text) : Text := trimEnd (trimStart t)

end CompilerFeedback.Text
