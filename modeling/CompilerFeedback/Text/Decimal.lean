/-
# CompilerFeedback.Text.Decimal -- whole numbers in decimal

Numbers are written without leading zeros, a minus sign before negative ones.
Runs of ASCII digits of any length are read as the number they denote.
-/
import CompilerFeedback.Text.Basic

namespace CompilerFeedback.Text

set_option autoImplicit false

/-! ## Writing -/

/-- The decimal digits of a natural number. -/
def ofNat (n : Nat) : Text := Nat.toDigits 10 n

/-- The decimal digits of an integer, after a minus sign if it is negative. -/
def ofInt : Int → Text
  | .ofNat n => ofNat n
  | .negSucc n => '-' :: ofNat (n + 1)

/-- The decimal digits of a number, with zeros before them up to `width` digits. -/
def padded (width n : Nat) : Text :=
  List.replicate (width - (ofNat n).length) '0' ++ ofNat n

/-! ## Reading -/

/-- The number that a run of ASCII digits denotes; no digits denote zero. -/
def toNat (digits : Text) : Nat := Nat.ofDigitChars 10 digits 0

/-- Whether the text begins with an ASCII digit. -/
def startsWithDigit : Text → Bool
  | [] => false
  | c :: _ => c.isDigit

/-- The leading run of ASCII digits. -/
def takeDigits (t : Text) : Text := t.takeWhile Char.isDigit

/-- What follows the leading run of ASCII digits. -/
def dropDigits (t : Text) : Text := t.dropWhile Char.isDigit

theorem takeDigits_append_dropDigits (t : Text) : takeDigits t ++ dropDigits t = t :=
  List.takeWhile_append_dropWhile

/-- Reading a number's digits gives the number. -/
theorem toNat_ofNat (n : Nat) : toNat (ofNat n) = n := Nat.ofDigitChars_ten_toDigits

end CompilerFeedback.Text
