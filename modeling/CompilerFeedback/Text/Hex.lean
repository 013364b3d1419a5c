/-
# CompilerFeedback.Text.Hex -- numbers of fixed width in base sixteen

Digits above nine are small letters.  A number that does not fit its width loses
its upper digits.
-/
import CompilerFeedback.Text.Basic

namespace CompilerFeedback.Text

set_option autoImplicit false

/-- The last `width` digits of `n` in base sixteen. -/
def hex (width n : Nat) : Text :=
  match width with
  | 0 => []
  | width + 1 => hex width (n / 16) ++ [Nat.digitChar (n % 16)]

@[simp] theorem length_hex (width n : Nat) : (hex width n).length = width := by
  induction width generalizing n with
  | zero => rfl
  | succ width ih => simp [hex, ih]

end CompilerFeedback.Text
