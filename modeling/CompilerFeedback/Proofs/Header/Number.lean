/-
# CompilerFeedback.Proofs.Header.Number -- up to where a coordinate is exact

A coordinate is a run of digits of any length.  Each digit counts ten times as much as the
one behind it, which gives the number that the run denotes (`Text.placeValue`).  That number
is not what the reader decides by.  It counts the digits behind the leading zeros, and
computes a number only where there are few of them.  The first of these digits is not zero,
so their count tells on which side of a power of ten the number lies, and both ways to decide
come to the same (`number_eq_min`).

* `Coordinates.numberWithin?_eq`: a reader that refuses no digits and long runs of them is
  never given any.
* `Coordinates.number_saturates`: the number is the one denoted, or the largest there is.
-/
import CompilerFeedback.Proofs.Header
import Mathlib.Data.Nat.Digits.Defs

namespace CompilerFeedback

set_option autoImplicit false

namespace Text

/-! ## The number that digits denote -/

/-- The number of one digit. -/
def digitValue (c : Char) : Nat := c.toNat - '0'.toNat

/-- The number that digits denote by their places; no digits denote zero. -/
def placeValue (digits : Text) : Nat := Nat.ofDigits 10 (digits.reverse.map digitValue)

theorem placeValue_cons (c : Char) (digits : Text) :
    placeValue (c :: digits) = placeValue digits + 10 ^ digits.length * digitValue c := by
  have whole := Nat.ofDigits_reverse_cons (b := 10) (digits.map digitValue) (digitValue c)
  simpa [placeValue] using whole

/-- Digits that are read one after the other give the number that their places denote. -/
theorem toNat_eq_placeValue (digits : Text) : toNat digits = placeValue digits := by
  induction digits with
  | nil => rfl
  | cons c digits ih =>
      rw [toNat_cons, placeValue_cons, ih, Nat.add_comm]
      rfl

/-- The number of one to `most` digits; other texts are refused. -/
def toNatWithin? (most : Nat) (digits : Text) : Option Nat :=
  if digits ≠ [] ∧ digits.length ≤ most then some (toNat digits) else none

end Text

namespace Coordinates

/-! ## Deciding by the count of digits -/

/-- The number of a coordinate by a reader that refuses no digits and more than `most` of
them: where nothing is left behind the leading zeros, a single zero is read. -/
def numberWithin? (most : Nat) (digits : Text) : Option Nat :=
  let significant := digits.dropWhile (· == '0')
  let kept := if significant = [] then ['0'] else significant
  if 18 < kept.length then some largest else Text.toNatWithin? most kept

/-- No run of digits is refused. -/
theorem numberWithin?_eq {most : Nat} (enough : 18 ≤ most) (digits : Text) :
    numberWithin? most digits = some (number digits) := by
  rw [numberWithin?, number]
  generalize digits.dropWhile (· == '0') = significant
  cases significant with
  | nil =>
      -- The single zero that is read here denotes what no digits denote.
      have one : ['0'].length ≤ most := by
        show 1 ≤ most
        omega
      show Text.toNatWithin? most ['0'] = some 0
      rw [Text.toNatWithin?, if_pos ⟨by simp, one⟩]
      rfl
  | cons c digits =>
      show (if 18 < (c :: digits).length then some largest
        else Text.toNatWithin? most (c :: digits)) = _
      split
      · rfl
      · rename_i short
        have fits : (c :: digits).length ≤ most := by omega
        rw [Text.toNatWithin?, if_pos ⟨by simp, fits⟩]

/-- Zeros in front of digits are not counted. -/
theorem number_zeros_append {zeros : Text} (zero : ∀ c ∈ zeros, c = '0') (digits : Text) :
    number (zeros ++ digits) = number digits := by
  have skipped : (zeros ++ digits).dropWhile (· == '0') = digits.dropWhile (· == '0') := by
    apply List.dropWhile_append_of_pos
    simpa using zero
  rw [number, number, skipped]

/-! ## The number -/

theorem number_eq_min_placeValue {digits : Text} (run : ∀ c ∈ digits, c.isDigit) :
    number digits = min (Text.placeValue digits) (10 ^ 18 - 1) := by
  have bound : largest = 10 ^ 18 - 1 := rfl
  rw [number_eq_min run, Text.toNat_eq_placeValue, bound]

/-- **A coordinate is exact below 10¹⁸ and stays at the largest number from there on.**  It
is what its digits denote, or the largest coordinate if that is less, although it is decided
by the count of digits and no number of more than 18 digits is ever read.  So a larger number
never gives a smaller coordinate, and leading zeros change none. -/
theorem number_saturates {digits : Text} (run : ∀ c ∈ digits, c.isDigit) :
    number digits = min (Text.placeValue digits) (10 ^ 18 - 1) ∧
      (∀ most, 18 ≤ most → numberWithin? most digits = some (number digits)) ∧
      (∀ other : Text, (∀ c ∈ other, c.isDigit) →
        Text.placeValue digits ≤ Text.placeValue other → number digits ≤ number other) ∧
      (number digits = Text.placeValue digits ↔ Text.placeValue digits < 10 ^ 18) ∧
      ∀ zeros : Text, (∀ c ∈ zeros, c = '0') → number (zeros ++ digits) = number digits := by
  have least := number_eq_min_placeValue run
  refine ⟨least, ?_, ?_, ?_, ?_⟩
  · intro most enough
    exact numberWithin?_eq enough digits
  · intro other otherRun below
    rw [least, number_eq_min_placeValue otherRun]
    omega
  · rw [least]
    omega
  · intro zeros zero
    exact number_zeros_append zero digits

/-- The largest number that is exact, next to the smallest that is not. -/
theorem number_saturates_nines :
    (∀ c ∈ List.replicate 18 '9', c.isDigit) ∧
      number (List.replicate 18 '9') =
        min (Text.placeValue (List.replicate 18 '9')) (10 ^ 18 - 1) ∧
      18 ≤ 18 ∧ numberWithin? 18 (List.replicate 18 '9') = some 999999999999999999 ∧
      (∀ c ∈ '1' :: List.replicate 18 '0', c.isDigit) ∧
      Text.placeValue (List.replicate 18 '9') ≤ Text.placeValue ('1' :: List.replicate 18 '0') ∧
      number (List.replicate 18 '9') ≤ number ('1' :: List.replicate 18 '0') ∧
      number (List.replicate 18 '9') = Text.placeValue (List.replicate 18 '9') ∧
      (∀ c ∈ ['0', '0'], c = '0') ∧
      number (['0', '0'] ++ List.replicate 18 '9') = number (List.replicate 18 '9') :=
  have run : ∀ c ∈ List.replicate 18 '9', c.isDigit := List.all_eq_true.mp rfl
  have otherRun : ∀ c ∈ '1' :: List.replicate 18 '0', c.isDigit := List.all_eq_true.mp rfl
  have below : Text.placeValue (List.replicate 18 '9') ≤
      Text.placeValue ('1' :: List.replicate 18 '0') := by decide
  have zero : ∀ c ∈ ['0', '0'], c = '0' := by simp
  have whole := number_saturates run
  ⟨run, whole.1, Nat.le_refl 18, whole.2.1 18 (Nat.le_refl 18), otherRun, below,
    whole.2.2.1 _ otherRun below, whole.2.2.2.1.mpr (by decide), zero, whole.2.2.2.2 _ zero⟩

/-- Only the digits behind the leading zeros are counted, and there may be none. -/
example : number (List.replicate 20 '0' ++ ['1', '2']) = 12 ∧ number ['0', '0'] = 0 ∧
    number [] = 0 := by decide

end Coordinates

end CompilerFeedback
