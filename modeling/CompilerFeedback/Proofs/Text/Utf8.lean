/-
# CompilerFeedback.Proofs.Text.Utf8 -- a text survives its bytes

The bytes of a character take the decoder from between two characters back to
between two characters, and complete this character on the way.  There are four
lengths; in each the first byte tells the length and the narrow ranges behind some
first bytes are kept, because the code point is not too small for its length, is no
surrogate and is at most the last one.

* `decodeFrom_encodeChar`: one character, whatever follows it.
* `decode_encode`: a whole text.
-/
import CompilerFeedback.Text.Utf8

namespace CompilerFeedback.Text.Utf8

set_option autoImplicit false

theorem decodeFrom_cons (state : State) (b : UInt8) (bytes : Bytes) :
    decodeFrom state (b :: bytes) =
      (step state b.toNat).1 ++ decodeFrom (step state b.toNat).2 bytes := by
  cases state <;> rfl

/-! ## First bytes -/

theorem first_two : ∀ k < 32, 2 ≤ k → first (0xC0 + k) = ([], .inside 0 0x80 0xBF k) := by decide

theorem first_three : ∀ k < 16, first (0xE0 + k) =
    ([], .inside 1 (if k = 0 then 0xA0 else 0x80) (if k = 13 then 0x9F else 0xBF) k) := by decide

theorem first_four : ∀ k < 5, first (0xF0 + k) =
    ([], .inside 2 (if k = 0 then 0x90 else 0x80) (if k = 4 then 0x8F else 0xBF) k) := by decide

theorem toNat_ofNat_of_lt {n : Nat} (small : n < 256) : (UInt8.ofNat n).toNat = n :=
  UInt8.toNat_ofNat_of_lt' small

/-! ## Bytes inside a character -/

theorem toNat_trail (n : Nat) : (trail n).toNat = 0x80 + n % 64 := by
  unfold trail
  exact toNat_ofNat_of_lt (by omega)

/-- A byte inside a character that is not its last one. -/
theorem decodeFrom_inside {least most value n : Nat} (more : Nat) (lower : least ≤ 0x80 + n % 64)
    (upper : 0x80 + n % 64 ≤ most) (bytes : Bytes) :
    decodeFrom (.inside (more + 1) least most value) (trail n :: bytes) =
      decodeFrom (.inside more 0x80 0xBF (value * 64 + n % 64)) bytes := by
  rw [decodeFrom_cons, toNat_trail, step, if_pos ⟨lower, upper⟩, Nat.add_sub_cancel_left]
  rfl

/-- The last byte of a character completes it. -/
theorem decodeFrom_last {least most value n : Nat} (lower : least ≤ 0x80 + n % 64)
    (upper : 0x80 + n % 64 ≤ most) (bytes : Bytes) :
    decodeFrom (.inside 0 least most value) (trail n :: bytes) =
      Char.ofNat (value * 64 + n % 64) :: decodeFrom .start bytes := by
  rw [decodeFrom_cons, toNat_trail, step, if_pos ⟨lower, upper⟩, Nat.add_sub_cancel_left]
  rfl

/-! ## The four lengths -/

theorem decodeFrom_one {n : Nat} (upper : n < 0x80) (bytes : Bytes) :
    decodeFrom .start (UInt8.ofNat n :: bytes) = Char.ofNat n :: decodeFrom .start bytes := by
  rw [decodeFrom_cons, toNat_ofNat_of_lt (by omega), step, first, if_pos upper]
  rfl

theorem decodeFrom_two {n : Nat} (lower : 0x80 ≤ n) (upper : n < 0x800) (bytes : Bytes) :
    decodeFrom .start (UInt8.ofNat (0xC0 + n / 64) :: trail n :: bytes) =
      Char.ofNat n :: decodeFrom .start bytes := by
  rw [decodeFrom_cons, toNat_ofNat_of_lt (by omega), step,
    first_two (n / 64) (by omega) (by omega)]
  refine (decodeFrom_last (by omega) (by omega) bytes).trans ?_
  rw [show n / 64 * 64 + n % 64 = n by omega]

theorem decodeFrom_three {n : Nat} (lower : 0x800 ≤ n) (upper : n < 0x10000)
    (noSurrogate : n < 0xD800 ∨ 0xDFFF < n) (bytes : Bytes) :
    decodeFrom .start (UInt8.ofNat (0xE0 + n / 64 / 64) :: trail (n / 64) :: trail n :: bytes) =
      Char.ofNat n :: decodeFrom .start bytes := by
  rw [decodeFrom_cons, toNat_ofNat_of_lt (by omega), step, first_three (n / 64 / 64) (by omega)]
  have least : (if n / 64 / 64 = 0 then 0xA0 else 0x80) ≤ 0x80 + n / 64 % 64 := by
    split <;> omega
  have most : 0x80 + n / 64 % 64 ≤ if n / 64 / 64 = 13 then 0x9F else 0xBF := by
    split <;> omega
  refine (decodeFrom_inside 0 least most (trail n :: bytes)).trans ?_
  rw [decodeFrom_last (by omega) (by omega)]
  rw [show (n / 64 / 64 * 64 + n / 64 % 64) * 64 + n % 64 = n by omega]

theorem decodeFrom_four {n : Nat} (lower : 0x10000 ≤ n) (upper : n < 0x110000) (bytes : Bytes) :
    decodeFrom .start (UInt8.ofNat (0xF0 + n / 64 / 64 / 64) :: trail (n / 64 / 64) ::
        trail (n / 64) :: trail n :: bytes) = Char.ofNat n :: decodeFrom .start bytes := by
  rw [decodeFrom_cons, toNat_ofNat_of_lt (by omega), step, first_four (n / 64 / 64 / 64) (by omega)]
  have least : (if n / 64 / 64 / 64 = 0 then 0x90 else 0x80) ≤ 0x80 + n / 64 / 64 % 64 := by
    split <;> omega
  have most : 0x80 + n / 64 / 64 % 64 ≤ if n / 64 / 64 / 64 = 4 then 0x8F else 0xBF := by
    split <;> omega
  refine (decodeFrom_inside 1 least most (trail (n / 64) :: trail n :: bytes)).trans ?_
  rw [decodeFrom_inside 0 (by omega) (by omega), decodeFrom_last (by omega) (by omega)]
  rw [show ((n / 64 / 64 / 64 * 64 + n / 64 / 64 % 64) * 64 + n / 64 % 64) * 64 + n % 64 = n
    by omega]

/-! ## Whole texts -/

/-- The bytes of a character are read as this character, whatever follows them. -/
theorem decodeFrom_encodeChar (c : Char) (bytes : Bytes) :
    decodeFrom .start (encodeChar c ++ bytes) = c :: decodeFrom .start bytes := by
  have valid : c.toNat < 0xD800 ∨ 0xDFFF < c.toNat ∧ c.toNat < 0x110000 := c.valid
  have whole : Char.ofNat c.toNat = c := Char.ofNat_toNat c
  unfold encodeChar
  generalize c.toNat = n at valid whole
  subst whole
  by_cases one : n < 0x80
  · simp only [if_pos one]
    exact decodeFrom_one one bytes
  by_cases two : n < 0x800
  · simp only [if_neg one, if_pos two]
    exact decodeFrom_two (by omega) two bytes
  by_cases three : n < 0x10000
  · simp only [if_neg one, if_neg two, if_pos three]
    exact decodeFrom_three (by omega) three (by omega) bytes
  · simp only [if_neg one, if_neg two, if_neg three]
    exact decodeFrom_four (by omega) (by omega) bytes

/-- **A text is read back from its bytes.** -/
theorem decode_encode (t : Text) : decode (encode t) = t := by
  unfold decode encode
  induction t with
  | nil => rfl
  | cons c t ih => rw [List.flatMap_cons, decodeFrom_encodeChar, ih]

end CompilerFeedback.Text.Utf8
