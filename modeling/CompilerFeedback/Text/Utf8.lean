/-
# CompilerFeedback.Text.Utf8 -- text as bytes

Encoding gives every character its one to four bytes.  Decoding takes any bytes:
each longest run that begins a character but cannot be completed, and each byte
that can begin none, is read as one replacement character.  A byte order mark is
a character like any other.

The decoder is a machine that takes one byte at a time.  Inside a character it
knows how many bytes follow the next one and which range the next one must lie
in; the range is narrower behind a few first bytes, which rules out long forms,
surrogates and numbers above the last character.
-/
import CompilerFeedback.Text.Basic

namespace CompilerFeedback

set_option autoImplicit false

/-- The content of a file. -/
abbrev Bytes := List UInt8

namespace Text.Utf8

/-! ## Encoding -/

/-- A byte that is not the first one of its character. -/
def trail (n : Nat) : UInt8 := UInt8.ofNat (0x80 + n % 64)

/-- The bytes of a character. -/
def encodeChar (c : Char) : Bytes :=
  let n := c.toNat
  if n < 0x80 then [UInt8.ofNat n]
  else if n < 0x800 then [UInt8.ofNat (0xC0 + n / 64), trail n]
  else if n < 0x10000 then [UInt8.ofNat (0xE0 + n / 64 / 64), trail (n / 64), trail n]
  else [UInt8.ofNat (0xF0 + n / 64 / 64 / 64), trail (n / 64 / 64), trail (n / 64), trail n]

/-- The bytes of a text. -/
def encode (t : Text) : Bytes := t.flatMap encodeChar

/-! ## Decoding -/

/-- The character that stands for bytes that are no text. -/
def replacement : Char := '\uFFFD'

/-- Where the decoder stands. -/
inductive State where
  /-- Between two characters. -/
  | start
  /-- Inside a character: the next byte lies between `least` and `most`, `more` bytes
  come after it, and the bytes so far make up `value`. -/
  | inside (more least most value : Nat)
  deriving DecidableEq, Repr

/-- A byte between two characters: what it completes, and the state after it. -/
def first (b : Nat) : Text × State :=
  if b < 0x80 then ([Char.ofNat b], .start)
  else if b < 0xC2 then ([replacement], .start)
  else if b < 0xE0 then ([], .inside 0 0x80 0xBF (b - 0xC0))
  else if b = 0xE0 then ([], .inside 1 0xA0 0xBF (b - 0xE0))
  else if b = 0xED then ([], .inside 1 0x80 0x9F (b - 0xE0))
  else if b < 0xF0 then ([], .inside 1 0x80 0xBF (b - 0xE0))
  else if b = 0xF0 then ([], .inside 2 0x90 0xBF (b - 0xF0))
  else if b < 0xF4 then ([], .inside 2 0x80 0xBF (b - 0xF0))
  else if b = 0xF4 then ([], .inside 2 0x80 0x8F (b - 0xF0))
  else ([replacement], .start)

/-- One byte: what it completes, and the state after it. -/
def step : State → Nat → Text × State
  | .start, b => first b
  | .inside more least most value, b =>
      if least ≤ b ∧ b ≤ most then
        match more with
        | 0 => ([Char.ofNat (value * 64 + (b - 0x80))], .start)
        | more + 1 => ([], .inside more 0x80 0xBF (value * 64 + (b - 0x80)))
      else (replacement :: (first b).1, (first b).2)

/-- The text of the bytes that come after a state. -/
def decodeFrom : State → Bytes → Text
  | .start, [] => []
  | .inside .., [] => [replacement]
  | state, b :: bytes => (step state b.toNat).1 ++ decodeFrom (step state b.toNat).2 bytes

/-- The text of some bytes. -/
def decode (bytes : Bytes) : Text := decodeFrom .start bytes

end Text.Utf8

end CompilerFeedback
