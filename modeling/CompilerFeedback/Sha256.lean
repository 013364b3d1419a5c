/-
# CompilerFeedback.Sha256 -- the SHA-256 digest

The message is padded to whole blocks of sixteen words: one bit, zeros, and the
length in bits as the last two words.  The blocks are absorbed one after the
other into a state of eight words, each in sixty-four rounds.  A round uses one
word of the message schedule, which continues the block by a recurrence on its
last sixteen words.

The digest is written with 64 digits of base sixteen (`length_hexDigest`).
-/
import CompilerFeedback.Text.Hex
import CompilerFeedback.Text.Utf8

namespace CompilerFeedback.Sha256

set_option autoImplicit false

/-- The eight words of the state. -/
structure State where
  a : UInt32
  b : UInt32
  c : UInt32
  d : UInt32
  e : UInt32
  f : UInt32
  g : UInt32
  h : UInt32
  deriving DecidableEq, Repr

/-- The state before the first block. -/
def State.initial : State :=
  ⟨0x6a09e667, 0xbb67ae85, 0x3c6ef372, 0xa54ff53a, 0x510e527f, 0x9b05688c, 0x1f83d9ab, 0x5be0cd19⟩

/-- The constants of the sixty-four rounds. -/
def roundConstants : List UInt32 :=
  [0x428a2f98, 0x71374491, 0xb5c0fbcf, 0xe9b5dba5, 0x3956c25b, 0x59f111f1, 0x923f82a4, 0xab1c5ed5,
    0xd807aa98, 0x12835b01, 0x243185be, 0x550c7dc3, 0x72be5d74, 0x80deb1fe, 0x9bdc06a7, 0xc19bf174,
    0xe49b69c1, 0xefbe4786, 0x0fc19dc6, 0x240ca1cc, 0x2de92c6f, 0x4a7484aa, 0x5cb0a9dc, 0x76f988da,
    0x983e5152, 0xa831c66d, 0xb00327c8, 0xbf597fc7, 0xc6e00bf3, 0xd5a79147, 0x06ca6351, 0x14292967,
    0x27b70a85, 0x2e1b2138, 0x4d2c6dfc, 0x53380d13, 0x650a7354, 0x766a0abb, 0x81c2c92e, 0x92722c85,
    0xa2bfe8a1, 0xa81a664b, 0xc24b8b70, 0xc76c51a3, 0xd192e819, 0xd6990624, 0xf40e3585, 0x106aa070,
    0x19a4c116, 0x1e376c08, 0x2748774c, 0x34b0bcb5, 0x391c0cb3, 0x4ed8aa4a, 0x5b9cca4f, 0x682e6ff3,
    0x748f82ee, 0x78a5636f, 0x84c87814, 0x8cc70208, 0x90befffa, 0xa4506ceb, 0xbef9a3f7, 0xc67178f2]

/-! ## Rounds -/

/-- Rotation to the right. -/
def rotate (x by_ : UInt32) : UInt32 := (x >>> by_) ||| (x <<< (32 - by_))

/-- The next word of the schedule, from the sixteen before it. -/
def nextWord (window : List UInt32) : UInt32 :=
  let early := window.getD 1 0
  let late := window.getD 14 0
  window.getD 0 0 + (rotate early 7 ^^^ rotate early 18 ^^^ (early >>> 3)) +
    window.getD 9 0 + (rotate late 17 ^^^ rotate late 19 ^^^ (late >>> 10))

/-- One round with a constant and a word of the schedule. -/
def round (s : State) (constant word : UInt32) : State :=
  let choice := (s.e &&& s.f) ^^^ (~~~s.e &&& s.g)
  let majority := (s.a &&& s.b) ^^^ (s.a &&& s.c) ^^^ (s.b &&& s.c)
  let first := s.h + (rotate s.e 6 ^^^ rotate s.e 11 ^^^ rotate s.e 25) + choice + constant + word
  let second := (rotate s.a 2 ^^^ rotate s.a 13 ^^^ rotate s.a 22) + majority
  ⟨first + second, s.a, s.b, s.c, s.d + first, s.e, s.f, s.g⟩

/-- The rounds with the given constants; the window starts at the word of the first. -/
def rounds : List UInt32 → List UInt32 → State → State
  | [], _, s => s
  | constant :: constants, window, s =>
      rounds constants (window.drop 1 ++ [nextWord window]) (round s constant (window.getD 0 0))

/-- The state after a block of sixteen words. -/
def compress (s : State) (block : List UInt32) : State :=
  let t := rounds roundConstants block s
  ⟨s.a + t.a, s.b + t.b, s.c + t.c, s.d + t.d, s.e + t.e, s.f + t.f, s.g + t.g, s.h + t.h⟩

/-! ## Messages -/

/-- The words of a message, four bytes each, the upper byte first. -/
def words : Bytes → List UInt32
  | a :: b :: c :: d :: rest =>
      ((a.toUInt32 <<< 24) ||| (b.toUInt32 <<< 16) ||| (c.toUInt32 <<< 8) ||| d.toUInt32) :: words rest
  | _ => []

/-- The bytes that are put behind a message of `size` bytes. -/
def padding (size : Nat) : Bytes :=
  (0x80 : UInt8) :: List.replicate ((119 - size % 64) % 64) 0 ++
    (List.range 8).reverse.map fun i => UInt8.ofNat ((8 * size) >>> (8 * i))

/-- The state after all whole blocks of a list of words. -/
def absorb (s : State) (message : List UInt32) : State :=
  if message.length < 16 then s else absorb (compress s (message.take 16)) (message.drop 16)
termination_by message.length

/-- The digest of a message as eight words. -/
def digest (message : Bytes) : State := absorb .initial (words (message ++ padding message.length))

/-- The eight words in base sixteen, eight digits each. -/
def State.hex (s : State) : Text :=
  [s.a, s.b, s.c, s.d, s.e, s.f, s.g, s.h].flatMap fun word => Text.hex 8 word.toNat

/-- The digest of a text's bytes in base sixteen. -/
def hexDigest (t : Text) : Text := (digest (Text.Utf8.encode t)).hex

theorem State.length_hex (s : State) : s.hex.length = 64 := by simp [State.hex]

/-- A digest is written with 64 digits. -/
theorem length_hexDigest (t : Text) : (hexDigest t).length = 64 := State.length_hex _

end CompilerFeedback.Sha256
