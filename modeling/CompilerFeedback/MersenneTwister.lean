/-
# CompilerFeedback.MersenneTwister -- pseudo-random numbers

The generator MT19937: 624 words of state, renewed all at once by a linear
recurrence and handed out one by one after tempering.  A seed of any size is
mixed into the state word by word.

* `Generator.below` draws a number below a bound: as many bits as the bound has
  are drawn until they make a number below it (`below_lt`).
* `Generator.fraction` draws the numerator of a fraction over `denominator`.
-/
namespace CompilerFeedback.MersenneTwister

set_option autoImplicit false

/-- The number of words in the state. -/
def size : Nat := 624

/-- The state: the words, and how many of them were handed out. -/
structure Generator where
  words : Array UInt32
  used : Nat
  deriving Repr

/-! ## Seeding -/

/-- The word at an index. -/
def word (words : Array UInt32) (i : Nat) : UInt32 := words.getD i 0

/-- A word mixed with itself. -/
def fold30 (x : UInt32) : UInt32 := x ^^^ (x >>> 30)

/-- The state that a single word is spread to: `count` words more behind the last one. -/
def spread (words : Array UInt32) : Nat → Array UInt32
  | 0 => words
  | count + 1 =>
      let i := words.size
      spread (words.push (1812433253 * fold30 (word words (i - 1)) + UInt32.ofNat i)) count

/-- The index after `i`.  Index zero is passed over: the last word is copied there. -/
def advance (words : Array UInt32) (i : Nat) : Array UInt32 × Nat :=
  if i + 1 < size then (words, i + 1) else (words.setIfInBounds 0 (word words (size - 1)), 1)

/-- Mixes the words of a key into the state, `count` times, starting again when the key
is used up. -/
def mixKey (key : Array UInt32) (words : Array UInt32) (i j : Nat) : Nat → Array UInt32 × Nat
  | 0 => (words, i)
  | count + 1 =>
      let mixed := (word words i ^^^ (fold30 (word words (i - 1)) * 1664525)) + word key j +
        UInt32.ofNat j
      let next := advance (words.setIfInBounds i mixed) i
      mixKey key next.1 next.2 (if j + 1 < key.size then j + 1 else 0) count

/-- Mixes the indices into the state, `count` times. -/
def mixIndex (words : Array UInt32) (i : Nat) : Nat → Array UInt32
  | 0 => words
  | count + 1 =>
      let mixed := (word words i ^^^ (fold30 (word words (i - 1)) * 1566083941)) - UInt32.ofNat i
      let next := advance (words.setIfInBounds i mixed) i
      mixIndex next.1 next.2 count

/-- The words of a number, the lowest first; at least one. -/
def keyOf (n : Nat) : List UInt32 :=
  if n < 4294967296 then [UInt32.ofNat n] else UInt32.ofNat n :: keyOf (n / 4294967296)
termination_by n

/-- The generator of a seed; its sign does not count. -/
def Generator.ofSeed (seed : Int) : Generator :=
  let key := (keyOf seed.natAbs).toArray
  let start := spread #[19650218] (size - 1)
  let mixed := mixKey key start 1 0 (max size key.size)
  ⟨(mixIndex mixed.1 mixed.2 (size - 1)).setIfInBounds 0 0x80000000, size⟩

/-! ## Drawing -/

/-- Renews `count` words of the state, from index `i` on. -/
def renew (words : Array UInt32) (i : Nat) : Nat → Array UInt32
  | 0 => words
  | count + 1 =>
      let joined := (word words i &&& 0x80000000) ||| (word words ((i + 1) % size) &&& 0x7fffffff)
      let renewed := word words ((i + 397) % size) ^^^ (joined >>> 1) ^^^
        (if joined &&& 1 = 1 then 0x9908b0df else 0)
      renew (words.setIfInBounds i renewed) (i + 1) count

/-- Spreads the information of a word over its bits. -/
def temper (x : UInt32) : UInt32 :=
  let x := x ^^^ (x >>> 11)
  let x := x ^^^ ((x <<< 7) &&& 0x9d2c5680)
  let x := x ^^^ ((x <<< 15) &&& 0xefc60000)
  x ^^^ (x >>> 18)

namespace Generator

/-- The next word, and the generator after it. -/
def next (g : Generator) : UInt32 × Generator :=
  if g.used < size then (temper (word g.words g.used), ⟨g.words, g.used + 1⟩)
  else
    let words := renew g.words 0 size
    (temper (word words 0), ⟨words, 1⟩)

/-- A number of `count` bits, at most 32: the upper bits of the next word. -/
def bits (g : Generator) (count : Nat) : Nat × Generator :=
  (g.next.1.toNat >>> (32 - count), g.next.2)

/-- Draws numbers of `count` bits until one lies below the bound, at most so often; then
zero is taken. -/
def belowWithin (bound count : Nat) : Nat → Generator → Nat × Generator
  | 0, g => (0, g)
  | tries + 1, g =>
      if (g.bits count).1 < bound then g.bits count
      else belowWithin bound count tries (g.bits count).2

/-- How often a number is drawn at most: each draw fails with a chance below one half. -/
def mostTries : Nat := 4096

/-- A number below a bound. -/
def below (g : Generator) (bound : Nat) : Nat × Generator :=
  belowWithin bound (bound.log2 + 1) mostTries g

/-- The number of fractions that can be drawn, 2^53. -/
def denominator : Nat := 9007199254740992

/-- The numerator of a fraction over `denominator`: 27 and 26 upper bits of two words. -/
def fraction (g : Generator) : Nat × Generator :=
  let upper := g.next
  let lower := upper.2.next
  ((upper.1.toNat >>> 5) * 67108864 + (lower.1.toNat >>> 6), lower.2)

theorem belowWithin_lt {bound : Nat} (positive : 0 < bound) (count tries : Nat) (g : Generator) :
    (belowWithin bound count tries g).1 < bound := by
  induction tries generalizing g with
  | zero => exact positive
  | succ tries ih =>
      simp only [belowWithin]
      split
      · assumption
      · exact ih _

/-- What is drawn lies below the bound. -/
theorem below_lt {bound : Nat} (positive : 0 < bound) (g : Generator) :
    (g.below bound).1 < bound := belowWithin_lt positive _ _ g

/-- What is drawn is a proper fraction. -/
theorem fraction_lt (g : Generator) : g.fraction.1 < denominator := by
  have upper := g.next.1.toNat_lt
  have lower := g.next.2.next.1.toNat_lt
  simp only [fraction, denominator]
  omega

end Generator

end CompilerFeedback.MersenneTwister
