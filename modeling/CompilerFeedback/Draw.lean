/-
# CompilerFeedback.Draw -- programs that draw random numbers

A program is a value, or a draw and what is done with the number drawn.  It can be
run with a generator; what it can yield at all, with any numbers in range, does
not depend on one.

* `Draw.Yields` is the relation between a program and its possible values.
* `yields_run`: what a run gives is a possible value.
-/
import CompilerFeedback.MersenneTwister

namespace CompilerFeedback

set_option autoImplicit false

open MersenneTwister (Generator)
open MersenneTwister.Generator (denominator)

/-- A program that draws numbers. -/
inductive Draw (α : Type) : Type where
  | done (value : α)
  /-- A number below a bound. -/
  | number (bound : Nat) (next : Nat → Draw α)
  /-- The numerator of a fraction over `denominator`. -/
  | fraction (next : Nat → Draw α)

namespace Draw

variable {α β : Type}

/-- One program after the other. -/
def bind : Draw α → (α → Draw β) → Draw β
  | .done value, f => f value
  | .number bound next, f => .number bound fun i => (next i).bind f
  | .fraction next, f => .fraction fun i => (next i).bind f

instance : Monad Draw where
  pure := .done
  bind := bind

/-- The value that a generator makes of a program, and the generator after it. -/
def run : Draw α → Generator → α × Generator
  | .done value, g => (value, g)
  | .number bound next, g => (next (g.below bound).1).run (g.below bound).2
  | .fraction next, g => (next g.fraction.1).run g.fraction.2

/-- The values that numbers in range can make of a program. -/
inductive Yields : Draw α → α → Prop where
  | done (value : α) : Yields (.done value) value
  | number {bound : Nat} {next : Nat → Draw α} {value : α} (i : Nat) (inRange : i < bound)
      (rest : Yields (next i) value) : Yields (.number bound next) value
  | fraction {next : Nat → Draw α} {value : α} (i : Nat) (inRange : i < denominator)
      (rest : Yields (next i) value) : Yields (.fraction next) value

/-- Whether every draw below a bound has a number to draw, whatever was drawn before. -/
inductive Sound : Draw α → Prop where
  | done (value : α) : Sound (.done value)
  | number {bound : Nat} {next : Nat → Draw α} (positive : 0 < bound)
      (rest : ∀ i, i < bound → Sound (next i)) : Sound (.number bound next)
  | fraction {next : Nat → Draw α} (rest : ∀ i, i < denominator → Sound (next i)) :
      Sound (.fraction next)

/-- A run gives a possible value. -/
theorem yields_run {program : Draw α} (sound : Sound program) (g : Generator) :
    Yields program (program.run g).1 := by
  induction sound generalizing g with
  | done value => exact .done value
  | number positive rest ih =>
      exact .number _ (Generator.below_lt positive g) (ih _ (Generator.below_lt positive g) _)
  | fraction rest ih => exact .fraction _ g.fraction_lt (ih _ g.fraction_lt _)

/-! ## Common draws -/

/-- A number from `least` to `most`. -/
def between (least most : Nat) : Draw Nat :=
  .number (most + 1 - least) fun i => .done (least + i)

/-- One of some values, `other` standing in where there is none. -/
def choose (other : α) (values : List α) : Draw α :=
  .number values.length fun i => .done (values.getD i other)

/-- Whether a fraction over `denominator` lies below the given one. -/
def chance (numerator : Nat) : Draw Bool := .fraction fun i => .done (decide (i < numerator))

/-- The same program several times. -/
def replicate (program : Draw α) : Nat → Draw (List α)
  | 0 => .done []
  | count + 1 => do
      let value ← program
      let values ← replicate program count
      return value :: values

end Draw

end CompilerFeedback
