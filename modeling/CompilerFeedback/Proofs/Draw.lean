/-
# CompilerFeedback.Proofs.Draw -- the values of a program, from those of its parts

One inversion for every way in which a program is built: what it yields is what its
parts yield, put together.  They are stated on the notation in which programs are
written, so a program is taken apart by rewriting with them.

`Sound` says that no draw of a program is from an empty range; it follows the parts
in the same way, where a later part has to be sound only for values that the
earlier one yields.
-/
import CompilerFeedback.Draw
import Mathlib.Data.List.Basic

namespace CompilerFeedback.Draw

set_option autoImplicit false

open MersenneTwister.Generator (denominator)

variable {α β : Type}

/-! ## What a program yields -/

@[simp] theorem yields_pure_iff {a b : α} : Yields (pure a : Draw α) b ↔ b = a := by
  constructor
  · rintro ⟨⟩
    rfl
  · rintro rfl
    exact .done b

@[simp] theorem yields_number_iff {bound : Nat} {next : Nat → Draw α} {a : α} :
    Yields (.number bound next) a ↔ ∃ i, i < bound ∧ Yields (next i) a := by
  constructor
  · rintro ⟨⟩
    exact ⟨_, ‹_›, ‹_›⟩
  · rintro ⟨i, inRange, rest⟩
    exact .number i inRange rest

@[simp] theorem yields_fraction_iff {next : Nat → Draw α} {a : α} :
    Yields (.fraction next) a ↔ ∃ i, i < denominator ∧ Yields (next i) a := by
  constructor
  · rintro ⟨⟩
    exact ⟨_, ‹_›, ‹_›⟩
  · rintro ⟨i, inRange, rest⟩
    exact .fraction i inRange rest

/-- One program after the other yields what the second makes of a value of the first. -/
@[simp] theorem yields_bind_iff {program : Draw α} {f : α → Draw β} {b : β} :
    Yields (program >>= f) b ↔ ∃ a, Yields program a ∧ Yields (f a) b := by
  change Yields (program.bind f) b ↔ _
  induction program with
  | done a =>
      constructor
      · exact fun rest => ⟨a, .done a, rest⟩
      · rintro ⟨a, ⟨⟩, rest⟩
        exact rest
  | number bound next ih =>
      simp only [bind, yields_number_iff, ih]
      constructor
      · rintro ⟨i, inRange, a, first, rest⟩
        exact ⟨a, ⟨i, inRange, first⟩, rest⟩
      · rintro ⟨a, ⟨i, inRange, first⟩, rest⟩
        exact ⟨i, inRange, a, first, rest⟩
  | fraction next ih =>
      simp only [bind, yields_fraction_iff, ih]
      constructor
      · rintro ⟨i, inRange, a, first, rest⟩
        exact ⟨a, ⟨i, inRange, first⟩, rest⟩
      · rintro ⟨a, ⟨i, inRange, first⟩, rest⟩
        exact ⟨i, inRange, a, first, rest⟩

@[simp] theorem yields_between_iff {least most n : Nat} :
    Yields (between least most) n ↔ least ≤ n ∧ n ≤ most := by
  rw [between, yields_number_iff]
  constructor
  · rintro ⟨i, inRange, ⟨⟩⟩
    omega
  · rintro ⟨lower, upper⟩
    refine ⟨n - least, by omega, ?_⟩
    rw [Nat.add_sub_cancel' lower]
    exact .done n

@[simp] theorem yields_choose_iff {other a : α} {values : List α} :
    Yields (choose other values) a ↔ a ∈ values := by
  rw [choose, yields_number_iff, List.mem_iff_getElem]
  constructor
  · rintro ⟨i, inRange, ⟨⟩⟩
    exact ⟨i, inRange, by simp [inRange]⟩
  · rintro ⟨i, inRange, rfl⟩
    refine ⟨i, inRange, ?_⟩
    rw [List.getD_eq_getElem?_getD, List.getElem?_eq_getElem inRange]
    exact .done _

/-- Both outcomes are possible, unless the fraction is zero or one. -/
@[simp] theorem yields_chance_iff {numerator : Nat} {b : Bool} :
    Yields (chance numerator) b ↔ if b then 0 < numerator else numerator < denominator := by
  rw [chance, yields_fraction_iff]
  constructor
  · rintro ⟨i, inRange, ⟨⟩⟩
    by_cases below : i < numerator
    · simp only [below, decide_true, if_true]
      omega
    · simp only [below, decide_false, Bool.false_eq_true, if_false]
      omega
  · intro possible
    cases b with
    | true => exact ⟨0, by decide, (decide_eq_true possible).symm ▸ .done true⟩
    | false =>
        have excluded : decide (numerator < numerator) = false := by simp
        exact ⟨numerator, possible, excluded.symm ▸ .done false⟩

/-- The same program several times yields so many values, each one of its own. -/
@[simp] theorem yields_replicate_iff {program : Draw α} {count : Nat} {values : List α} :
    Yields (program.replicate count) values ↔
      values.length = count ∧ ∀ a ∈ values, Yields program a := by
  induction count generalizing values with
  | zero =>
      rw [replicate, List.length_eq_zero_iff]
      constructor
      · rintro ⟨⟩
        exact ⟨rfl, by simp⟩
      · rintro ⟨rfl, -⟩
        exact .done []
  | succ count ih =>
      simp only [replicate, yields_bind_iff, yields_pure_iff, ih]
      constructor
      · rintro ⟨a, first, rest, ⟨length, each⟩, rfl⟩
        exact ⟨by rw [List.length_cons, length], List.forall_mem_cons.mpr ⟨first, each⟩⟩
      · rintro ⟨length, each⟩
        cases values with
        | nil => cases length
        | cons a rest =>
            obtain ⟨first, each⟩ := List.forall_mem_cons.mp each
            exact ⟨a, first, rest, ⟨Nat.succ.inj length, each⟩, rfl⟩

/-! ## Every draw has something to draw -/

@[simp] theorem sound_pure (a : α) : Sound (pure a : Draw α) := .done a

@[simp] theorem sound_number_iff {bound : Nat} {next : Nat → Draw α} :
    Sound (.number bound next) ↔ 0 < bound ∧ ∀ i, i < bound → Sound (next i) := by
  constructor
  · rintro ⟨⟩
    exact ⟨‹_›, ‹_›⟩
  · rintro ⟨positive, rest⟩
    exact .number positive rest

@[simp] theorem sound_fraction_iff {next : Nat → Draw α} :
    Sound (.fraction next) ↔ ∀ i, i < denominator → Sound (next i) := by
  constructor
  · rintro ⟨⟩
    assumption
  · exact .fraction

/-- The second program is asked only for what the first one yields. -/
@[simp] theorem sound_bind_iff {program : Draw α} {f : α → Draw β} :
    Sound (program >>= f) ↔ Sound program ∧ ∀ a, Yields program a → Sound (f a) := by
  change Sound (program.bind f) ↔ _
  induction program with
  | done a =>
      constructor
      · rintro rest
        refine ⟨.done a, ?_⟩
        rintro b ⟨⟩
        exact rest
      · exact fun sound => sound.2 a (.done a)
  | number bound next ih =>
      simp only [bind, sound_number_iff, yields_number_iff, ih]
      constructor
      · rintro ⟨positive, each⟩
        refine ⟨⟨positive, fun i inRange => (each i inRange).1⟩, ?_⟩
        rintro a ⟨i, inRange, yielded⟩
        exact (each i inRange).2 a yielded
      · rintro ⟨⟨positive, each⟩, rest⟩
        exact ⟨positive, fun i inRange => ⟨each i inRange, fun a yielded =>
          rest a ⟨i, inRange, yielded⟩⟩⟩
  | fraction next ih =>
      simp only [bind, sound_fraction_iff, yields_fraction_iff, ih]
      constructor
      · intro each
        refine ⟨fun i inRange => (each i inRange).1, ?_⟩
        rintro a ⟨i, inRange, yielded⟩
        exact (each i inRange).2 a yielded
      · rintro ⟨each, rest⟩ i inRange
        exact ⟨each i inRange, fun a yielded => rest a ⟨i, inRange, yielded⟩⟩

@[simp] theorem sound_between_iff {least most : Nat} :
    Sound (between least most) ↔ least ≤ most := by
  rw [between, sound_number_iff]
  constructor
  · intro sound
    have positive := sound.1
    omega
  · intro ordered
    exact ⟨by omega, fun i _ => .done (least + i)⟩

@[simp] theorem sound_choose_iff {other : α} {values : List α} :
    Sound (choose other values) ↔ values ≠ [] := by
  rw [choose, sound_number_iff, List.length_pos_iff]
  exact and_iff_left fun _ _ => .done _

@[simp] theorem sound_chance (numerator : Nat) : Sound (chance numerator) :=
  .fraction fun _ _ => .done _

@[simp] theorem sound_replicate {program : Draw α} (sound : Sound program) (count : Nat) :
    Sound (program.replicate count) := by
  induction count with
  | zero => exact .done []
  | succ count ih => simp [replicate, sound, ih]

end CompilerFeedback.Draw
