/-
# CompilerFeedback.Proofs.Span -- where the diagnostics of a text point

A run of digits may be of any length, but it is read as its number up to the largest
coordinate.  A number is counted from zero by taking one off it, and a zero stays.  So the
start and the last line of a span lie below the largest coordinate; only the end column,
which is counted from one, can reach it (`Header.bounded_span`).

What a form leaves out is taken from the start: without an end line the span ends in the
line where it starts, and a point is one character wide unless its column is zero
(`Header.fits_span`).  A block without a header points at the start of the base directory.

* `Feedback.entries_wellFormed`: what holds of every entry of every text.
-/
import CompilerFeedback.Proofs.Noise

namespace CompilerFeedback

set_option autoImplicit false

/-! ## The span of a header -/

/-- Spans whose coordinates are not negative and are counted up to the largest one. -/
structure Span.Bounded (s : Span) : Prop where
  startLine : 0 ≤ s.start.line ∧ s.start.line < Coordinates.largest
  startColumn : 0 ≤ s.start.column ∧ s.start.column < Coordinates.largest
  stopLine : 0 ≤ s.stop.line ∧ s.stop.line < Coordinates.largest
  /-- The end column is counted from one. -/
  stopColumn : 0 ≤ s.stop.column ∧ s.stop.column ≤ Coordinates.largest

theorem Span.bounded_top (file : Text) : (top file).Bounded := by
  have below : (0 : Int) ≤ 0 ∧ (0 : Int) < Coordinates.largest := by decide
  exact ⟨below, below, below, below.1, Int.le_of_lt below.2⟩

/-- What the form of some coordinates says about the span they denote. -/
def Coordinates.Fits (s : Span) : Coordinates → Prop
  | .point _ column =>
      s.start.line = s.stop.line ∧
        s.stop.column - s.start.column = if Text.toNat column = 0 then 0 else 1
  | .columns _ _ _ => s.start.line = s.stop.line
  | .region _ _ _ _ => True

namespace Coordinates

theorem number_le {digits : Text} (run : Text.IsDigits digits) : number digits ≤ largest := by
  rw [number_eq_min run.2]
  exact Nat.min_le_right _ _

theorem number_eq_zero_iff {digits : Text} (run : Text.IsDigits digits) :
    number digits = 0 ↔ Text.toNat digits = 0 := by
  have positive : largest ≠ 0 := by decide
  rw [number_eq_min run.2]
  omega

/-- A number that is counted from zero. -/
theorem fromZero_bounds {n : Nat} (bound : n ≤ largest) :
    0 ≤ max (n - 1 : Int) 0 ∧ max (n - 1 : Int) 0 < largest := by
  have positive : 0 < largest := by decide
  omega

end Coordinates

namespace Header

theorem bounded_span {h : Header} (written : h.coordinates.IsWritten) (file : Text) :
    (h.span file).Bounded := by
  obtain ⟨path, c⟩ := h
  have fromOne : ∀ {n : Nat}, n ≤ Coordinates.largest →
      0 ≤ (n : Int) ∧ (n : Int) ≤ Coordinates.largest := by omega
  cases c with
  | point line column =>
      have line_ := Coordinates.number_le written.1
      have column_ := Coordinates.number_le written.2
      exact ⟨Coordinates.fromZero_bounds line_, Coordinates.fromZero_bounds column_,
        Coordinates.fromZero_bounds line_, fromOne column_⟩
  | columns line column endColumn =>
      have line_ := Coordinates.number_le written.1
      exact ⟨Coordinates.fromZero_bounds line_,
        Coordinates.fromZero_bounds (Coordinates.number_le written.2.1),
        Coordinates.fromZero_bounds line_, fromOne (Coordinates.number_le written.2.2)⟩
  | region line column endLine endColumn =>
      exact ⟨Coordinates.fromZero_bounds (Coordinates.number_le written.1),
        Coordinates.fromZero_bounds (Coordinates.number_le written.2.1),
        Coordinates.fromZero_bounds (Coordinates.number_le written.2.2.1),
        fromOne (Coordinates.number_le written.2.2.2)⟩

theorem fits_span {h : Header} (written : h.coordinates.IsWritten) (file : Text) :
    h.coordinates.Fits (h.span file) := by
  obtain ⟨path, c⟩ := h
  cases c with
  | point line column =>
      refine ⟨rfl, ?_⟩
      have zero := Coordinates.number_eq_zero_iff written.2
      show (Coordinates.number column : Int) - max (Coordinates.number column - 1 : Int) 0 = _
      split
      · rename_i isZero
        rw [zero.mpr isZero]
        rfl
      · rename_i notZero
        have positive : Coordinates.number column ≠ 0 := fun none => notZero (zero.mp none)
        omega
  | columns line column endColumn => exact rfl
  | region line column endLine endColumn => exact trivial

end Header

/-! ## Every entry -/

namespace Entry

/-- What holds of the entry of a block, whatever the block says. -/
structure WellFormed (base : Text) (block : Block) (entry : Entry) : Prop where
  /-- The entry is the one the block gives. -/
  made : ofBlock? base block = some entry
  file : entry.diagnostic.span.file = entry.location
  bounded : entry.diagnostic.span.Bounded
  noReturn : '\r' ∉ entry.diagnostic.message
  place : ∃ opening, (Block.dedent block).head? = some opening ∧
    match Header.scan? opening with
    | some (header, _) => header.coordinates.Fits entry.diagnostic.span
    | none => entry.location = base ∧ entry.diagnostic.span = ⟨base, ⟨0, 0⟩, ⟨0, 0⟩⟩ ∧
        entry.diagnostic.severity = .error

variable {base : Text} {block : Block} {entry : Entry}

/-- Where an entry points, told from the opening line of its block. -/
theorem place_of_ofBlock? (made : ofBlock? base block = some entry) :
    ∃ opening, (Block.dedent block).head? = some opening ∧
      match Header.scan? opening with
      | some (header, _) => entry.diagnostic.span = header.span entry.location
      | none => entry.location = base ∧ entry.diagnostic.span = .top base ∧
          entry.diagnostic.severity = .error := by
  unfold ofBlock? at made
  split at made
  · cases made
  · rename_i opening body dedented
    refine ⟨opening, by rw [dedented]; rfl, ?_⟩
    cases reading : Opening.ofLine opening with
    | success => simp [reading] at made
    | located header rest =>
        simp only [reading, Option.some.injEq] at made
        rw [(Opening.ofLine_eq_located_iff.mp reading).2, ← made]
        rfl
    | unlocated =>
        simp only [reading, Option.some.injEq] at made
        rw [(Opening.ofLine_eq_unlocated_iff.mp reading).2, ← made]
        exact ⟨rfl, rfl, rfl⟩

theorem noReturn_of_ofBlock? (unbroken : ∀ line ∈ block, Text.Unbroken line)
    (held : ∀ line ∈ block, line ≠ []) (made : ofBlock? base block = some entry) :
    '\r' ∉ entry.diagnostic.message := by
  obtain ⟨lead, body, composed⟩ := composed_of_ofBlock? held made
  rw [composed.message]
  apply Text.not_mem_unlines (by decide)
  intro line member ret
  obtain ⟨source, inBlock, inSource⟩ := composed.exists_source line member _ ret
  exact (unbroken source inBlock).2 inSource

theorem wellFormed_of_ofBlock? (unbroken : ∀ line ∈ block, Text.Unbroken line)
    (held : ∀ line ∈ block, line ≠ []) (made : ofBlock? base block = some entry) :
    WellFormed base block entry := by
  have file := file_of_ofBlock? made
  have noReturn := noReturn_of_ofBlock? unbroken held made
  obtain ⟨opening, first, place⟩ := place_of_ofBlock? made
  cases scanned : Header.scan? opening with
  | some found =>
      obtain ⟨header, rest⟩ := found
      have written := Header.isWritten_of_scan? scanned
      simp only [scanned] at place
      refine ⟨made, file, ?_, noReturn, opening, first, ?_⟩
      · rw [place]
        exact header.bounded_span written entry.location
      · simp only [scanned, place]
        exact header.fits_span written entry.location
  | none =>
      simp only [scanned] at place
      refine ⟨made, file, ?_, noReturn, opening, first, ?_⟩
      · rw [place.2.1]
        exact Span.bounded_top base
      · rw [scanned]
        exact place

end Entry

namespace Feedback

/-- **Every entry is well formed**, for every text.  The entries are those of the blocks that
do not report success, in order; each is filed under the file it points at, its coordinates
lie in their bounds, and its message holds no carriage return. -/
theorem entries_wellFormed (base text : Text) :
    List.Forall₂ (Entry.WellFormed base) ((cleaned text).filter fun block => !Entry.isSuccess block)
      (entries base text) := by
  refine (forall₂_made base text).imp fun block entry made => ?_
  obtain ⟨whole, inBlocks, rfl⟩ := List.mem_map.mp made.1
  refine Entry.wellFormed_of_ofBlock? ?_ (clean_of_mem_blocks inBlocks).2 made.2
  intro line inClean
  have inBlock : line ∈ whole := (Block.clean_prefix whole).mem inClean
  exact Text.unbroken_of_mem_lines (mem_lines_of_mem_blocks inBlocks inBlock)

/-- Zeros, and runs of nineteen digits. -/
example : entries "/b".toList "a:0:0: x\na:(0,1)-(1000000000000000000,9999999999999999999):".toList =
    [⟨"/b/a".toList, ⟨⟨"/b/a".toList, ⟨0, 0⟩, ⟨0, 0⟩⟩, .error, ['x']⟩⟩,
      ⟨"/b/a".toList, ⟨⟨"/b/a".toList, ⟨0, 0⟩, ⟨999999999999999998, 999999999999999999⟩⟩, .error,
        []⟩⟩] := by decide

end Feedback

end CompilerFeedback
