/-
# CompilerFeedback.Proofs.Block.Segmentation -- the one way to cut lines into blocks

A segmentation holds the lines in their order, in blocks of which none is empty.
Behind the first line of a block stand continuations only, and every block but the
first opens a message.  Nothing is said about how the cut is made.

* `segmentation_split`: the blocks of some lines are a segmentation of them.
* `Segmentation.eq_split`: there is no other.
* `Segmentation.append`: continuations at the end go to the last block.
* `Segmentation.openings`: opening lines alone are cut into blocks of one line.
-/
import CompilerFeedback.Proofs.Block

namespace CompilerFeedback.Block

set_option autoImplicit false

/-- Whether `blocks` is a lawful cut of `lines`. -/
structure Segmentation (lines : List Line) (blocks : List Block) : Prop where
  whole : blocks.flatten = lines
  held : ∀ block ∈ blocks, block ≠ []
  follows : ∀ block ∈ blocks, ∀ line ∈ block.tail, line.isContinuation
  opens : ∀ block ∈ blocks.tail, block.head?.any Line.isContinuation = false

/-! ## Cutting is lawful -/

/-- One line more in front keeps a cut lawful. -/
theorem Segmentation.attach {lines : List Line} {blocks : List Block}
    (cut : Segmentation lines blocks) (line : Line) :
    Segmentation (line :: lines) (attach line blocks) := by
  have whole := flatten_attach line blocks
  rw [cut.whole] at whole
  cases blocks with
  | nil => exact ⟨whole, by simp [Block.attach], by simp [Block.attach], by simp [Block.attach]⟩
  | cons block later =>
      have held := cut.held
      have follows := cut.follows
      rw [List.forall_mem_cons] at held follows
      have attached : Block.attach line (block :: later) =
          if block.head?.any Line.isContinuation then (line :: block) :: later
          else [line] :: block :: later := rfl
      by_cases continues : block.head?.any Line.isContinuation
      · rw [if_pos continues] at attached
        rw [attached] at whole ⊢
        refine ⟨whole, ?_, ?_, cut.opens⟩
        · exact List.forall_mem_cons.mpr ⟨by simp, held.2⟩
        · refine List.forall_mem_cons.mpr ⟨?_, follows.2⟩
          cases block with
          | nil => exact absurd rfl held.1
          | cons opening body => exact List.forall_mem_cons.mpr ⟨continues, follows.1⟩
      · rw [if_neg continues] at attached
        rw [attached] at whole ⊢
        refine ⟨whole, ?_, ?_, ?_⟩
        · exact List.forall_mem_cons.mpr ⟨by simp, cut.held⟩
        · exact List.forall_mem_cons.mpr ⟨by simp, cut.follows⟩
        · exact List.forall_mem_cons.mpr ⟨Bool.eq_false_iff.mpr continues, cut.opens⟩

/-- The blocks of some lines are a lawful cut of them. -/
theorem segmentation_split (lines : List Line) : Segmentation lines (split lines) := by
  induction lines with
  | nil => exact ⟨rfl, by simp [split], by simp [split], by simp [split]⟩
  | cons line lines ih => exact ih.attach line

/-! ## No other cut is lawful -/

/-- What stands behind the first block of a lawful cut opens a message. -/
theorem Segmentation.opens_flatten {lines : List Line} {block : Block} {later : List Block}
    (cut : Segmentation lines (block :: later)) : Opens later.flatten := by
  cases later with
  | nil => rfl
  | cons next later =>
      have opens := cut.opens next List.mem_cons_self
      cases next with
      | nil => exact absurd rfl (cut.held [] (by simp))
      | cons opening body => simpa [Opens] using opens

/-- **A lawful cut is the one that is made.** -/
theorem Segmentation.eq_split {lines : List Line} {blocks : List Block}
    (cut : Segmentation lines blocks) : blocks = split lines := by
  induction blocks generalizing lines with
  | nil =>
      rw [← cut.whole]
      rfl
  | cons block later ih =>
      have rest : Segmentation later.flatten later := by
        refine ⟨rfl, ?_, ?_, ?_⟩
        · exact fun b member => cut.held b (List.mem_cons_of_mem block member)
        · exact fun b member => cut.follows b (List.mem_cons_of_mem block member)
        · exact fun b member => cut.opens b (List.mem_of_mem_tail member)
      have one : split block = [block] := by
        cases block with
        | nil => exact absurd rfl (cut.held [] List.mem_cons_self)
        | cons opening body => exact split_message (cut.follows _ List.mem_cons_self)
      rw [← cut.whole, List.flatten_cons, split_append block cut.opens_flatten, one, ← ih rest]
      rfl

/-! ## Lines at the end, and opening lines alone -/

/-- Continuations behind the last line belong to the last block. -/
theorem Segmentation.append {lines more : List Line} {earlier : List Block} {last : Block}
    (cut : Segmentation lines (earlier ++ [last])) (continues : ∀ line ∈ more, line.isContinuation) :
    Segmentation (lines ++ more) (earlier ++ [last ++ more]) := by
  have lastHeld : last ≠ [] := cut.held last (by simp)
  have head : (last ++ more).head? = last.head? := List.head?_append_of_ne_nil _ lastHeld
  refine ⟨?_, ?_, ?_, ?_⟩
  · rw [← cut.whole]
    simp
  · intro block member
    rcases List.mem_append.mp member with before | atEnd
    · exact cut.held block (List.mem_append_left _ before)
    · rw [List.mem_singleton.mp atEnd]
      exact List.append_ne_nil_of_left_ne_nil lastHeld more
  · intro block member
    rcases List.mem_append.mp member with before | atEnd
    · exact cut.follows block (List.mem_append_left _ before)
    · rw [List.mem_singleton.mp atEnd, List.tail_append_of_ne_nil lastHeld]
      intro line inside
      rcases List.mem_append.mp inside with inLast | inMore
      · exact cut.follows last (by simp) line inLast
      · exact continues line inMore
  · cases earlier with
    | nil => simp
    | cons first earlier =>
        intro block member
        rcases List.mem_append.mp member with before | atEnd
        · exact cut.opens block (List.mem_append_left _ before)
        · rw [List.mem_singleton.mp atEnd, head]
          exact cut.opens last (by simp)

/-- Opening lines with nothing between them are blocks of one line. -/
theorem Segmentation.openings {lines : List Line} {blocks : List Block}
    (cut : Segmentation lines blocks) :
    Segmentation (blocks.filterMap List.head?)
      ((blocks.filterMap List.head?).map fun opening => [opening]) := by
  have single : ∀ block ∈ (blocks.filterMap List.head?).map fun opening => [opening],
      ∃ opening, block = [opening] := by
    intro block member
    obtain ⟨opening, -, rfl⟩ := List.mem_map.mp member
    exact ⟨opening, rfl⟩
  refine ⟨?_, ?_, ?_, ?_⟩
  · rw [← List.flatMap_def]
    exact List.flatMap_singleton' _
  · intro block member
    obtain ⟨opening, rfl⟩ := single block member
    simp
  · intro block member
    obtain ⟨opening, rfl⟩ := single block member
    simp
  · cases blocks with
    | nil => simp
    | cons block later =>
        cases block with
        | nil => exact absurd rfl (cut.held [] List.mem_cons_self)
        | cons opening body =>
            intro block member
            simp only [List.filterMap_cons, List.head?_cons, List.map_cons, List.tail_cons,
              List.mem_map, List.mem_filterMap] at member
            obtain ⟨next, ⟨b, inLater, first⟩, rfl⟩ := member
            have opens := cut.opens b inLater
            rw [first] at opens
            exact opens

end CompilerFeedback.Block
