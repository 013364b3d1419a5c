/-
# CompilerFeedback.Proofs.Feedback -- the entries of a text, block by block

The entries of a text follow its blocks: one for each block that does not report
success, in their order (`forall₂_entries`).  Blocks are disjoint stretches of the
lines of the text, so what one entry holds no other one does.

* `entries_join`: the entries of a text that is put together from messages.
* `entries_keep_blocks`: every diagnostic is accounted for, and its message is the
  text of its own block.
* `entries_append_feed`: a text that is cut where a message opens is read in parts.
-/
import CompilerFeedback.Feedback
import CompilerFeedback.Proofs.Entry
import Mathlib.Data.List.Forall2

namespace CompilerFeedback.Feedback

set_option autoImplicit false

/-! ## Blocks of a text -/

/-- The blocks of a text, each up to its first noise line. -/
def cleaned (text : Text) : List Block := (blocks text).map Block.clean

theorem entries_eq_filterMap (base text : Text) :
    entries base text = (cleaned text).filterMap (Entry.ofBlock? base) := by
  rw [entries, cleaned, List.filterMap_map]
  rfl

theorem flatten_blocks (text : Text) : (blocks text).flatten = Text.lines text :=
  Block.flatten_split (Text.lines text)

/-- Diagnostics are read off the lines. -/
theorem groups_eq_of_lines (base : Text) {a b : Text} (same : Text.lines a = Text.lines b) :
    groups base a = groups base b := by
  unfold groups entries blocks
  rw [same]

/-- The entries of a text that is put together from messages: one line after the other,
with line breaks of any kind between them and at the end. -/
theorem entries_join (base : Text) {messages : List Block}
    (separable : ∀ block ∈ messages, Block.Separable block) {newline ending : Text}
    (breaks : Text.AllBreaks newline) (feed : '\n' ∈ newline) (ended : Text.AllBreaks ending) :
    entries base (Text.join newline messages.flatten ++ ending) =
      messages.filterMap fun block => Entry.ofBlock? base (Block.clean block) := by
  have each : ∀ line ∈ messages.flatten, Text.Unbroken line ∧ line ≠ [] := by
    intro line member
    obtain ⟨block, inMessages, inBlock⟩ := List.mem_flatten.mp member
    exact (separable block inMessages).lines line inBlock
  have whole : Text.lines (Text.join newline messages.flatten ++ ending) = messages.flatten :=
    Text.lines_join breaks feed ended (fun line member => (each line member).1)
      fun line member => (each line member).2
  rw [entries, blocks, whole, Block.split_flatten fun block member => (separable block member).message]

theorem mem_lines_of_mem_blocks {text : Text} {block : Block} (member : block ∈ blocks text)
    {line : Line} (inBlock : line ∈ block) : line ∈ Text.lines text := by
  rw [← flatten_blocks]
  exact List.mem_flatten_of_mem member inBlock

theorem clean_of_mem_blocks {text : Text} {block : Block} (member : block ∈ blocks text) :
    Block.clean block ≠ [] ∧ ∀ line ∈ Block.clean block, line ≠ [] := by
  constructor
  · cases block with
    | nil => exact absurd rfl (Block.ne_nil_of_mem_split member)
    | cons opening body => simp [Block.clean]
  · intro line inClean
    have inBlock : line ∈ block := (Block.clean_prefix block).mem inClean
    exact Text.ne_nil_of_mem_lines (mem_lines_of_mem_blocks member inBlock)

/-! ## One entry for every block that does not report success -/

/-- What a partial function makes of the elements it does not drop. -/
theorem forall₂_filterMap {α β : Type} {f : α → Option β} {dropped : α → Bool} {l : List α}
    (drops : ∀ a ∈ l, f a = none ↔ dropped a) :
    List.Forall₂ (fun a b => a ∈ l ∧ f a = some b) (l.filter fun a => !dropped a) (l.filterMap f) := by
  induction l with
  | nil => exact .nil
  | cons a l ih =>
      have rest := (ih fun b member => drops b (List.mem_cons_of_mem a member)).imp
        fun b c made => And.intro (List.mem_cons_of_mem a made.1) made.2
      have first := drops a List.mem_cons_self
      cases made : f a with
      | none => simpa [made, first.mp made] using rest
      | some b =>
          have kept : dropped a = false := by
            rw [Bool.eq_false_iff]
            exact fun gone => absurd (first.mpr gone) (by simp [made])
          simpa [made, kept] using rest

theorem forall₂_made (base text : Text) :
    List.Forall₂ (fun block entry => block ∈ cleaned text ∧ Entry.ofBlock? base block = some entry)
      ((cleaned text).filter fun block => !Entry.isSuccess block) (entries base text) := by
  rw [entries_eq_filterMap]
  refine forall₂_filterMap fun block member => ?_
  obtain ⟨whole, inBlocks, rfl⟩ := List.mem_map.mp member
  exact Entry.ofBlock?_eq_none_iff base (clean_of_mem_blocks inBlocks).1

theorem forall₂_entries (base text : Text) :
    List.Forall₂ (Entry.Keeps base) ((cleaned text).filter fun block => !Entry.isSuccess block)
      (entries base text) := by
  refine (forall₂_made base text).imp fun block entry made => ?_
  obtain ⟨whole, inBlocks, rfl⟩ := List.mem_map.mp made.1
  exact Entry.keeps_of_ofBlock? (clean_of_mem_blocks inBlocks).2 made.2

/-- **Every diagnostic is accounted for.**  The blocks of a text are its lines, none twice
and none moved; the message of a block is a leading part of it.  The entries are those of
the blocks that do not report success, in order, and each keeps the text of its block. -/
theorem entries_keep_blocks (base text : Text) :
    (blocks text).flatten = Text.lines text ∧
      (∀ block ∈ blocks text, Block.clean block <+: block ∧ Block.clean block ≠ []) ∧
      List.Forall₂ (Entry.Keeps base) ((cleaned text).filter fun block => !Entry.isSuccess block)
        (entries base text) ∧
      (entries base text).length + ((cleaned text).filter Entry.isSuccess).length =
        (blocks text).length ∧
      (entries base text).length ≤ (Text.lines text).length := by
  have made := (forall₂_entries base text).length_eq
  have parted := List.length_eq_length_filter_add (l := cleaned text) Entry.isSuccess
  have whole : (cleaned text).length = (blocks text).length := List.length_map _
  have bound : (blocks text).length ≤ (Text.lines text).length := Block.length_split_le _
  refine ⟨flatten_blocks text, fun block member => ?_, forall₂_entries base text, ?_, ?_⟩
  · exact ⟨Block.clean_prefix block, (clean_of_mem_blocks member).1⟩
  · omega
  · omega

/-! ## Reading in parts -/

theorem blocks_append_feed (a : Text) {b : Text}
    (boundary : Text.lines a = [] ∨ Block.Opens (Text.lines b)) :
    blocks (a ++ '\n' :: b) = blocks a ++ blocks b := by
  rw [blocks, Text.lines_append]
  rcases boundary with empty | opens
  · rw [blocks, empty]
    rfl
  · exact Block.split_append (Text.lines a) opens

theorem entries_append_of_blocks (base : Text) {a b c : Text} (cut : blocks c = blocks a ++ blocks b) :
    entries base c = entries base a ++ entries base b := by
  rw [entries, cut, List.filterMap_append]
  rfl

/-- **Texts that meet where a message opens are read one after the other.** -/
theorem entries_append_feed (base a b : Text)
    (boundary : Text.lines a = [] ∨ Text.lines b = [] ∨
      ∃ line ∈ (Text.lines b).head?, Line.isContinuation line = false) :
    entries base (a ++ '\n' :: b) = entries base a ++ entries base b := by
  refine entries_append_of_blocks base (blocks_append_feed a (boundary.imp_right ?_))
  rintro (empty | ⟨line, first, opens⟩)
  · rw [empty]
    rfl
  · rw [Block.Opens, Option.mem_def.mp first]
    exact opens

/-- Two messages, the second after a blank line that ends in a carriage return. -/
theorem entries_append_feed_two :
    (∃ line ∈ (Text.lines "\r\nB.hs:2:1-4: late".toList).head?, Line.isContinuation line = false) ∧
      entries ['/'] ("A.hs:1:1: early\n  more".toList ++ '\n' :: "\r\nB.hs:2:1-4: late".toList) =
        entries ['/'] "A.hs:1:1: early\n  more".toList ++
          entries ['/'] "\r\nB.hs:2:1-4: late".toList :=
  have opens : ∃ line ∈ (Text.lines "\r\nB.hs:2:1-4: late".toList).head?,
      Line.isContinuation line = false := ⟨"B.hs:2:1-4: late".toList, by decide, by decide⟩
  ⟨opens, entries_append_feed _ _ _ (Or.inr (Or.inr opens))⟩

end CompilerFeedback.Feedback
