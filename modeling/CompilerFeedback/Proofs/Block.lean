/-
# CompilerFeedback.Proofs.Block -- where lines are cut, and what dedenting takes off

The cut before every line that is no continuation is local: it does not depend on
the lines before it.  So a list of lines can be cut at any line that opens a
message and its two parts cut on their own (`split_append`), and lines that are
put together from messages come apart into these messages (`split_flatten`).  What a
message needs for that when it is written into a text is `Separable`.

Dedenting takes the same number of characters off every line, the indentation of
one of them (`exists_indent_eq_margin`), and all that it takes are blank
(`isBlank_of_mem_take_margin`).  A line at the left margin keeps all lines as
they are (`dedent_eq_self`).
-/
import CompilerFeedback.Block
import CompilerFeedback.Proofs.Line

namespace CompilerFeedback.Block

set_option autoImplicit false

/-! ## Cutting -/

/-- Whether some lines do not start in the middle of a message. -/
def Opens (lines : List Line) : Prop := lines.head?.any Line.isContinuation = false

instance (lines : List Line) : Decidable (Opens lines) := inferInstanceAs (Decidable (_ = _))

/-- Whether a block is a message: a line that opens one, then continuations. -/
def IsMessage : Block → Prop
  | [] => False
  | opening :: body => opening.isContinuation = false ∧ ∀ line ∈ body, line.isContinuation

theorem split_cons (line : Line) (lines : List Line) :
    split (line :: lines) = attach line (split lines) := rfl

/-- The first line of the first block is the first line. -/
theorem head?_split (lines : List Line) : (split lines).head?.bind List.head? = lines.head? := by
  cases lines with
  | nil => rfl
  | cons line lines =>
      rw [split_cons]
      cases split lines with
      | nil => rfl
      | cons block blocks => simp only [attach]; split <;> rfl

/-- No block is empty. -/
theorem ne_nil_of_mem_split {lines : List Line} {block : Block} (member : block ∈ split lines) :
    block ≠ [] := by
  induction lines generalizing block with
  | nil => simp [split] at member
  | cons line lines ih =>
      rw [split_cons] at member
      cases cut : split lines with
      | nil =>
          rw [cut, attach, List.mem_singleton] at member
          simp [member]
      | cons first later =>
          rw [cut] at member ih
          rw [attach] at member
          split at member <;> rcases List.mem_cons.mp member with rfl | inLater
          · simp
          · exact ih (List.mem_cons_of_mem first inLater)
          · simp
          · exact ih inLater

/-- There are at most as many blocks as lines. -/
theorem length_split_le (lines : List Line) : (split lines).length ≤ lines.length := by
  induction lines with
  | nil => exact Nat.le_refl 0
  | cons line lines ih =>
      have grown : ∀ blocks, (attach line blocks).length ≤ blocks.length + 1 := by
        intro blocks
        cases blocks with
        | nil => exact Nat.le_refl 1
        | cons block blocks => simp only [attach]; split <;> simp
      exact (grown (split lines)).trans (Nat.succ_le_succ ih)

/-- A line before lines that open a message is a block of its own. -/
theorem attach_split_of_opens {lines : List Line} (opens : Opens lines) (line : Line) :
    attach line (split lines) = [line] :: split lines := by
  have first := head?_split lines
  cases cut : split lines with
  | nil => rfl
  | cons block blocks =>
      rw [cut, List.head?_cons, Option.bind_some] at first
      have noContinuation : ¬ block.head?.any Line.isContinuation := by
        rw [first]
        exact Bool.eq_false_iff.mp opens
      rw [attach, if_neg noContinuation]

/-- **Cutting is local.**  Lines that open a message are cut as if nothing stood
before them, and what stands before them is cut as if nothing followed. -/
theorem split_append (earlier : List Line) {later : List Line} (opens : Opens later) :
    split (earlier ++ later) = split earlier ++ split later := by
  induction earlier with
  | nil => rfl
  | cons line earlier ih =>
      rw [List.cons_append, split_cons, split_cons, ih]
      cases split earlier with
      | nil => exact attach_split_of_opens opens line
      | cons block blocks => simp only [List.cons_append, attach]; split <;> rfl

/-- A line and the continuations after it are one block. -/
theorem split_message {opening : Line} {body : List Line}
    (continues : ∀ line ∈ body, line.isContinuation) :
    split (opening :: body) = [opening :: body] := by
  induction body generalizing opening with
  | nil => rfl
  | cons line body ih =>
      have first : line.isContinuation := continues line List.mem_cons_self
      rw [split_cons, ih fun l member => continues l (List.mem_cons_of_mem line member)]
      simp [attach, first]

theorem opens_flatten {blocks : List Block} (messages : ∀ block ∈ blocks, IsMessage block) :
    Opens blocks.flatten := by
  cases blocks with
  | nil => rfl
  | cons block blocks =>
      cases block with
      | nil => exact (messages [] List.mem_cons_self).elim
      | cons opening body => simpa [Opens] using (messages _ List.mem_cons_self).1

/-- Messages that stand one after the other are cut into these messages. -/
theorem split_flatten {blocks : List Block} (messages : ∀ block ∈ blocks, IsMessage block) :
    split blocks.flatten = blocks := by
  induction blocks with
  | nil => rfl
  | cons block blocks ih =>
      have rest : ∀ b ∈ blocks, IsMessage b := fun b member =>
        messages b (List.mem_cons_of_mem block member)
      rw [List.flatten_cons, split_append block (opens_flatten rest), ih rest]
      cases block with
      | nil => exact (messages [] List.mem_cons_self).elim
      | cons opening body =>
          rw [split_message (messages _ List.mem_cons_self).2]
          rfl

/-! ## Blocks in a text -/

/-- Whether lines can stand behind the opening line of a message in a text. -/
def Follow (lines : List Line) : Prop :=
  ∀ line ∈ lines, Text.Unbroken line ∧ line.isContinuation

theorem Follow.append {a b : List Line} (first : Follow a) (second : Follow b) :
    Follow (a ++ b) := by
  intro line member
  exact (List.mem_append.mp member).elim (first line) (second line)

theorem Follow.held {lines : List Line} (follow : Follow lines) : ∀ line ∈ lines, line ≠ [] :=
  fun line member => Line.ne_nil_of_isContinuation (follow line member).2

/-- Blocks that can be written into a text, and are blocks of it again. -/
structure Separable (block : Block) : Prop where
  message : IsMessage block
  lines : ∀ line ∈ block, Text.Unbroken line ∧ line ≠ []

theorem separable_cons {opening : Line} {body : List Line} (unbroken : Text.Unbroken opening)
    (held : opening ≠ []) (opens : opening.isContinuation = false) (follow : Follow body) :
    Separable (opening :: body) := by
  refine ⟨⟨opens, fun line member => (follow line member).2⟩, ?_⟩
  rw [List.forall_mem_cons]
  refine ⟨⟨unbroken, held⟩, fun line member => ?_⟩
  exact ⟨(follow line member).1, follow.held line member⟩

/-! ## Message text -/

theorem clean_prefix (block : Block) : clean block <+: block := by
  cases block with
  | nil => exact List.prefix_rfl
  | cons opening body => exact List.cons_prefix_cons.mpr ⟨rfl, List.takeWhile_prefix _⟩

/-- A message keeps the lines before its first noise line. -/
theorem clean_cons_append (opening : Line) {body tail : List Line}
    (quiet : ∀ line ∈ body, line.isNoise = false) (noise : tail.head?.all Line.isNoise) :
    clean (opening :: (body ++ tail)) = opening :: body := by
  have stop : tail.takeWhile (fun line => !line.isNoise) = [] := by
    cases tail with
    | nil => rfl
    | cons line tail => exact List.takeWhile_cons_of_neg (by simpa using noise)
  rw [clean, List.takeWhile_append_of_pos (by simpa using quiet), stop, List.append_nil]

/-! ## Indentation -/

theorem margin_le_indent {lines : List Line} {line : Line} (member : line ∈ lines)
    (held : line ≠ []) : margin lines ≤ Text.indent line := by
  have kept : Text.indent line ∈ (lines.filter (· ≠ [])).map Text.indent :=
    List.mem_map_of_mem (List.mem_filter.mpr ⟨member, by simpa using held⟩)
  exact List.min?_getD_le_of_mem kept

/-- The least indentation is that of some line. -/
theorem exists_indent_eq_margin {lines : List Line} {line : Line} (member : line ∈ lines)
    (held : line ≠ []) : ∃ least ∈ lines, least ≠ [] ∧ Text.indent least = margin lines := by
  cases found : ((lines.filter (· ≠ [])).map Text.indent).min? with
  | none =>
      have inside : line ∈ lines.filter (· ≠ []) :=
        List.mem_filter.mpr ⟨member, by simpa using held⟩
      have empty : lines.filter (· ≠ []) = [] :=
        List.map_eq_nil_iff.mp (List.min?_eq_none_iff.mp found)
      rw [empty] at inside
      cases inside
  | some least =>
      obtain ⟨first, inside, same⟩ := List.mem_map.mp (List.min?_mem found)
      obtain ⟨inLines, heldFirst⟩ := List.mem_filter.mp inside
      refine ⟨first, inLines, by simpa using heldFirst, ?_⟩
      rw [margin, found, same]
      rfl

theorem le_margin {lines : List Line} {line : Line} (member : line ∈ lines) (held : line ≠ [])
    {count : Nat} (each : ∀ line ∈ lines, line ≠ [] → count ≤ Text.indent line) :
    count ≤ margin lines := by
  obtain ⟨least, inside, heldLeast, same⟩ := exists_indent_eq_margin member held
  rw [← same]
  exact each least inside heldLeast

/-- Where no line holds a character there is no margin. -/
theorem margin_of_forall_nil {lines : List Line} (empty : ∀ line ∈ lines, line = []) :
    margin lines = 0 := by
  have nothing : lines.filter (· ≠ []) = [] := by simpa using empty
  rw [margin, nothing]
  rfl

/-- What dedenting takes off is blank. -/
theorem isBlank_of_mem_take_margin {lines : List Line} {line : Line} (member : line ∈ lines) :
    ∀ c ∈ line.take (margin lines), Text.isBlank c := by
  cases line with
  | nil => simp
  | cons c line => exact Text.isBlank_of_mem_take (margin_le_indent member (by simp))

/-- A line at the left margin keeps all lines as they are. -/
theorem dedent_eq_self {lines : List Line} {line : Line} (member : line ∈ lines)
    (held : line ≠ []) (start : line.head?.any Text.isBlank = false) : dedent lines = lines := by
  have noMargin : margin lines = 0 := by
    have bound := margin_le_indent member held
    rw [Text.indent_eq_zero start] at bound
    exact Nat.le_zero.mp bound
  rw [dedent, noMargin]
  exact List.map_id lines

end CompilerFeedback.Block
