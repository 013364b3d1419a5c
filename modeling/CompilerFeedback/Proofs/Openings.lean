/-
# CompilerFeedback.Proofs.Openings -- what the opening lines decide

Where a diagnostic points and how serious it is stands in the opening line of its
block.  The header is looked for after the whole block was cleaned and dedented, but
a block that opens at the left margin has nothing taken off, and its opening line is
never cut; so nothing that stands below can change the reading of that line.  In a
text whose first line stands at the left margin every block opens there.

* `entries_targets`: the targets of the entries, read off the opening lines.
* `Entry.continues_of_atMargin`: lines behind a block keep the target of its entry, and
  can only add lines to a message that begins in the opening line.
* `entries_follow_openings`: both, for the entries of a text.
-/
import CompilerFeedback.Proofs.Block.Segmentation
import CompilerFeedback.Proofs.Feedback

namespace CompilerFeedback

set_option autoImplicit false

/-! ## Targets -/

/-- An entry without its message: the file, the span and the severity. -/
def Entry.target (e : Entry) : Text × Span × Severity :=
  (e.location, e.diagnostic.span, e.diagnostic.severity)

namespace Opening

/-- The target that an opening line decides on. -/
def target? (base : Text) : Opening → Option (Text × Span × Severity)
  | .success => none
  | .located header rest =>
      let file := Path.resolve base header.path
      some (file, header.span file, (Severity.split (Text.trim rest)).1)
  | .unlocated => some (base, .top base, .error)

/-- Whether message text begins in the opening line. -/
def Speaks : Opening → Prop
  | .success => False
  | .located _ rest => Entry.contribution rest ≠ []
  | .unlocated => True

end Opening

namespace Block

/-- Whether a block opens at the left margin. -/
def AtMargin : Block → Prop
  | [] => False
  | opening :: _ => opening ≠ [] ∧ opening.head?.any Text.isBlank = false

theorem AtMargin.exists_cons {block : Block} (margin : AtMargin block) :
    ∃ opening body, block = opening :: body ∧ opening ≠ [] ∧
      opening.head?.any Text.isBlank = false := by
  cases block with
  | nil => exact margin.elim
  | cons opening body => exact ⟨opening, body, rfl, margin⟩

/-- Where some lines stand one after the other, and the first one at the left margin, all
their blocks open there. -/
theorem atMargin_of_mem_split {first : Line} {rest : List Line}
    (held : ∀ line ∈ first :: rest, line ≠ []) (start : first.head?.any Text.isBlank = false) :
    ∀ block ∈ split (first :: rest), AtMargin block := by
  have cut := segmentation_split (first :: rest)
  have head := head?_split (first :: rest)
  intro block member
  cases block with
  | nil => exact absurd rfl (cut.held [] member)
  | cons opening body =>
      have inLines : opening ∈ first :: rest := by
        rw [← cut.whole]
        exact List.mem_flatten_of_mem member List.mem_cons_self
      refine ⟨held opening inLines, ?_⟩
      cases blocks : split (first :: rest) with
      | nil => simp [blocks] at member
      | cons block later =>
          rw [blocks] at member head cut
          rcases List.mem_cons.mp member with rfl | inLater
          · obtain rfl : opening = first := by simpa using head
            exact start
          · have opens := cut.opens _ inLater
            rw [Bool.eq_false_iff]
            intro indented
            have continues := Line.isContinuation_of_blank indented
            simp [continues] at opens

/-- Continuations at the end of a block are cleaned on their own. -/
theorem clean_append {block : Block} (held : block ≠ []) (more : List Line) :
    ∃ kept, kept <+: more ∧ clean (block ++ more) = clean block ++ kept := by
  cases block with
  | nil => exact absurd rfl held
  | cons opening body =>
      rw [List.cons_append, clean, List.takeWhile_append]
      split
      · rename_i quiet
        have whole : body.takeWhile (fun line => !Line.isNoise line) = body :=
          (List.takeWhile_prefix _).eq_of_length quiet
        refine ⟨more.takeWhile fun line => !Line.isNoise line, List.takeWhile_prefix _, ?_⟩
        rw [clean, whole]
        rfl
      · exact ⟨[], List.nil_prefix, by simp [clean]⟩

end Block

namespace Entry

/-- The entry of a block of a text. -/
def ofRaw? (base : Text) (block : Block) : Option Entry := ofBlock? base (Block.clean block)

/-- The reading of the opening line of a block. -/
def opening? (block : Block) : Option Opening :=
  (Block.dedent (Block.clean block)).head?.map Opening.ofLine

/-- Whether the message of `new` is that of `old` with the first lines of `more` behind it,
as many as there may be. -/
def Lengthens (more : List Line) (old new : Entry) : Prop :=
  ∃ kept, kept <+: more ∧
    new.diagnostic.message = old.diagnostic.message ++ kept.flatMap fun line => '\n' :: line

/-- What becomes of the entry of a block when `more` stands behind its last line. -/
structure Continues (base : Text) (block : Block) (more : List Line) : Prop where
  target : (ofRaw? base (block ++ more)).map target = (ofRaw? base block).map target
  message : (∃ opening ∈ opening? block, opening.Speaks) →
    ∀ old new, ofRaw? base block = some old → ofRaw? base (block ++ more) = some new →
      Lengthens more old new

/-- The target of an entry is decided by the opening line of its block, once that is
dedented. -/
theorem target_ofBlock? (base : Text) {block : Block} {opening : Line} {body : List Line}
    (dedented : Block.dedent block = opening :: body) :
    (ofBlock? base block).map target = Opening.target? base (Opening.ofLine opening) := by
  simp only [ofBlock?, dedented]
  cases Opening.ofLine opening <;> rfl

theorem target_ofBlock?_cons (base : Text) {opening : Line} (held : opening ≠ [])
    (start : opening.head?.any Text.isBlank = false) (body : List Line) :
    (ofBlock? base (opening :: body)).map target = Opening.target? base (Opening.ofLine opening) :=
  target_ofBlock? base (Block.dedent_eq_self List.mem_cons_self held start)

/-- Lines at the end of a block go to the end of its message, if message text begins in the
opening line. -/
theorem message_append (base : Text) {opening : Line} (held : opening ≠ [])
    (start : opening.head?.any Text.isBlank = false) (speaks : (Opening.ofLine opening).Speaks)
    (body kept : List Line) {old new : Entry} (before : ofBlock? base (opening :: body) = some old)
    (after : ofBlock? base (opening :: (body ++ kept)) = some new) :
    new.diagnostic.message = old.diagnostic.message ++ kept.flatMap fun line => '\n' :: line := by
  rw [ofBlock?_cons base held start] at before after
  cases reading : Opening.ofLine opening with
  | success => simp [reading] at before
  | unlocated =>
      simp only [reading, Option.some.injEq] at before after
      subst before after
      exact Text.unlines_append (List.cons_ne_nil opening body) kept
  | located header rest =>
      simp only [reading, Option.some.injEq] at before after
      rw [reading] at speaks
      -- the contribution stands at the left margin, so the second dedent takes nothing off
      have message : ∀ lines, (located base header rest lines).diagnostic.message =
          Text.unlines (contribution rest :: lines) := by
        intro lines
        have dedented := dedent_messageLines (head?_contribution rest) lines
        rw [if_neg speaks] at dedented
        rw [← dedented]
        rfl
      subst before after
      rw [message, message]
      exact Text.unlines_append (List.cons_ne_nil _ body) kept

/-- Lines behind a block that opens at the left margin change its message at most. -/
theorem continues_of_atMargin (base : Text) {block : Block} (margin : Block.AtMargin block)
    (more : List Line) : Continues base block more := by
  obtain ⟨opening, body, rfl, held, start⟩ := margin.exists_cons
  obtain ⟨kept, first, cleaned⟩ := Block.clean_append (List.cons_ne_nil opening body) more
  refine ⟨?_, ?_⟩
  · rw [ofRaw?, ofRaw?, cleaned, Block.clean, List.cons_append,
      target_ofBlock?_cons base held start, target_ofBlock?_cons base held start]
  · rintro ⟨reading, read, speaks⟩ old new before after
    rw [opening?, Block.clean, Block.dedent_eq_self List.mem_cons_self held start] at read
    obtain rfl : Opening.ofLine opening = reading := by simpa using read
    rw [ofRaw?, cleaned] at after
    exact ⟨kept, first, message_append base held start speaks _ kept before after⟩

end Entry

namespace Feedback

/-! ## The opening lines of a text -/

/-- The opening lines of the blocks of a text. -/
def openings (text : Text) : List Line := (blocks text).filterMap List.head?

/-- The entries of some blocks. -/
def entriesOf (base : Text) (blocks : List Block) : List Entry :=
  blocks.filterMap (Entry.ofRaw? base)

theorem entriesOf_concat (base : Text) (earlier : List Block) (last : Block) :
    entriesOf base (earlier ++ [last]) =
      entriesOf base earlier ++ (Entry.ofRaw? base last).toList := by
  rw [entriesOf, entriesOf, List.filterMap_append, List.filterMap_cons]
  cases Entry.ofRaw? base last <;> rfl

theorem unbroken_of_mem_openings {text : Text} {line : Line} (member : line ∈ openings text) :
    Text.Unbroken line ∧ line ≠ [] := by
  obtain ⟨block, inBlocks, first⟩ := List.mem_filterMap.mp member
  have inLines := mem_lines_of_mem_blocks inBlocks (List.mem_of_head? first)
  exact ⟨Text.unbroken_of_mem_lines inLines, Text.ne_nil_of_mem_lines inLines⟩

/-- Opening lines that are joined to a text are the blocks of that text. -/
theorem blocks_unlines_openings (text : Text) :
    blocks (Text.unlines (openings text)) = (openings text).map fun opening => [opening] := by
  have lines : Text.lines (Text.unlines (openings text)) = openings text :=
    Text.lines_unlines (fun line member => (unbroken_of_mem_openings member).1)
      fun line member => (unbroken_of_mem_openings member).2
  have cut := (Block.segmentation_split (Text.lines text)).openings
  rw [blocks, lines]
  exact cut.eq_split.symm

theorem openings_unlines_openings (text : Text) :
    openings (Text.unlines (openings text)) = openings text := by
  rw [openings, blocks_unlines_openings, List.filterMap_map]
  exact List.filterMap_some

theorem atMargin_of_mem_blocks {text : Text} {first : Line} {rest : List Line}
    (lines : Text.lines text = first :: rest) (start : first.head?.any Text.isBlank = false) :
    ∀ block ∈ blocks text, Block.AtMargin block := by
  unfold blocks
  rw [lines]
  refine Block.atMargin_of_mem_split ?_ start
  intro line member
  rw [← lines] at member
  exact Text.ne_nil_of_mem_lines member

theorem atMargin_of_mem_openings {text : Text} (margin : ∀ block ∈ blocks text, Block.AtMargin block)
    {opening : Line} (member : opening ∈ openings text) : Block.AtMargin [opening] := by
  obtain ⟨block, inBlocks, first⟩ := List.mem_filterMap.mp member
  obtain ⟨line, body, rfl, held, start⟩ := (margin block inBlocks).exists_cons
  obtain rfl : line = opening := by simpa using first
  exact ⟨held, start⟩

/-- The targets of the entries are those that the opening lines decide on. -/
theorem entries_targets (base : Text) {text : Text}
    (margin : ∀ block ∈ blocks text, Block.AtMargin block) :
    (entries base text).map Entry.target =
      (openings text).filterMap fun line => Opening.target? base (Opening.ofLine line) := by
  rw [entries, openings, List.map_filterMap, List.filterMap_filterMap]
  refine List.filterMap_congr fun block member => ?_
  obtain ⟨opening, body, rfl, held, start⟩ := (margin block member).exists_cons
  exact Entry.target_ofBlock?_cons base held start _

/-! ## Continuations at the end of a text -/

theorem blocks_append_continuations {text : Text} {earlier : List Block} {last : Block}
    (cut : blocks text = earlier ++ [last]) {more : List Line} (follow : Block.Follow more) :
    blocks (text ++ '\n' :: Text.unlines more) = earlier ++ [last ++ more] := by
  have lines : Text.lines (Text.unlines more) = more :=
    Text.lines_unlines (fun line member => (follow line member).1) follow.held
  have whole : Block.Segmentation (Text.lines text) (earlier ++ [last]) :=
    cut ▸ Block.segmentation_split (Text.lines text)
  rw [blocks, Text.lines_append, lines]
  exact (whole.append fun line member => (follow line member).2).eq_split.symm

/-- **Targets depend on the opening lines alone.**  A text whose first line stands at the
left margin has the targets of its opening lines.  Continuations at its end leave all
entries alone but that of the last block, whose target stays, and whose message can only
get longer if message text begins in its opening line. -/
theorem entries_follow_openings (base text : Text) {first : Line} {rest : List Line}
    (lines : Text.lines text = first :: rest) (start : first.head?.any Text.isBlank = false) :
    (entries base text).map Entry.target =
        (entries base (Text.unlines (openings text))).map Entry.target ∧
      ∃ earlier last, blocks text = earlier ++ [last] ∧
        entries base text = entriesOf base earlier ++ (Entry.ofRaw? base last).toList ∧
        ∀ more, Block.Follow more →
          entries base (text ++ '\n' :: Text.unlines more) =
              entriesOf base earlier ++ (Entry.ofRaw? base (last ++ more)).toList ∧
            Entry.Continues base last more := by
  have margin := atMargin_of_mem_blocks lines start
  constructor
  · have single : ∀ block ∈ blocks (Text.unlines (openings text)), Block.AtMargin block := by
      intro block member
      rw [blocks_unlines_openings] at member
      obtain ⟨opening, inOpenings, rfl⟩ := List.mem_map.mp member
      exact atMargin_of_mem_openings margin inOpenings
    rw [entries_targets base margin, entries_targets base single, openings_unlines_openings]
  · have held : blocks text ≠ [] := by
      intro none_
      have whole := flatten_blocks text
      rw [none_, lines] at whole
      cases whole
    refine ⟨(blocks text).dropLast, (blocks text).getLast held, ?_, ?_, fun more follow => ⟨?_, ?_⟩⟩
    · exact (List.dropLast_append_getLast held).symm
    · rw [← entriesOf_concat, List.dropLast_append_getLast]
      rfl
    · rw [← entriesOf_concat, ← blocks_append_continuations
        (List.dropLast_append_getLast held).symm follow]
      rfl
    · exact Entry.continues_of_atMargin base (margin _ (List.getLast_mem held)) more

/-- A citation at the start, a header that is indented, and an echo that ends a message. -/
def echoedText : Text :=
  "12 | x\n  B.hs:1:1: e\nA.hs:3:4-9: warning: In the w\n  |\r\n".toList

theorem entries_follow_openings_echoed :
    Text.lines echoedText = "12 | x".toList ::
        ["  B.hs:1:1: e".toList, "A.hs:3:4-9: warning: In the w".toList, "  |".toList] ∧
      "12 | x".toList.head?.any Text.isBlank = false ∧
      (entries ['/'] echoedText).map Entry.target =
        (entries ['/'] (Text.unlines (openings echoedText))).map Entry.target ∧
      ∃ earlier last, blocks echoedText = earlier ++ [last] ∧
        entries ['/'] echoedText = entriesOf ['/'] earlier ++ (Entry.ofRaw? ['/'] last).toList ∧
        ∀ more, Block.Follow more →
          entries ['/'] (echoedText ++ '\n' :: Text.unlines more) =
              entriesOf ['/'] earlier ++ (Entry.ofRaw? ['/'] (last ++ more)).toList ∧
            Entry.Continues ['/'] last more :=
  have lines : Text.lines echoedText = "12 | x".toList ::
      ["  B.hs:1:1: e".toList, "A.hs:3:4-9: warning: In the w".toList, "  |".toList] := by decide
  have start : "12 | x".toList.head?.any Text.isBlank = false := by decide
  ⟨lines, start, entries_follow_openings ['/'] echoedText lines start⟩

end Feedback

end CompilerFeedback
