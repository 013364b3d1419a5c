/-
# CompilerFeedback.Proofs.Indentation -- blocks away from the left margin

Only the first block of a text can stand away from the left margin: its opening line may be
indented, any other line that is indented continues a block.  What is taken off before the
header is looked for is the least indentation among the lines of the message, the lines
before the first noise line.

* A block that is indented as a whole gives the entry it gave before, message included
  (`entries_indentBy`): noise stays noise, the cut stays where it was, and what is taken off
  grows by what was put in front.
* An opening line that is indented alone is seen behind whatever is left of its blanks
  (`target_entries_behind_blanks`).  Nothing is left exactly if no line of the message stands
  further out (`Block.leftover_eq_nil_iff`); one line that does hides a report of success
  (`success_hidden_by_shallow_line`).
-/
import CompilerFeedback.Proofs.Noise
import CompilerFeedback.Proofs.Openings

namespace CompilerFeedback

set_option autoImplicit false

namespace Block

/-! ## A block behind blanks -/

/-- The block with the same text in front of every line. -/
def indentBy (front : Text) (block : Block) : Block := block.map (front ++ ·)

section IndentBy

variable {front : Text} (blank : ∀ c ∈ front, Text.isBlank c)
include blank

theorem clean_indentBy (block : Block) :
    clean (indentBy front block) = indentBy front (clean block) := by
  cases block with
  | nil => rfl
  | cons opening body =>
      have same : (fun line => !Line.isNoise line) ∘ (front ++ ·) =
          fun line => !Line.isNoise line := by
        funext line
        exact congrArg Bool.not (Line.isNoise_append_blanks blank line)
      show (front ++ opening) :: (body.map (front ++ ·)).takeWhile _ = _
      rw [List.takeWhile_map, same]
      rfl

theorem margin_indentBy {block : Block} (held : ∀ line ∈ block, line ≠ []) (some_ : block ≠ []) :
    margin (indentBy front block) = front.length + margin block := by
  obtain ⟨line, member⟩ := List.exists_mem_of_ne_nil block some_
  obtain ⟨least, inside, -, same⟩ := exists_indent_eq_margin member (held line member)
  apply Nat.le_antisymm
  · have bound := margin_le_indent (List.mem_map_of_mem (f := (front ++ ·)) inside)
      (List.append_ne_nil_of_right_ne_nil front (held least inside))
    rw [Text.indent_append_blanks blank, same] at bound
    exact bound
  · apply le_margin (List.mem_map_of_mem (f := (front ++ ·)) member)
      (List.append_ne_nil_of_right_ne_nil front (held line member))
    intro moved inMoved _
    obtain ⟨line, inBlock, rfl⟩ := List.mem_map.mp inMoved
    rw [Text.indent_append_blanks blank]
    exact Nat.add_le_add_left (margin_le_indent inBlock (held line inBlock)) _

/-- Dedenting takes the blanks in front off again. -/
theorem dedent_indentBy {block : Block} (held : ∀ line ∈ block, line ≠ []) :
    dedent (indentBy front block) = dedent block := by
  by_cases empty : block = []
  · rw [empty]
    rfl
  · rw [dedent, margin_indentBy blank held empty, indentBy, List.map_map]
    apply List.map_congr_left
    intro line _
    exact List.drop_length_add_append (margin block)

theorem Follow.indentBy {body : List Line} (follow : Follow body) (whole : Text.Unbroken front) :
    Follow (indentBy front body) := by
  intro moved inMoved
  obtain ⟨line, inBody, rfl⟩ := List.mem_map.mp inMoved
  exact ⟨Text.unbroken_append.mpr ⟨whole, (follow line inBody).1⟩,
    Line.isContinuation_append_blanks blank (follow line inBody).2⟩

end IndentBy

/-! ## An opening line behind blanks -/

/-- The lines behind an opening line that stay in its block's message. -/
def kept (body : List Line) : List Line := body.takeWhile fun line => !Line.isNoise line

/-- What dedenting leaves of the blanks in front of an opening line. -/
def leftover (front opening : Text) (body : List Line) : Text :=
  front.drop (margin (clean ((front ++ opening) :: body)))

section Leftover

variable {front opening : Text} (blank : ∀ c ∈ front, Text.isBlank c)
  (start : opening.head?.any Text.isBlank = false)
include blank start

theorem indent_opening : Text.indent (front ++ opening) = front.length := by
  rw [Text.indent_append_blanks blank, Text.indent_eq_zero start, Nat.add_zero]

theorem margin_opening_le (held : opening ≠ []) (body : List Line) :
    margin (clean ((front ++ opening) :: body)) ≤ front.length := by
  rw [← indent_opening blank start]
  exact margin_le_indent List.mem_cons_self (List.append_ne_nil_of_right_ne_nil front held)

theorem dedent_opening (held : opening ≠ []) (body : List Line) :
    ∃ rest, dedent (clean ((front ++ opening) :: body)) =
      (leftover front opening body ++ opening) :: rest := by
  have within := margin_opening_le blank start held body
  refine ⟨(kept body).map (·.drop (margin (clean ((front ++ opening) :: body)))), ?_⟩
  rw [leftover, ← List.drop_append_of_le_length within]
  rfl

/-- Nothing is left of the blanks exactly if no line of the message stands further out. -/
theorem leftover_eq_nil_iff (held : opening ≠ []) {body : List Line}
    (heldBody : ∀ line ∈ body, line ≠ []) :
    leftover front opening body = [] ↔ ∀ line ∈ kept body, front.length ≤ Text.indent line := by
  rw [leftover, List.drop_eq_nil_iff]
  constructor
  · intro all line member
    have inBody : line ∈ body := (List.takeWhile_prefix _).mem member
    exact all.trans (margin_le_indent (List.mem_cons_of_mem _ member) (heldBody line inBody))
  · intro deep
    apply le_margin List.mem_cons_self (List.append_ne_nil_of_right_ne_nil front held)
    exact List.forall_mem_cons.mpr
      ⟨fun _ => (indent_opening blank start).ge, fun line member _ => deep line member⟩

end Leftover

end Block

/-- No line that starts with a blank is a report of success. -/
theorem Opening.isSome_target?_of_blank (base : Text) {c : Char} (blank : Text.isBlank c)
    (t : Text) : (target? base (ofLine (c :: t))).isSome := by
  have noMarker : Text.startsWith successMarker (c :: t) = false := by
    rw [Text.startsWith_eq_false_iff]
    rintro ⟨rest, same⟩
    have capital : 'A' = c := (List.cons.inj same).1
    rw [← capital] at blank
    exact absurd blank (by decide)
  rw [ofLine, noMarker]
  cases Header.scan? (c :: t) <;> rfl

namespace Entry

theorem ofBlock?_congr (base : Text) {a b : Block} (same : Block.dedent a = Block.dedent b) :
    ofBlock? base a = ofBlock? base b := by
  rw [ofBlock?, ofBlock?, same]

/-- A block that is indented as a whole gives the entry of the block as it was. -/
theorem ofRaw?_indentBy (base : Text) {front : Text} (blank : ∀ c ∈ front, Text.isBlank c)
    {block : Block} (held : ∀ line ∈ block, line ≠ []) :
    ofRaw? base (Block.indentBy front block) = ofRaw? base block := by
  have heldClean : ∀ line ∈ Block.clean block, line ≠ [] := fun line member =>
    held line ((Block.clean_prefix block).mem member)
  rw [ofRaw?, Block.clean_indentBy blank]
  exact ofBlock?_congr base (Block.dedent_indentBy blank heldClean)

end Entry

namespace Feedback

/-! ## The first block of a text -/

/-- A text of one block: any line, and continuations after it. -/
theorem entries_block (base : Text) {opening : Line} (unbroken : Text.Unbroken opening)
    (held : opening ≠ []) {body : List Line} (follow : Block.Follow body) :
    entries base (Text.unlines (opening :: body)) =
      (Entry.ofRaw? base (opening :: body)).toList := by
  have lines : Text.lines (Text.unlines (opening :: body)) = opening :: body := by
    apply Text.lines_unlines
    · exact List.forall_mem_cons.mpr ⟨unbroken, fun line member => (follow line member).1⟩
    · exact List.forall_mem_cons.mpr ⟨held, follow.held⟩
  have one : Block.split (opening :: body) = [opening :: body] :=
    Block.split_message fun line member => (follow line member).2
  show entriesOf base (blocks _) = _
  rw [blocks, lines, one]
  exact entriesOf_concat base [] (opening :: body)

/-- **A block that is indented as a whole is read as before.**  Blanks that are put in front
of every line of a block change nothing in its entry, its message included. -/
theorem entries_indentBy (base : Text) {opening : Line} (unbroken : Text.Unbroken opening)
    (held : opening ≠ []) {body : List Line} (follow : Block.Follow body) {front : Text}
    (blank : ∀ c ∈ front, Text.isBlank c) (whole : Text.Unbroken front) :
    entries base (Text.unlines (Block.indentBy front (opening :: body))) =
      entries base (Text.unlines (opening :: body)) := by
  have moved := follow.indentBy blank whole
  have heldAll : ∀ line ∈ opening :: body, line ≠ [] :=
    List.forall_mem_cons.mpr ⟨held, follow.held⟩
  show entries base (Text.unlines ((front ++ opening) :: Block.indentBy front body)) = _
  rw [entries_block base (Text.unbroken_append.mpr ⟨whole, unbroken⟩)
      (List.append_ne_nil_of_right_ne_nil front held) moved,
    entries_block base unbroken held follow]
  exact congrArg Option.toList (Entry.ofRaw?_indentBy base blank heldAll)

/-- A header that is cited, blanks alone and an echo, all behind a tab and a wide blank. -/
theorem entries_indentBy_cited :
    Text.Unbroken "12 | A.hs:1:1: e".toList ∧ "12 | A.hs:1:1: e".toList ≠ [] ∧
      Block.Follow ["  ".toList, "+.5e1|w".toList, " 3 | v".toList, " z".toList] ∧
      (∀ c ∈ ['\t', '\u3000'], Text.isBlank c) ∧ Text.Unbroken ['\t', '\u3000'] ∧
      entries ['/'] (Text.unlines (Block.indentBy ['\t', '\u3000'] ["12 | A.hs:1:1: e".toList,
          "  ".toList, "+.5e1|w".toList, " 3 | v".toList, " z".toList])) =
        entries ['/'] (Text.unlines
          ["12 | A.hs:1:1: e".toList, "  ".toList, "+.5e1|w".toList, " 3 | v".toList,
            " z".toList]) :=
  have unbroken : Text.Unbroken "12 | A.hs:1:1: e".toList := by decide
  have held : "12 | A.hs:1:1: e".toList ≠ [] := by decide
  have follow : Block.Follow
      ["  ".toList, "+.5e1|w".toList, " 3 | v".toList, " z".toList] := by
    unfold Block.Follow
    decide
  have blank : ∀ c ∈ ['\t', '\u3000'], Text.isBlank c := by simp; decide
  have whole : Text.Unbroken ['\t', '\u3000'] := by decide
  ⟨unbroken, held, follow, blank, whole, entries_indentBy ['/'] unbroken held follow blank whole⟩

/-! ## A first block whose opening line stands behind blanks -/

/-- Whether lines can stand behind an opening line, each of them indented. -/
def Indented (lines : List Line) : Prop :=
  ∀ line ∈ lines, Text.Unbroken line ∧ line.head?.any Text.isBlank

theorem Indented.follow {lines : List Line} (indented : Indented lines) : Block.Follow lines :=
  fun line member =>
    ⟨(indented line member).1, Line.isContinuation_of_blank (indented line member).2⟩

theorem target_entries_opening (base : Text) {opening : Line} (held : opening ≠ [])
    (start : opening.head?.any Text.isBlank = false) (unbroken : Text.Unbroken opening) :
    (entries base opening).map Entry.target =
      (Opening.target? base (Opening.ofLine opening)).toList := by
  have alone : Text.unlines [opening] = opening := by
    simp [Text.unlines, Text.join]
  have noBody : Block.Follow [] := by simp [Block.Follow]
  have one := entries_block base unbroken held noBody
  rw [alone] at one
  rw [one, ← Option.toList_map]
  exact congrArg Option.toList (Entry.target_ofBlock?_cons base held start [])

/-- **An opening line behind blanks is read where the block is dedented to.**  The target is
the one of the opening line behind what is left of the blanks.  Nothing is left if no line
of the message stands further out, and the target is the one of the opening line alone.  Else
a success marker is not seen, and there is one entry whatever the opening line says. -/
theorem target_entries_behind_blanks (base : Text) {front opening : Text} {body : List Line}
    (blank : ∀ c ∈ front, Text.isBlank c) (whole : Text.Unbroken front) (held : opening ≠ [])
    (start : opening.head?.any Text.isBlank = false) (unbroken : Text.Unbroken opening)
    (indented : Indented body) :
    (entries base (Text.unlines ((front ++ opening) :: body))).map Entry.target =
        (Opening.target? base
          (Opening.ofLine (Block.leftover front opening body ++ opening))).toList ∧
      ((∀ line ∈ Block.kept body, front.length ≤ Text.indent line) →
        (entries base (Text.unlines ((front ++ opening) :: body))).map Entry.target =
          (entries base opening).map Entry.target) ∧
      ((∃ line ∈ Block.kept body, Text.indent line < front.length) →
        (entries base (Text.unlines ((front ++ opening) :: body))).length = 1) := by
  have none_left := Block.leftover_eq_nil_iff blank start held indented.follow.held
  have targets : (entries base (Text.unlines ((front ++ opening) :: body))).map Entry.target =
      (Opening.target? base
        (Opening.ofLine (Block.leftover front opening body ++ opening))).toList := by
    obtain ⟨rest, dedented⟩ := Block.dedent_opening blank start held body
    rw [entries_block base (Text.unbroken_append.mpr ⟨whole, unbroken⟩)
        (List.append_ne_nil_of_right_ne_nil front held) indented.follow, ← Option.toList_map]
    exact congrArg Option.toList (Entry.target_ofBlock? base dedented)
  refine ⟨targets, fun deep => ?_, ?_⟩
  · rw [targets, target_entries_opening base held start unbroken, none_left.mpr deep]
    rfl
  · rintro ⟨line, member, less⟩
    have left : Block.leftover front opening body ≠ [] := fun empty =>
      absurd (none_left.mp empty line member) (Nat.not_le.mpr less)
    obtain ⟨c, more, shape⟩ := List.exists_cons_of_ne_nil left
    have inFront : c ∈ front := by
      apply List.mem_of_mem_drop
      rw [← Block.leftover, shape]
      exact List.mem_cons_self
    obtain ⟨target, decided⟩ := Option.isSome_iff_exists.mp
      (Opening.isSome_target?_of_blank base (blank c inFront) (more ++ opening))
    rw [← List.length_map Entry.target, targets, shape, List.cons_append, decided]
    rfl

/-- A line further out than the header, once behind a noise line and once in the message. -/
theorem target_entries_behind_tab :
    (∀ c ∈ ['\t', ' '], Text.isBlank c) ∧ Text.Unbroken ['\t', ' '] ∧
      "A.hs:3:4-9: warning: w".toList ≠ [] ∧
      "A.hs:3:4-9: warning: w".toList.head?.any Text.isBlank = false ∧
      Text.Unbroken "A.hs:3:4-9: warning: w".toList ∧
      Indented ["\t  more".toList, " In the x".toList, " y".toList] ∧ Indented [" y".toList] ∧
      (∀ line ∈ Block.kept ["\t  more".toList, " In the x".toList, " y".toList],
        ['\t', ' '].length ≤ Text.indent line) ∧
      (entries ['/'] (Text.unlines ["\t A.hs:3:4-9: warning: w".toList, "\t  more".toList,
          " In the x".toList, " y".toList])).map Entry.target =
        (entries ['/'] "A.hs:3:4-9: warning: w".toList).map Entry.target ∧
      (∃ line ∈ Block.kept [" y".toList], Text.indent line < ['\t', ' '].length) ∧
      (entries ['/'] (Text.unlines
        ["\t A.hs:3:4-9: warning: w".toList, " y".toList])).length = 1 :=
  have blank : ∀ c ∈ ['\t', ' '], Text.isBlank c := by simp; decide
  have whole : Text.Unbroken ['\t', ' '] := by decide
  have held : "A.hs:3:4-9: warning: w".toList ≠ [] := by decide
  have start : "A.hs:3:4-9: warning: w".toList.head?.any Text.isBlank = false := by decide
  have unbroken : Text.Unbroken "A.hs:3:4-9: warning: w".toList := by decide
  have cut : Indented ["\t  more".toList, " In the x".toList, " y".toList] := by
    unfold Indented
    decide
  have out : Indented [" y".toList] := by
    unfold Indented
    decide
  have deep : ∀ line ∈ Block.kept ["\t  more".toList, " In the x".toList, " y".toList],
      ['\t', ' '].length ≤ Text.indent line := by decide
  have shallow : ∃ line ∈ Block.kept [" y".toList], Text.indent line < ['\t', ' '].length := by
    decide
  ⟨blank, whole, held, start, unbroken, cut, out, deep,
    (target_entries_behind_blanks ['/'] blank whole held start unbroken cut).2.1 deep, shallow,
    (target_entries_behind_blanks ['/'] blank whole held start unbroken out).2.2 shallow⟩

/-- A report of success behind two blanks is an entry if a line with one blank follows. -/
theorem success_hidden_by_shallow_line :
    Entry.ofRaw? ['/', 'b'] ["All good (1 module)".toList] = none ∧
      "All good (1 module)".toList.head?.any Text.isBlank = false ∧
      Text.Unbroken "All good (1 module)".toList ∧ (∀ c ∈ [' ', ' '], Text.isBlank c) ∧
      Text.Unbroken [' ', ' '] ∧ Indented [" note".toList] ∧
      (entries ['/', 'b'] (Text.unlines
          ["  All good (1 module)".toList, " note".toList])).map Entry.target ≠
        (entries ['/', 'b'] "All good (1 module)".toList).map Entry.target := by
  unfold Indented
  refine ⟨by decide, by decide, by decide, by simp; decide, by decide, by decide, by decide⟩

end Feedback

end CompilerFeedback
