/-
# CompilerFeedback.Proofs.Entry -- what an entry keeps of its block

The message of an entry is text of its block and nothing else.  Every line of the
block loses the same number of characters, all blank: once for a block without
header, in two steps for the body of a located block, where the second dedent also
sees what the opening line contributes.  A contribution starts with no blank, so
where there is one the body keeps its indentation (`dedent_messageLines`).

* `Entry.ofBlock?_eq_none_iff`: only a report of success gives no entry.
* `Entry.file_of_ofBlock?`: an entry is filed under the file of its diagnostic.
* `Entry.keeps_of_ofBlock?`: what an entry keeps of its block.
* `Entry.ofBlock?_clean_render`: the entry of a message that a header opens.
-/
import CompilerFeedback.Entry
import CompilerFeedback.Proofs.Block
import CompilerFeedback.Proofs.Header

namespace CompilerFeedback

set_option autoImplicit false

/-! ## Reading the opening line -/

namespace Opening

theorem ofLine_eq_located_iff {line : Line} {h : Header} {rest : Text} :
    ofLine line = .located h rest ↔
      Text.startsWith successMarker line = false ∧ Header.scan? line = some (h, rest) := by
  rw [ofLine]
  cases Text.startsWith successMarker line <;> cases Header.scan? line <;> simp [Prod.ext_iff]

theorem ofLine_eq_unlocated_iff {line : Line} :
    ofLine line = .unlocated ↔
      Text.startsWith successMarker line = false ∧ Header.scan? line = none := by
  rw [ofLine]
  cases Text.startsWith successMarker line <;> cases Header.scan? line <;> simp

/-- A path that is followed by a colon starts with the success marker or the line does not. -/
theorem not_startsWith_successMarker {path : Text}
    (noSuccess : Text.startsWith successMarker path = false) (t : Text) :
    Text.startsWith successMarker (path ++ ':' :: t) = false := by
  rw [Text.startsWith_eq_false_iff] at noSuccess ⊢
  intro marked
  have colon : path ++ [':'] <+: path ++ ':' :: t := ⟨t, by simp⟩
  rcases List.prefix_or_prefix_of_prefix marked colon with inPath | pastPath
  · rcases List.prefix_concat_iff.mp inPath with whole | inside
    · have member : ':' ∈ successMarker := by simp [whole]
      exact absurd member (by decide)
    · exact noSuccess inside
  · have member : ':' ∈ successMarker := pastPath.mem (by simp)
    exact absurd member (by decide)

/-- A header is located in the line that it begins, if a blank or nothing follows it. -/
theorem ofLine_render {h : Header} (written : h.coordinates.IsWritten) (held : h.path ≠ [])
    (start : h.path.head?.any Text.isBlank = false) (colons : Header.HasDriveColonOnly h.path)
    (noSuccess : Text.startsWith successMarker h.path = false) {rest : Text}
    (ends : rest.head?.all Text.isBlank) : ofLine (h.render ++ rest) = .located h rest := by
  have noFeed : h.path.head? ≠ some '\n' := by
    intro feed
    rw [feed] at start
    exact absurd start (by decide)
  have noMarker : Text.startsWith successMarker (h.render ++ rest) = false := by
    obtain ⟨t, line, -⟩ := h.render_append_eq rest
    rw [line]
    exact not_startsWith_successMarker noSuccess t
  exact ofLine_eq_located_iff.mpr
    ⟨noMarker, Header.scan?_render written held noFeed colons ends⟩

/-- A line without a colon has no header. -/
theorem ofLine_of_no_colon {line : Line} (noSuccess : Text.startsWith successMarker line = false)
    (noColon : ':' ∉ line) : ofLine line = .unlocated := by
  refine ofLine_eq_unlocated_iff.mpr ⟨noSuccess, ?_⟩
  cases found : Header.scan? line with
  | none => rfl
  | some result =>
      obtain ⟨h, rest⟩ := result
      have member : ':' ∈ h.render ++ rest := by
        obtain ⟨path, c⟩ := h
        cases c <;> simp [Header.render, Coordinates.render]
      exact absurd (Header.render_of_scan? found ▸ member) noColon

end Opening

/-- Headers that open a message, and are read back from its first line. -/
structure Header.OpensMessage (h : Header) : Prop where
  written : h.coordinates.IsWritten
  held : h.path ≠ []
  start : h.path.head?.any Text.isBlank = false
  noBar : '|' ∉ h.path
  colons : Header.HasDriveColonOnly h.path
  noSuccess : Text.startsWith Opening.successMarker h.path = false

namespace Header.OpensMessage

variable {h : Header}

theorem ne_nil (opens : h.OpensMessage) (rest : Text) : h.render ++ rest ≠ [] := by
  simp [render, opens.held]

theorem head?_line (opens : h.OpensMessage) (rest : Text) :
    (h.render ++ rest).head?.any Text.isBlank = false := by
  obtain ⟨t, line, -⟩ := render_append_eq h rest
  rw [line, List.head?_append_of_ne_nil _ opens.held]
  exact opens.start

theorem not_isContinuation (opens : h.OpensMessage) (rest : Text) :
    Line.isContinuation (h.render ++ rest) = false := by
  have start := opens.head?_line rest
  obtain ⟨t, line, -⟩ := render_append_eq h rest
  rw [line] at start ⊢
  exact Line.not_isContinuation_of_colon start opens.noBar

/-- The header is located, if a blank or nothing follows it. -/
theorem ofLine_eq (opens : h.OpensMessage) {rest : Text} (ends : rest.head?.all Text.isBlank) :
    Opening.ofLine (h.render ++ rest) = .located h rest :=
  Opening.ofLine_render opens.written opens.held opens.start opens.colons opens.noSuccess ends

end Header.OpensMessage

/-! ## The word for a severity -/

namespace Severity

theorem split_append {head : Text} (free : ':' ∉ head) (t : Text) :
    split (head ++ ':' :: t) =
      if Text.lower head = warning.name then (.warning, Text.trim t)
      else (.error, head ++ ':' :: t) := by
  rw [split, Text.after?_append free, Text.before_append free]

/-- A trim leaves the word for a severity in front of a trimmed text, and its colon. -/
theorem trim_name_append (severity : Severity) {t : Text} (trimmed : Text.trim t = t) :
    ∃ u, Text.trim (severity.name ++ ": ".toList ++ t) = severity.name ++ ':' :: u ∧
      Text.trim u = t := by
  by_cases empty : t = []
  · subst empty
    exact ⟨[], by cases severity <;> decide, rfl⟩
  · have start : (severity.name ++ ": ".toList).head?.any Text.isBlank = false := by
      cases severity <;> decide
    have held : severity.name ++ ": ".toList ≠ [] := by cases severity <;> decide
    refine ⟨' ' :: t, ?_, ?_⟩
    · rw [Text.trim_append start held empty trimmed]
      simp
    · rw [Text.trim_cons_of_isBlank (by decide), trimmed]

end Severity

namespace Entry

/-! ## What the opening line contributes -/

/-- The first message line of a located block, after its header: without a severity mark. -/
def contribution (rest : Text) : Text := (Severity.split (Text.trim rest)).2

/-- A contribution starts with no blank. -/
theorem head?_contribution (rest : Text) : (contribution rest).head?.any Text.isBlank = false := by
  rw [contribution, Severity.split]
  split
  · split
    · exact Text.head?_trim _
    · exact Text.head?_trim rest
  · exact Text.head?_trim rest

theorem mem_of_mem_contribution {rest : Text} {c : Char} (member : c ∈ contribution rest) :
    c ∈ rest := by
  rw [contribution, Severity.split] at member
  split at member
  · rename_i message found
    split at member
    · apply Text.mem_of_mem_trim
      rw [← Text.before_append_after found]
      exact List.mem_append_right _ (List.mem_cons_of_mem ':' (Text.mem_of_mem_trim member))
    · exact Text.mem_of_mem_trim member
  · exact Text.mem_of_mem_trim member

theorem mem_messageLines {line first : Text} {body : List Line}
    (member : line ∈ messageLines first body) : line = first ∨ line ∈ body := by
  rw [messageLines] at member
  split at member
  · exact Or.inr member
  · exact List.mem_cons.mp member

/-- A contribution holds the body at its place; without one the body is dedented. -/
theorem dedent_messageLines {first : Text} (start : first.head?.any Text.isBlank = false)
    (body : List Line) : Block.dedent (messageLines first body) =
      if first = [] then Block.dedent body else first :: body := by
  rw [messageLines]
  split
  · rfl
  · rename_i held
    exact Block.dedent_eq_self List.mem_cons_self held start

/-- The message of a located block: its contribution, and the body without a common
number of blanks. -/
theorem message_located (base : Text) (header : Header) (rest : Text) (body : List Line) :
    ∃ count, (∀ line ∈ body, ∀ c ∈ line.take count, Text.isBlank c) ∧
      (located base header rest body).diagnostic.message =
        Text.unlines (messageLines (contribution rest) (body.map (·.drop count))) := by
  have message : (located base header rest body).diagnostic.message =
      Text.unlines (Block.dedent (messageLines (contribution rest) body)) := rfl
  rw [message, dedent_messageLines (head?_contribution rest)]
  by_cases empty : contribution rest = []
  · refine ⟨Block.margin body, fun line member => Block.isBlank_of_mem_take_margin member, ?_⟩
    rw [if_pos empty, messageLines, if_pos empty]
    rfl
  · refine ⟨0, by simp, ?_⟩
    rw [if_neg empty, messageLines, if_neg empty]
    simp

/-! ## The entry of a block -/

/-- Whether a block reports success. -/
def isSuccess (block : Block) : Bool :=
  (Block.dedent block).head?.any (Text.startsWith Opening.successMarker)

/-- Only a report of success gives no entry. -/
theorem ofBlock?_eq_none_iff (base : Text) {block : Block} (held : block ≠ []) :
    ofBlock? base block = none ↔ isSuccess block := by
  have dedented : Block.dedent block ≠ [] := by
    simpa [← List.length_pos_iff, Block.length_dedent] using held
  cases lines : Block.dedent block with
  | nil => exact absurd lines dedented
  | cons opening body =>
      simp only [ofBlock?, isSuccess, lines, List.head?_cons, Option.any_some, Opening.ofLine]
      cases Text.startsWith Opening.successMarker opening with
      | true => simp
      | false => cases Header.scan? opening <;> simp

theorem file_of_ofBlock? {base : Text} {block : Block} {entry : Entry}
    (made : ofBlock? base block = some entry) : entry.diagnostic.span.file = entry.location := by
  unfold ofBlock? at made
  split at made
  · cases made
  · split at made
    · cases made
    · cases made
      rfl
    · cases made
      rfl

/-- The entry of a block whose opening line stands at the left margin. -/
theorem ofBlock?_cons (base : Text) {opening : Line} (held : opening ≠ [])
    (start : opening.head?.any Text.isBlank = false) (body : List Line) :
    ofBlock? base (opening :: body) =
      match Opening.ofLine opening with
      | .success => none
      | .located header rest => some (located base header rest body)
      | .unlocated => some (unlocated base (opening :: body)) := by
  have dedented : Block.dedent (opening :: body) = opening :: body :=
    Block.dedent_eq_self List.mem_cons_self held start
  cases reading : Opening.ofLine opening <;> simp only [ofBlock?, dedented, reading]

/-- The entry of a message with a header, whatever echo follows its body. -/
theorem ofBlock?_clean_render (base : Text) {h : Header} (opens : h.OpensMessage) {rest : Text}
    (ends : rest.head?.all Text.isBlank) {body tail : List Line}
    (quiet : ∀ line ∈ body, line.isNoise = false) (noise : tail.head?.all Line.isNoise) :
    ofBlock? base (Block.clean ((h.render ++ rest) :: (body ++ tail))) =
      some (located base h rest body) := by
  rw [Block.clean_cons_append _ quiet noise,
    ofBlock?_cons base (opens.ne_nil rest) (opens.head?_line rest), opens.ofLine_eq ends]

/-- What an entry keeps of its block, a number of characters being taken off its lines.
Where the opening line has no header, all lines make the message, each without `count`
of its leading blanks.  Where it has one, its contribution does, if it is not empty, and
the lines after it, of which only blanks are taken off. -/
structure Keeps (base : Text) (block : Block) (entry : Entry) : Prop where
  /-- The entry is the one the block gives. -/
  made : ofBlock? base block = some entry
  message : ∃ opening, (Block.dedent block).head? = some opening ∧
    match Header.scan? opening with
    | none => ∃ count, (∀ line ∈ block, count ≤ Text.indent line) ∧
        entry.diagnostic.message = Text.unlines (block.map (·.drop count))
    | some (_, rest) => ∃ count, (∀ line ∈ block.tail, ∀ c ∈ line.take count, Text.isBlank c) ∧
        entry.diagnostic.message =
          Text.unlines (messageLines (contribution rest) (block.tail.map (·.drop count)))

/-- Two dedents in a row take off blanks only. -/
theorem isBlank_of_mem_take_add {line : Line} {first second : Nat}
    (outer : ∀ c ∈ line.take first, Text.isBlank c)
    (inner : ∀ c ∈ (line.drop first).take second, Text.isBlank c) :
    ∀ c ∈ line.take (first + second), Text.isBlank c := by
  intro c member
  rw [List.take_add, List.mem_append] at member
  exact member.elim (outer c) (inner c)

/-- **An entry keeps the text of its block**, up to blanks at the start of lines. -/
theorem keeps_of_ofBlock? {base : Text} {block : Block} {entry : Entry}
    (held : ∀ line ∈ block, line ≠ []) (made : ofBlock? base block = some entry) :
    Keeps base block entry := by
  refine ⟨made, ?_⟩
  cases block with
  | nil => cases made
  | cons first later =>
      have dedented : Block.dedent (first :: later) =
          first.drop (Block.margin (first :: later)) ::
            later.map (·.drop (Block.margin (first :: later))) := rfl
      have blanks := fun line (member : line ∈ later) =>
        Block.isBlank_of_mem_take_margin (List.mem_cons_of_mem first member)
      have within : ∀ line ∈ first :: later,
          Block.margin (first :: later) ≤ Text.indent line := fun line member =>
        Block.margin_le_indent member (held line member)
      simp only [ofBlock?, dedented] at made
      generalize Block.margin (first :: later) = margin at dedented blanks within made
      refine ⟨first.drop margin, by rw [dedented]; rfl, ?_⟩
      cases reading : Opening.ofLine (first.drop margin) with
      | success =>
          rw [reading] at made
          cases made
      | located header rest =>
          rw [reading] at made
          cases made
          rw [(Opening.ofLine_eq_located_iff.mp reading).2]
          obtain ⟨count, inner, message⟩ :=
            message_located base header rest (later.map (·.drop margin))
          refine ⟨margin + count, fun line member => ?_, ?_⟩
          · exact isBlank_of_mem_take_add (blanks line member)
              (inner _ (List.mem_map_of_mem member))
          · rw [message, List.map_map]
            simp [Function.comp_def]
      | unlocated =>
          rw [reading] at made
          cases made
          rw [(Opening.ofLine_eq_unlocated_iff.mp reading).2]
          exact ⟨margin, within, rfl⟩

end Entry

end CompilerFeedback
