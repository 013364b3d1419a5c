/-
# CompilerFeedback.Proofs.Noise -- noise never reaches a message

A block ends before its first noise line, but the lines that stay lose blanks at
their start afterwards, twice and by amounts that depend on the other lines.  None
of the three forms of noise looks at leading blanks, so a line is noise with them
exactly if it is noise without them (`isNoise_append_blanks`).

* `Line.isNoise_iff`: noise is a line of one of the three written forms.
* `Entry.composed_of_ofBlock?`: which message line stems from which line of a block.
* `Feedback.entries_quiet`: no message line is noise but for what the opening line
  of its block gives.
-/
import CompilerFeedback.Proofs.Feedback

namespace CompilerFeedback

set_option autoImplicit false

namespace Line

/-! ## The written forms of noise -/

/-- The written forms of noise: a context anywhere, a citation at the start, a bar alone. -/
inductive NoiseForm : Line → Prop where
  | context (before after : Text) : NoiseForm (before ++ contextMarker ++ after)
  | citation {margin number gap : Text} (source : Text) (outer : ∀ c ∈ margin, Text.isBlank c)
      (run : Text.IsDigits number) (inner : ∀ c ∈ gap, Text.isBlank c) :
      NoiseForm (margin ++ (number ++ (gap ++ '|' :: source)))
  | divider {margin gap : Text} (outer : ∀ c ∈ margin, Text.isBlank c)
      (inner : ∀ c ∈ gap, Text.isBlank c) : NoiseForm (margin ++ '|' :: gap)

theorem isContext_iff {line : Line} :
    line.isContext ↔ ∃ before after, line = before ++ contextMarker ++ after := by
  rw [isContext, Text.hasPart_iff]
  constructor
  · rintro ⟨before, after, glued⟩
    exact ⟨before, after, glued.symm⟩
  · rintro ⟨before, after, rfl⟩
    exact List.infix_append before contextMarker after

theorem isCitation_iff {line : Line} :
    line.isCitation ↔ ∃ margin number gap source, (∀ c ∈ margin, Text.isBlank c) ∧
      Text.IsDigits number ∧ (∀ c ∈ gap, Text.isBlank c) ∧
        line = margin ++ (number ++ (gap ++ '|' :: source)) := by
  constructor
  · intro citation
    simp only [isCitation, Bool.and_eq_true, beq_iff_eq] at citation
    obtain ⟨digit, bar⟩ := citation
    obtain ⟨margin, whole, outer⟩ := Text.exists_append_trimStart line
    have number := Text.takeDigits_append_dropDigits (Text.trimStart line)
    obtain ⟨gap, rest, inner⟩ :=
      Text.exists_append_trimStart (Text.dropDigits (Text.trimStart line))
    obtain ⟨source, tail⟩ := List.head?_eq_some_iff.mp bar
    refine ⟨margin, Text.takeDigits (Text.trimStart line), gap, source, outer,
      Text.isDigits_takeDigits digit, inner, ?_⟩
    rw [← tail, ← rest, number, ← whole]
  · rintro ⟨margin, number, gap, source, outer, run, inner, rfl⟩
    have stop : Text.startsWithDigit (gap ++ '|' :: source) = false := by
      cases gap with
      | nil => rfl
      | cons c gap => exact Text.not_isDigit_of_isBlank (inner c List.mem_cons_self)
    have bar : Text.trimStart ('|' :: source) = '|' :: source := Text.trimStart_eq_self rfl
    simp only [isCitation, Text.trimStart_append outer, Text.trimStart_digits_append run,
      Text.startsWithDigit_append run,
      Text.dropDigits_append run.2 stop, Text.trimStart_append inner, bar]
    rfl

theorem isDivider_iff {line : Line} :
    line.isDivider ↔ ∃ margin gap, (∀ c ∈ margin, Text.isBlank c) ∧ (∀ c ∈ gap, Text.isBlank c) ∧
      line = margin ++ '|' :: gap := by
  rw [isDivider, beq_iff_eq]
  constructor
  · intro trimmed
    obtain ⟨margin, whole, outer⟩ := Text.exists_append_trimStart line
    obtain ⟨gap, rest, inner⟩ := Text.exists_trimEnd_append (Text.trimStart line)
    have bar : Text.trimEnd (Text.trimStart line) = ['|'] := trimmed
    rw [bar] at rest
    exact ⟨margin, gap, outer, inner, by rw [whole, rest]; rfl⟩
  · rintro ⟨margin, gap, outer, inner, rfl⟩
    have bar : Text.trimStart ('|' :: gap) = ['|'] ++ gap := Text.trimStart_eq_self rfl
    rw [Text.trim, Text.trimStart_append outer, bar, Text.trimEnd_append_of_blanks inner]
    rfl

/-- **Noise is what is written in one of the three forms.** -/
theorem isNoise_iff {line : Line} : line.isNoise ↔ NoiseForm line := by
  rw [isNoise, Bool.or_eq_true, Bool.or_eq_true, isContext_iff, isCitation_iff, isDivider_iff]
  constructor
  · rintro ((⟨before, after, rfl⟩ | ⟨margin, number, gap, source, outer, run, inner, rfl⟩) |
      ⟨margin, gap, outer, inner, rfl⟩)
    · exact .context before after
    · exact .citation source outer run inner
    · exact .divider outer inner
  · rintro (⟨before, after⟩ | ⟨source, outer, run, inner⟩ | ⟨outer, inner⟩)
    · exact Or.inl (Or.inl ⟨before, after, rfl⟩)
    · exact Or.inl (Or.inr ⟨_, _, _, source, outer, run, inner, rfl⟩)
    · exact Or.inr ⟨_, _, outer, inner, rfl⟩

/-! ## Noise without its leading blanks -/

theorem isContext_append_blanks {blanks : Text} (blank : ∀ c ∈ blanks, Text.isBlank c) (t : Text) :
    isContext (blanks ++ t) = isContext t := by
  induction blanks with
  | nil => rfl
  | cons c blanks ih =>
      rw [List.forall_mem_cons] at blank
      have noStart : contextMarker.isPrefixOf (c :: (blanks ++ t)) = false := by
        have differs : c ≠ 'I' := by
          rintro rfl
          exact absurd blank.1 (by decide)
        have first : ('I' == c) = false := beq_eq_false_iff_ne.mpr differs.symm
        change ('I' == c && _) = false
        rw [first, Bool.false_and]
      rw [← ih blank.2, List.cons_append, isContext, Text.hasPart, noStart, Bool.false_or]
      rfl

/-- Blanks at the start of a line are nothing to noise. -/
theorem isNoise_append_blanks {blanks : Text} (blank : ∀ c ∈ blanks, Text.isBlank c) (t : Text) :
    isNoise (blanks ++ t) = isNoise t := by
  have citation : isCitation (blanks ++ t) = isCitation t := by
    rw [isCitation, isCitation, Text.trimStart_append blank]
  have divider : isDivider (blanks ++ t) = isDivider t := by
    rw [isDivider, isDivider, Text.trim, Text.trim, Text.trimStart_append blank]
  rw [isNoise, isNoise, isContext_append_blanks blank, citation, divider]

theorem isNoise_drop {line : Line} {count : Nat} (blank : ∀ c ∈ line.take count, Text.isBlank c) :
    isNoise (line.drop count) = isNoise line := by
  conv => rhs; rw [← List.take_append_drop count line]
  exact (isNoise_append_blanks blank _).symm

end Line

theorem Block.not_isNoise_of_mem_tail_clean {block : Block} {line : Line}
    (member : line ∈ (clean block).tail) : line.isNoise = false := by
  cases block with
  | nil => simp [clean] at member
  | cons opening body =>
      have quiet := List.mem_takeWhile_imp member
      simpa using quiet

/-! ## Where the lines of a message stem from -/

namespace Entry

/-- How the message of an entry is put together: first the lead, which the opening line of
the block gives, then one line for each later line of the block, short of blanks. -/
structure Composed (base : Text) (block : Block) (entry : Entry) (lead body : List Line) : Prop where
  made : ofBlock? base block = some entry
  message : entry.diagnostic.message = Text.unlines (lead ++ body)
  parts : ∃ count, (∀ line ∈ block.tail, ∀ c ∈ line.take count, Text.isBlank c) ∧
    body = block.tail.map (·.drop count) ∧
    ∃ opening, (Block.dedent block).head? = some opening ∧
      match Header.scan? opening with
      | none => lead = (block.take 1).map (·.drop count)
      | some (_, rest) => lead = messageLines (contribution rest) []

theorem messageLines_append (first : Text) (body : List Line) :
    messageLines first body = messageLines first [] ++ body := by
  unfold messageLines
  split <;> rfl

/-- Every entry is put together from its block. -/
theorem composed_of_ofBlock? {base : Text} {block : Block} {entry : Entry}
    (held : ∀ line ∈ block, line ≠ []) (made : ofBlock? base block = some entry) :
    ∃ lead body, Composed base block entry lead body := by
  obtain ⟨opening, first, kept⟩ := (keeps_of_ofBlock? held made).message
  cases scanned : Header.scan? opening with
  | none =>
      rw [scanned] at kept
      obtain ⟨count, within, message⟩ := kept
      refine ⟨(block.take 1).map (·.drop count), block.tail.map (·.drop count), made, ?_, count,
        fun line member => ?_, rfl, opening, first, by rw [scanned]⟩
      · rw [message, ← List.map_append, ← List.drop_one, List.take_append_drop]
      · exact Text.isBlank_of_mem_take (within line (List.mem_of_mem_tail member))
  | some found =>
      rw [scanned] at kept
      obtain ⟨count, blanks, message⟩ := kept
      refine ⟨messageLines (contribution found.2) [], block.tail.map (·.drop count), made, ?_, count,
        blanks, rfl, opening, first, by rw [scanned]⟩
      rw [message, messageLines_append]

end Entry

namespace Entry

variable {base : Text} {block : Block} {entry : Entry} {lead body : List Line}

/-- No line that stems from a later line of a cleaned block is noise. -/
theorem Composed.not_isNoise {whole : Block}
    (composed : Composed base (Block.clean whole) entry lead body) :
    ∀ line ∈ body, line.isNoise = false := by
  obtain ⟨count, blanks, rfl, -⟩ := composed.parts
  intro line member
  obtain ⟨source, inTail, rfl⟩ := List.mem_map.mp member
  rw [Line.isNoise_drop (blanks source inTail)]
  exact Block.not_isNoise_of_mem_tail_clean inTail

/-- Every character of a message line stands in the block. -/
theorem Composed.exists_source (composed : Composed base block entry lead body) :
    ∀ line ∈ lead ++ body, ∀ c ∈ line, ∃ source ∈ block, c ∈ source := by
  obtain ⟨count, -, rfl, opening, first, parts⟩ := composed.parts
  have dropped : ∀ line ∈ block.map (·.drop count), ∀ c ∈ line, ∃ source ∈ block, c ∈ source := by
    intro line member c inside
    obtain ⟨source, inBlock, rfl⟩ := List.mem_map.mp member
    exact ⟨source, inBlock, List.mem_of_mem_drop inside⟩
  intro line member
  rcases List.mem_append.mp member with inLead | inBody
  · cases scanned : Header.scan? opening with
    | none =>
        rw [scanned] at parts
        rw [parts] at inLead
        exact dropped line ((List.take_sublist 1 block).map _ |>.mem inLead)
    | some found =>
        obtain ⟨header, rest⟩ := found
        rw [scanned] at parts
        rw [parts] at inLead
        obtain rfl : line = contribution rest :=
          (mem_messageLines inLead).resolve_right List.not_mem_nil
        intro c inside
        have inOpening : c ∈ opening := by
          rw [← Header.render_of_scan? scanned]
          exact List.mem_append_right _ (mem_of_mem_contribution inside)
        obtain ⟨source, inBlock, rfl⟩ := List.mem_map.mp (List.mem_of_head? first)
        exact ⟨source, inBlock, List.mem_of_mem_drop inOpening⟩
  · exact dropped line ((List.tail_sublist block).map _ |>.mem inBody)

/-- The lines of a message hold no line feed, as those of its block. -/
theorem Composed.noFeed (composed : Composed base block entry lead body)
    (noFeed : ∀ line ∈ block, '\n' ∉ line) : ∀ line ∈ lead ++ body, '\n' ∉ line := by
  intro line member feed
  obtain ⟨source, inBlock, inSource⟩ := composed.exists_source line member _ feed
  exact noFeed source inBlock inSource

/-- The lines of a message, as far as there are any, are its lead and its body. -/
theorem Composed.splitOn_message (composed : Composed base block entry lead body)
    (noFeed : ∀ line ∈ block, '\n' ∉ line) :
    entry.diagnostic.message.splitOn '\n' = if lead ++ body = [] then [[]] else lead ++ body := by
  rw [composed.message]
  split
  · rename_i empty
    rw [empty]
    rfl
  · rename_i held
    exact List.splitOn_intercalate '\n' (composed.noFeed noFeed) held

end Entry

namespace Feedback

/-- **Noise never reaches a message.**  Every entry is put together from a block of the
text, and of the lines of its message only the lead can be noise: no other line names a
context, begins with a citation or is a bar alone. -/
theorem entries_quiet (base text : Text) :
    ∀ entry ∈ entries base text, ∃ block ∈ blocks text, ∃ lead body,
      Entry.Composed base (Block.clean block) entry lead body ∧
        (∀ line ∈ body, ¬ Line.NoiseForm line) ∧
        ∀ line ∈ (entry.diagnostic.message.splitOn '\n').drop lead.length,
          ¬ Line.NoiseForm line := by
  intro entry member
  obtain ⟨block, inBlocks, made⟩ := List.mem_filterMap.mp member
  obtain ⟨lead, body, composed⟩ := Entry.composed_of_ofBlock? (clean_of_mem_blocks inBlocks).2 made
  have quiet : ∀ line ∈ body, ¬ Line.NoiseForm line := by
    intro line inBody noise
    have loud := Line.isNoise_iff.mpr noise
    rw [composed.not_isNoise line inBody] at loud
    cases loud
  have noFeed : ∀ line ∈ Block.clean block, '\n' ∉ line := by
    intro line inClean
    have inLines : line ∈ Text.lines text := by
      rw [← flatten_blocks]
      exact List.mem_flatten_of_mem inBlocks ((Block.clean_prefix block).mem inClean)
    exact (Text.unbroken_of_mem_lines inLines).1
  refine ⟨block, inBlocks, lead, body, composed, quiet, ?_⟩
  rw [composed.splitOn_message noFeed]
  split
  · rename_i empty
    rw [(List.append_eq_nil_iff.mp empty).1]
    intro line inEmpty noise
    obtain rfl : line = [] := by simpa using inEmpty
    exact absurd (Line.isNoise_iff.mpr noise) (by decide)
  · rw [List.drop_left]
    exact quiet

/-- A block that opens with noise, and a message without a lead that ends at a citation. -/
def quotedText : Text :=
  "In the w\nA.hs:3:4: Warning:\n    In it\n      4 y | z\n  1 | w\n  v\n".toList

def quotedEntry : Entry :=
  ⟨"/b/A.hs".toList, ⟨⟨"/b/A.hs".toList, ⟨2, 3⟩, ⟨2, 4⟩⟩, .warning, "In it\n  4 y | z".toList⟩⟩

theorem entries_quiet_quoted :
    quotedEntry ∈ entries "/b".toList quotedText ∧
      ∃ block ∈ blocks quotedText, ∃ lead body,
        Entry.Composed "/b".toList (Block.clean block) quotedEntry lead body ∧
          (∀ line ∈ body, ¬ Line.NoiseForm line) ∧
          ∀ line ∈ (quotedEntry.diagnostic.message.splitOn '\n').drop lead.length,
            ¬ Line.NoiseForm line :=
  have member : quotedEntry ∈ entries "/b".toList quotedText := by decide
  ⟨member, entries_quiet "/b".toList quotedText quotedEntry member⟩

end Feedback

end CompilerFeedback
