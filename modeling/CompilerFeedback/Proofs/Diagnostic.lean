/-
# CompilerFeedback.Proofs.Diagnostic -- a written diagnostic, read again

The written form of a diagnostic is one line of the kind that is read: a path, a point
and a message.  Only the start of its span is written, so the span that is read is one
character wide; a warning's word marks it as one, an error's word is read as the
beginning of its message.  A line of a text on its own is a block whatever it holds, and
its end is never cut, so the message may look like an echo, a header or a severity.

* `split_remainder`: the severity is told from the message.
* `entries_written`: the one entry that is read.
* `entries_beforeFirst`: a start before the first line is not read back, for what is
  read lies in the file.
-/
import CompilerFeedback.Proofs.Message

namespace CompilerFeedback

set_option autoImplicit false

/-- Whether a position lies in a file. -/
def Position.InFile (p : Position) : Prop := 0 ≤ p.line ∧ 0 ≤ p.column

/-- The point that is written for a position, counted from one. -/
def Extent.at (p : Position) : Extent := .point (p.line + 1).toNat (p.column + 1).toNat

theorem Extent.span_at (file : Text) {p : Position} (inFile : p.InFile) :
    (Extent.at p).span file = ⟨file, p, ⟨p.line, p.column + 1⟩⟩ := by
  obtain ⟨line, column⟩ := inFile
  have counted : ∀ n : Int, 0 ≤ n → ((n + 1).toNat : Int) = n + 1 := by omega
  simp only [Extent.at, Extent.span, counted _ line, counted _ column, Int.add_sub_cancel]

namespace Diagnostic

/-- Diagnostics whose written form is a line with a header. -/
structure OneLine (d : Diagnostic) : Prop where
  fileRooted : Path.isRooted d.span.file
  fileNoColon : ':' ∉ d.span.file
  fileUnbroken : Text.Unbroken d.span.file
  line : d.span.start.line < Coordinates.largest
  column : d.span.start.column < Coordinates.largest
  messageUnbroken : Text.Unbroken d.message
  messageTrimmed : Text.trim d.message = d.message

/-- The message that is read back: the word for an error stays with it. -/
def keptMessage (d : Diagnostic) : Text :=
  match d.severity with
  | .warning => d.message
  | .error => Text.trim ("error: ".toList ++ d.message)

/-- The entry that is read back: the span is one character wide. -/
def keptEntry (d : Diagnostic) : Entry :=
  ⟨d.span.file,
    ⟨⟨d.span.file, d.span.start, ⟨d.span.start.line, d.span.start.column + 1⟩⟩, d.severity,
      d.keptMessage⟩⟩

/-! ## The parts of the line -/

variable {d : Diagnostic}

def header (d : Diagnostic) : Header := ⟨d.span.file, (Extent.at d.span.start).coordinates⟩

def remainder (d : Diagnostic) : Text := ' ' :: (d.severity.name ++ ": ".toList ++ d.message)

theorem render_eq (inFile : d.span.start.InFile) : d.render = d.header.render ++ d.remainder := by
  have decimal : ∀ n : Int, 0 ≤ n → Text.ofInt (n + 1) = Text.ofNat (n + 1).toNat := by
    intro n counted
    cases n with
    | ofNat n => rfl
    | negSucc n => cases counted
  simp [render, Span.render, header, Header.render, Extent.at, Extent.coordinates,
    Coordinates.render, remainder, decimal _ inFile.1, decimal _ inFile.2]

/-- The severity is told from the message. -/
theorem split_remainder (trimmed : Text.trim d.message = d.message) :
    Severity.split (Text.trim d.remainder) = (d.severity, d.keptMessage) := by
  obtain ⟨t, cut, inside⟩ := d.severity.trim_name_append trimmed
  have whole : Text.trim d.remainder = d.severity.name ++ ':' :: t :=
    (Text.trim_cons_of_isBlank (by decide) _).trans cut
  have free : ':' ∉ d.severity.name := by cases d.severity <;> decide
  rw [whole, Severity.split_append free, keptMessage]
  cases severity : d.severity with
  | warning => rw [if_pos (by decide), inside]
  | error =>
      rw [severity] at cut
      rw [if_neg (by decide), ← cut]
      rfl

theorem isWritten_header (d : Diagnostic) : d.header.coordinates.IsWritten :=
  Message.isWritten_coordinates (.at d.span.start)

theorem unbroken_render (oneLine : d.OneLine) (inFile : d.span.start.InFile) :
    Text.Unbroken d.render := by
  have word : Text.Unbroken (' ' :: (d.severity.name ++ ": ".toList)) := by
    cases d.severity <;> decide
  have remainder : Text.Unbroken d.remainder :=
    Text.unbroken_append.mpr ⟨word, oneLine.messageUnbroken⟩
  rw [render_eq inFile, Header.render, Text.unbroken_append, Text.unbroken_append]
  exact ⟨⟨oneLine.fileUnbroken, Coordinates.unbroken_render d.isWritten_header⟩, remainder⟩

theorem head?_file (oneLine : d.OneLine) : d.header.path.head? = some '/' := by
  obtain ⟨rest, whole⟩ := Text.startsWith_iff.mp oneLine.fileRooted
  change d.span.file.head? = some '/'
  rw [← whole]
  rfl

theorem header_held (oneLine : d.OneLine) : d.header.path ≠ [] := by
  intro empty
  have head := head?_file oneLine
  rw [empty] at head
  cases head

theorem header_start (oneLine : d.OneLine) : d.header.path.head?.any Text.isBlank = false := by
  rw [head?_file oneLine]
  decide

/-- Whatever the message looks like, the header is located in front of it. -/
theorem ofLine_render_eq (oneLine : d.OneLine) :
    Opening.ofLine (d.header.render ++ d.remainder) = .located d.header d.remainder := by
  have noSuccess : Text.startsWith Opening.successMarker d.header.path = false := by
    rw [Text.startsWith_eq_false_iff]
    rintro ⟨rest, whole⟩
    have head := head?_file oneLine
    rw [← whole] at head
    cases head
  exact Opening.ofLine_render d.isWritten_header (header_held oneLine) (header_start oneLine)
    (Or.inl oneLine.fileNoColon) noSuccess rfl

/-! ## The entry that is read -/

theorem span_header (oneLine : d.OneLine) (inFile : d.span.start.InFile) :
    d.header.span d.span.file =
      ⟨d.span.file, d.span.start, ⟨d.span.start.line, d.span.start.column + 1⟩⟩ := by
  have bounds : ∀ n : Int, 0 ≤ n → n < Coordinates.largest →
      1 ≤ (n + 1).toNat ∧ (n + 1).toNat ≤ Coordinates.largest := by omega
  have numbers : ∀ n ∈ (Extent.at d.span.start).numbers, 1 ≤ n ∧ n ≤ Coordinates.largest := by
    simp only [Extent.at, Extent.numbers, List.forall_mem_cons]
    exact ⟨bounds _ inFile.1 oneLine.line, bounds _ inFile.2 oneLine.column, by simp⟩
  rw [← Extent.span_at d.span.file inFile]
  exact Message.span_coordinates numbers d.span.file

theorem located_header (base : Text) (oneLine : d.OneLine) (inFile : d.span.start.InFile) :
    Entry.located base d.header d.remainder [] = d.keptEntry := by
  have file : Path.resolve base d.header.path = d.span.file := if_pos oneLine.fileRooted
  have split := split_remainder oneLine.messageTrimmed
  -- the rest of the line is the whole message, so no second dedent can reach it
  have message : Text.unlines (Block.dedent (Entry.messageLines d.keptMessage [])) =
      d.keptMessage := by
    have start : d.keptMessage.head?.any Text.isBlank = false := by
      have first := Entry.head?_contribution d.remainder
      rwa [Entry.contribution, split] at first
    rw [Entry.dedent_messageLines start]
    by_cases empty : d.keptMessage = []
    · rw [if_pos empty, empty]
      rfl
    · rw [if_neg empty, Text.unlines_cons]
      exact List.append_nil _
  simp only [Entry.located, file, split, message, span_header oneLine inFile, keptEntry]

/-- **A written diagnostic is read back**, if it lies in its file: as the one entry of its
line, whatever the message looks like. -/
theorem entries_written (base : Text) (d : Diagnostic) (oneLine : d.OneLine)
    (inFile : d.span.start.InFile) : Feedback.entries base d.render = [d.keptEntry] := by
  have unbroken := unbroken_render oneLine inFile
  rw [render_eq inFile] at unbroken ⊢
  have held : d.header.render ++ d.remainder ≠ [] := by simp [remainder]
  have start : (d.header.render ++ d.remainder).head?.any Text.isBlank = false := by
    obtain ⟨t, line, -⟩ := d.header.render_append_eq d.remainder
    rw [line, List.head?_append_of_ne_nil _ (header_held oneLine)]
    exact header_start oneLine
  have block : Entry.ofBlock? base [d.header.render ++ d.remainder] = some d.keptEntry := by
    rw [Entry.ofBlock?_cons base held start, ofLine_render_eq oneLine]
    exact congrArg some (located_header base oneLine inFile)
  rw [Feedback.entries, Feedback.blocks, Text.lines_of_unbroken unbroken held]
  exact List.filterMap_cons_some block

/-- A warning at the largest start, in a file with a bar, that reads like a success, an echo
and a header. -/
def disguised : Diagnostic :=
  ⟨⟨"/a | b".toList, ⟨999999999999999998, 0⟩, ⟨-7, 3⟩⟩, .warning,
    "All good: In the 3 | /c:1:2: warning: x".toList⟩

theorem entries_written_disguised :
    disguised.OneLine ∧ disguised.span.start.InFile ∧
      Feedback.entries ['b'] disguised.render = [disguised.keptEntry] :=
  have oneLine : disguised.OneLine := by constructor <;> decide
  have inFile : disguised.span.start.InFile := by constructor <;> decide
  ⟨oneLine, inFile, entries_written ['b'] disguised oneLine inFile⟩

/-- An error before the first line of its file. -/
def beforeFirst : Diagnostic := ⟨⟨"/a".toList, ⟨-1, 0⟩, ⟨-1, 1⟩⟩, .error, ['x']⟩

/-- What is written as line zero is read as the first line. -/
theorem entries_beforeFirst :
    beforeFirst.OneLine ∧
      Feedback.entries "/b".toList beforeFirst.render =
        [⟨"/a".toList, ⟨⟨"/a".toList, ⟨0, 0⟩, ⟨0, 1⟩⟩, .error, "error: x".toList⟩⟩] ∧
      Feedback.entries "/b".toList beforeFirst.render ≠ [beforeFirst.keptEntry] := by
  refine ⟨?_, ?_, ?_⟩
  · constructor <;> decide
  · decide
  · decide

end Diagnostic

end CompilerFeedback
