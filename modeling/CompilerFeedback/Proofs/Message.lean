/-
# CompilerFeedback.Proofs.Message -- messages as the compiler writes them

A message is an extent of a file, a severity, a first line and a body, and perhaps a
tail: the source that the compiler echoes, which a reader leaves out.  Its written
form is one line with the header, the severity and the first line, then the lines
of the body and of the tail.

Reading undoes writing (`entries_render`): from the written forms of any messages,
one after the other, come their entries, in order, with nothing added or lost.  The
conditions on a message (`Message.Canonical`) are those under which its parts can
be told apart: a path that ends at its colon, a body that is indented, a tail that
starts with noise.
-/
import CompilerFeedback.Proofs.Feedback

namespace CompilerFeedback

set_option autoImplicit false

/-! ## Messages -/

/-- What a message points at, counted from one. -/
inductive Extent where
  | point (line column : Nat)
  | columns (line column endColumn : Nat)
  | region (line column endLine endColumn : Nat)
  deriving DecidableEq, Repr

namespace Extent

/-- The numbers of an extent. -/
def numbers : Extent → List Nat
  | .point line column => [line, column]
  | .columns line column endColumn => [line, column, endColumn]
  | .region line column endLine endColumn => [line, column, endLine, endColumn]

/-- The numbers in decimal. -/
def coordinates : Extent → Coordinates
  | .point line column => .point (Text.ofNat line) (Text.ofNat column)
  | .columns line column endColumn =>
      .columns (Text.ofNat line) (Text.ofNat column) (Text.ofNat endColumn)
  | .region line column endLine endColumn =>
      .region (Text.ofNat line) (Text.ofNat column) (Text.ofNat endLine) (Text.ofNat endColumn)

/-- The range of an extent: counted from zero, but for the column where it stops. -/
def span (file : Text) : Extent → Span
  | .point line column => ⟨file, ⟨line - 1, column - 1⟩, ⟨line - 1, column⟩⟩
  | .columns line column endColumn => ⟨file, ⟨line - 1, column - 1⟩, ⟨line - 1, endColumn⟩⟩
  | .region line column endLine endColumn =>
      ⟨file, ⟨line - 1, column - 1⟩, ⟨endLine - 1, endColumn⟩⟩

end Extent

/-- A message about an extent of a file. -/
structure Message where
  path : Text
  extent : Extent
  severity : Severity
  /-- The message text on the line of the header. -/
  first : Text
  body : List Line
  /-- What the compiler echoes after the message text. -/
  tail : List Line
  deriving DecidableEq, Repr

namespace Message

/-- What stands between the coordinates and the first line of a message. -/
def mark : Severity → Text
  | .error => [' ']
  | .warning => " warning: ".toList

def header (m : Message) : Header := ⟨m.path, m.extent.coordinates⟩

/-- The lines of a message, as the compiler writes them. -/
def lines (m : Message) : List Line :=
  (m.header.render ++ (mark m.severity ++ m.first)) :: (m.body ++ m.tail)

/-- The message text: a body with nothing before it loses its indentation. -/
def text (m : Message) : Text :=
  Text.unlines (if m.first = [] then Block.dedent m.body else m.first :: m.body)

/-- What a reader in the directory `base` makes of a message. -/
def entry (base : Text) (m : Message) : Entry :=
  let file := Path.resolve base m.path
  ⟨file, m.extent.span file, m.severity, m.text⟩

/-- Messages that can be read back. -/
structure Canonical (m : Message) : Prop where
  pathHeld : m.path ≠ []
  pathUnbroken : Text.Unbroken m.path
  pathNoBar : '|' ∉ m.path
  pathStart : m.path.head?.any Text.isBlank = false
  pathNoSuccess : Text.startsWith Opening.successMarker m.path = false
  pathColons : Header.HasDriveColonOnly m.path
  numbers : ∀ n ∈ m.extent.numbers, 1 ≤ n ∧ n ≤ Coordinates.largest
  firstUnbroken : Text.Unbroken m.first
  firstTrimmed : Text.trim m.first = m.first
  /-- An error does not look like a warning. -/
  firstUnmarked : m.severity = .error → ':' ∈ m.first →
    Text.lower (Text.before ':' m.first) ≠ "warning".toList
  bodyUnbroken : ∀ line ∈ m.body, Text.Unbroken line
  bodyIndented : ∀ line ∈ m.body, line.head?.any Text.isBlank
  bodyQuiet : ∀ line ∈ m.body, Line.isNoise line = false
  tailUnbroken : ∀ line ∈ m.tail, Text.Unbroken line
  tailNoise : m.tail.head?.all Line.isNoise
  tailContinues : ∀ line ∈ m.tail, Line.isContinuation line

/-! ## The parts are told apart -/

theorem isWritten_coordinates (p : Extent) : p.coordinates.IsWritten := by
  cases p <;> simp [Extent.coordinates, Coordinates.IsWritten, Text.isDigits_ofNat]

/-- The numbers of an extent are those its coordinates denote. -/
theorem span_coordinates {p : Extent} (numbers : ∀ n ∈ p.numbers, 1 ≤ n ∧ n ≤ Coordinates.largest)
    (file : Text) : (⟨file, p.coordinates.start, p.coordinates.stop⟩ : Span) = p.span file := by
  have back : ∀ n ∈ p.numbers, Coordinates.number (Text.ofNat n) = n := fun n member =>
    Coordinates.number_ofNat (numbers n member).2
  have counted : ∀ n : Nat, 1 ≤ n → max ((n : Int) - 1) 0 = n - 1 := by omega
  cases p <;> simp only [Extent.numbers, List.forall_mem_cons] at numbers back <;>
    simp only [Extent.coordinates, Extent.span, Coordinates.start, Coordinates.stop,
      Position.ofOneBased, numbers, back, counted]

/-- The mark of a severity is told from the first line. -/
theorem split_mark_append {m : Message} (canonical : m.Canonical) :
    Severity.split (Text.trim (mark m.severity ++ m.first)) = (m.severity, m.first) := by
  have trimmed := canonical.firstTrimmed
  cases severity : m.severity with
  | error =>
      have whole : Text.trim (mark .error ++ m.first) = m.first :=
        (Text.trim_cons_of_isBlank (by decide) m.first).trans trimmed
      rw [whole, Severity.split]
      split
      · rename_i rest found
        have colon : ':' ∈ m.first := by
          rw [← Text.before_append_after found]
          simp
        have unmarked : Text.lower (Text.before ':' m.first) ≠ Severity.warning.name :=
          canonical.firstUnmarked severity colon
        rw [if_neg unmarked]
      · rfl
  | warning =>
      obtain ⟨t, cut, inside⟩ := Severity.trim_name_append .warning trimmed
      have whole : Text.trim (mark .warning ++ m.first) = Severity.warning.name ++ ':' :: t :=
        (Text.trim_cons_of_isBlank (by decide) _).trans cut
      rw [whole, Severity.split_append (by decide), if_pos (by decide), inside]

/-! ## Reading undoes writing -/

theorem opensMessage_header {m : Message} (canonical : m.Canonical) : m.header.OpensMessage where
  written := isWritten_coordinates m.extent
  held := canonical.pathHeld
  start := canonical.pathStart
  noBar := canonical.pathNoBar
  colons := canonical.pathColons
  noSuccess := canonical.pathNoSuccess

/-- A message can be written into a text, and is one block of it. -/
theorem separable_lines {m : Message} (canonical : m.Canonical) : Block.Separable m.lines := by
  have opens := opensMessage_header canonical
  have unbroken : Text.Unbroken (m.header.render ++ (mark m.severity ++ m.first)) := by
    have coordinates := Coordinates.unbroken_render (isWritten_coordinates m.extent)
    have severity : Text.Unbroken (mark m.severity) := by cases m.severity <;> decide
    simp only [header, Header.render, Text.unbroken_append]
    exact ⟨⟨canonical.pathUnbroken, coordinates⟩, severity, canonical.firstUnbroken⟩
  have body : Block.Follow m.body := fun line member =>
    ⟨canonical.bodyUnbroken line member,
      Line.isContinuation_of_blank (canonical.bodyIndented line member)⟩
  have tail : Block.Follow m.tail := fun line member =>
    ⟨canonical.tailUnbroken line member, canonical.tailContinues line member⟩
  exact Block.separable_cons unbroken (opens.ne_nil _) (opens.not_isContinuation _) (body.append tail)

/-- One message is read back. -/
theorem ofBlock?_lines (base : Text) {m : Message} (canonical : m.Canonical) :
    Entry.ofBlock? base (Block.clean m.lines) = some (m.entry base) := by
  have ends : (mark m.severity ++ m.first).head?.all Text.isBlank := by
    cases m.severity <;> rfl
  have contributed : Entry.contribution (mark m.severity ++ m.first) = m.first := by
    rw [Entry.contribution, split_mark_append canonical]
  have start : m.first.head?.any Text.isBlank = false :=
    contributed ▸ Entry.head?_contribution _
  rw [lines, Entry.ofBlock?_clean_render base (opensMessage_header canonical) ends
    canonical.bodyQuiet canonical.tailNoise]
  simp only [Entry.located, entry, text, split_mark_append canonical, Header.span, header,
    Entry.dedent_messageLines start, span_coordinates canonical.numbers]

/-- **Reading undoes writing.**  Any messages that can be read back are read back from
their written forms, one after the other, whatever line breaks join and end them. -/
theorem entries_render (base : Text) (messages : List Message) (newline ending : Text)
    (canonical : ∀ m ∈ messages, m.Canonical) (breaks : Text.AllBreaks newline)
    (feed : '\n' ∈ newline) (ended : Text.AllBreaks ending) :
    Feedback.entries base (Text.join newline (messages.flatMap Message.lines) ++ ending) =
      messages.map (Message.entry base) := by
  have separable : ∀ block ∈ messages.map Message.lines, Block.Separable block := by
    intro block member
    obtain ⟨m, inMessages, rfl⟩ := List.mem_map.mp member
    exact separable_lines (canonical m inMessages)
  rw [List.flatMap_def, Feedback.entries_join base separable breaks feed ended, List.filterMap_map,
    ← List.filterMap_eq_map]
  exact List.filterMap_congr fun m member => ofBlock?_lines base (canonical m member)

/-- A warning on a drive with echoed source, and an error that has its text in the body. -/
def twoMessages : List Message :=
  [⟨"C:\\x.hs".toList, .region 3 4 5 6, .warning, "unused".toList,
      ["    • Bind: 'a'".toList, "      b".toList], ["  |".toList, "3 | f x".toList]⟩,
    ⟨['y'], .columns 12 5 9, .error, [], ["    Not in scope".toList, "      z".toList], []⟩]

theorem entries_render_two :
    (∀ m ∈ twoMessages, m.Canonical) ∧ Text.AllBreaks ['\r', '\n'] ∧
      '\n' ∈ ['\r', '\n'] ∧ Text.AllBreaks [] ∧
      Feedback.entries "/w".toList (Text.join ['\r', '\n'] (twoMessages.flatMap lines) ++ []) =
        twoMessages.map (entry "/w".toList) :=
  have canonical : ∀ m ∈ twoMessages, m.Canonical := by
    intro m member
    obtain rfl | rfl : m = _ ∨ m = _ := by simpa [twoMessages] using member
    · constructor <;> decide
    · constructor <;> decide
  have breaks : Text.AllBreaks ['\r', '\n'] := by decide
  have ended : Text.AllBreaks [] := by decide
  ⟨canonical, breaks, by decide, ended,
    entries_render _ twoMessages _ [] canonical breaks (by decide) ended⟩

end Message

end CompilerFeedback
