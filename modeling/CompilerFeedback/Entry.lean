/-
# CompilerFeedback.Entry -- from a message to its diagnostic

Every block but a success message gives one entry: the file and the diagnostic.
A block whose opening line carries a header is *located*.  Its first message
line is what follows the header; a severity mark is taken off, and an empty one
is left out.  Any other block is *unlocated*: all its lines are the message, and
it is filed under the base directory, as that was given.
-/
import CompilerFeedback.Block
import CompilerFeedback.Diagnostic
import CompilerFeedback.Header
import CompilerFeedback.Path
import CompilerFeedback.Text.Lines

namespace CompilerFeedback

set_option autoImplicit false

/-- A diagnostic and the path of the file it is filed under. -/
structure Entry where
  location : Text
  diagnostic : Diagnostic
  deriving DecidableEq, Repr

/-- What the opening line of a block, its indentation taken off, says. -/
inductive Opening where
  /-- The compiler reports success. -/
  | success
  /-- A header, and the rest of the line. -/
  | located (header : Header) (rest : Text)
  /-- Anything else. -/
  | unlocated
  deriving DecidableEq, Repr

namespace Opening

/-- The words that begin a report of success. -/
def successMarker : Text := "All good".toList

/-- The reading of an opening line. -/
def ofLine (line : Line) : Opening :=
  if Text.startsWith successMarker line then .success
  else
    match Header.scan? line with
    | some (header, rest) => .located header rest
    | none => .unlocated

end Opening

namespace Entry

/-- The entry of a block without header: all its lines, at the base directory. -/
def unlocated (base : Text) (lines : List Line) : Entry :=
  ⟨base, ⟨.top base, .error, Text.unlines lines⟩⟩

/-- The message lines of a located block: the rest of the opening line, unless it
is empty, before the body. -/
def messageLines (first : Text) (body : List Line) : List Line :=
  if first = [] then body else first :: body

/-- The entry of a block with a header. -/
def located (base : Text) (header : Header) (rest : Text) (body : List Line) : Entry :=
  let file := Path.resolve base header.path
  let message := Severity.split (Text.trim rest)
  ⟨file, ⟨header.span file, message.1, Text.unlines (Block.dedent (messageLines message.2 body))⟩⟩

/-- The entry of a block, taken as it is; `none` for a report of success. -/
def ofBlock? (base : Text) (block : Block) : Option Entry :=
  match Block.dedent block with
  | [] => none
  | opening :: body =>
      match Opening.ofLine opening with
      | .success => none
      | .located header rest => some (located base header rest body)
      | .unlocated => some (unlocated base (opening :: body))

/-- Whether the entry of a block depends on the base directory. -/
def needsBase (block : Block) : Bool :=
  match Block.dedent block with
  | [] => false
  | opening :: _ =>
      match Opening.ofLine opening with
      | .success => false
      | .located header _ => !Path.isRooted header.path
      | .unlocated => true

end Entry

end CompilerFeedback
