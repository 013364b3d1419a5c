/-
# CompilerFeedback.Feedback -- the output of the compiler, read

The output is cut into lines and blocks, every block is cleaned and gives at most
one entry, and the entries are grouped by file.  No text is refused: what carries
no location is filed under the base directory.

`Feedback.remarks` lists what is noted for the journal while a text is read.
-/
import CompilerFeedback.Entry
import CompilerFeedback.Group
import CompilerFeedback.Text.Quoted

namespace CompilerFeedback.Feedback

set_option autoImplicit false

/-- The blocks of a text. -/
def blocks (text : Text) : List Block := Block.split (Text.lines text)

/-- The entries of a text, in the order of its blocks. -/
def entries (base text : Text) : List Entry :=
  (blocks text).filterMap fun block => Entry.ofBlock? base (Block.clean block)

/-- The diagnostics of a text by file. -/
def groups (base text : Text) : List Group :=
  Group.aggregate ((entries base text).map fun e => ⟨e.location, [e.diagnostic]⟩)

/-- Whether some entry of a text depends on the base directory. -/
def needsBase (text : Text) : Bool :=
  (blocks text).any fun block => Entry.needsBase (Block.clean block)

/-! ## Remarks for the journal -/

/-- The remark on a cleaned block, if its opening line has no header. -/
def blockRemark? (block : Block) : Option Text :=
  match Block.dedent block with
  | [] => none
  | opening :: _ =>
      match Opening.ofLine opening with
      | .unlocated => some ("unlocated block starting with ".toList ++ Text.quoted opening)
      | _ => none

/-- The remark that sums a text up. -/
def summary (blocks diagnostics : Nat) : Text :=
  "parsed ".toList ++ Text.ofNat blocks ++ " blocks into ".toList ++ Text.ofNat diagnostics ++
    " diagnostics".toList

/-- The remarks on some blocks, in order. -/
def blockRemarks (blocks : List Block) : List Text :=
  blocks.filterMap fun block => blockRemark? (Block.clean block)

/-- What is noted while a text is read, in order. -/
def remarks (base text : Text) : List Text :=
  blockRemarks (blocks text) ++ [summary (blocks text).length (entries base text).length]

/-- The blocks up to the first whose entry depends on the base directory, that one
included. -/
def throughBase : List Block → List Block
  | [] => []
  | block :: rest =>
      if Entry.needsBase (Block.clean block) then [block] else block :: throughBase rest

/-- What is noted while a text is read that needs a base directory, and there is none:
reading stops at the first entry that depends on it. -/
def remarksWithoutBase (text : Text) : List Text := blockRemarks (throughBase (blocks text))

end CompilerFeedback.Feedback
