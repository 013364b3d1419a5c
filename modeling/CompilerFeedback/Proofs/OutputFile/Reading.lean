/-
# CompilerFeedback.Proofs.OutputFile.Reading -- a text and the file that holds it

A text that is written to a file comes back changed: in the file a carriage return is
a line break, in the text it is nothing.  The two give the same diagnostics as long as
every run of carriage returns stands beside a line feed or at an end of the text, for
then both have the same lines (`Text.lines_normalizeNewlines_eq_iff`), and diagnostics
are read off the lines.

* `readPath_encode`: what is read from a file that holds a text.
* `locate_of_rooted`: a path from the root stands for its collapsed form, which leads
  to the same file.
* `reading_agrees`: the comparison, for the workspace's own file and for a named one.
-/
import CompilerFeedback.OutputFile.Load
import CompilerFeedback.Proofs.Feedback
import CompilerFeedback.Proofs.FileSystem.Walk
import CompilerFeedback.Proofs.Path
import CompilerFeedback.Proofs.Text.Returns
import CompilerFeedback.Proofs.Text.Utf8

namespace CompilerFeedback

set_option autoImplicit false

/-! ## Paths from the root -/

namespace Host

theorem expand_of_rooted (host : Host) {p : Path} (rooted : p.root ≠ .relative) :
    host.expand p = .ok p := by
  unfold expand
  split
  · rename_i relative _
    exact absurd relative rooted
  · rfl

theorem absolute_of_rooted (host : Host) {p : Path} (rooted : p.root ≠ .relative)
    (clean : FileSystem.hasNull p.names = false) :
    host.absolute p = .ok (Path.collapse ⟨.absolute, p.names⟩) := by
  have names : host.namesFromRoot p = p.names := if_neg rooted
  rw [absolute, names, if_neg (by simp [clean]), if_neg (by simp [rooted])]

end Host

namespace OutputFile

variable {fs : FileSystem} {working : Place} {host : Host} {t written : Text}

theorem locate_of_rooted (rooted : Path.isRooted written)
    (clean : FileSystem.hasNull (Path.ofText written).names = false) :
    locate host written = .ok (Path.collapse ⟨.absolute, (Path.ofText written).names⟩) := by
  have root := Path.root_of_isRooted rooted
  rw [locate, host.expand_of_rooted root]
  exact host.absolute_of_rooted root clean

/-! ## Reading -/

theorem textOf_encode (t : Text) : textOf (Text.Utf8.encode t) = Text.normalizeNewlines t := by
  rw [textOf, Text.Utf8.decode_encode]

theorem readPath_encode {p : Path} (held : fs.read working p = .ok (Text.Utf8.encode t)) :
    readPath fs working p = .ok (Text.normalizeNewlines t) := by
  rw [readPath, held, ← textOf_encode]
  rfl

theorem load_of_rooted {read : Path → Except FileSystem.Fault Bytes} {content : Bytes}
    (rooted : Path.isRooted written)
    (clean : FileSystem.hasNull (Path.ofText written).names = false)
    (held : read (Path.collapse ⟨.absolute, (Path.ofText written).names⟩) = .ok content) :
    load host read written =
      .ok ⟨Path.collapse ⟨.absolute, (Path.ofText written).names⟩, textOf content⟩ := by
  rw [load, locate_of_rooted rooted clean]
  simp only [held, textOrFailure]

theorem groups_normalizeNewlines (base : Text) (atBreaks : Text.ReturnsAtBreaks t) :
    Feedback.groups base (Text.normalizeNewlines t) = Feedback.groups base t :=
  Feedback.groups_eq_of_lines base ((Text.lines_normalizeNewlines_eq_iff t).mpr atBreaks)

theorem diagnostics_encode {file : OutputFile} (base : Text) (atBreaks : Text.ReturnsAtBreaks t)
    (held : fs.read working file.path = .ok (Text.Utf8.encode t)) :
    diagnostics fs working file base = .ok (Feedback.groups base t) := by
  rw [diagnostics, readText, readPath_encode held, ← groups_normalizeNewlines base atBreaks]
  rfl

theorem parse_encode (base : Text) (atBreaks : Text.ReturnsAtBreaks t)
    (rooted : Path.isRooted written)
    (held : fs.read host.working (Path.ofText written) = .ok (Text.Utf8.encode t)) :
    parse fs host written (some base) = .ok (Feedback.groups base t) := by
  have there := FileSystem.read_collapse (Path.root_of_isRooted rooted) held
  have clean := FileSystem.hasNull_of_read held
  rw [parse, load_of_rooted rooted clean there, textOf_encode, ← groups_normalizeNewlines base atBreaks]
  rfl

/-- **A file is read as its text, as far as carriage returns allow.**  The text that is read
from a file has the lines of the text that the file holds if and only if no run of carriage
returns stands inside a line.  The diagnostics are then those of the text, whether the file
is the workspace's own or is named by a path from the root. -/
theorem reading_agrees (fs : FileSystem) (working : Place) (t : Text) :
    (∀ p, fs.read working p = .ok (Text.Utf8.encode t) →
        ∃ r, readPath fs working p = .ok r ∧
          (Text.lines r = Text.lines t ↔ Text.ReturnsAtBreaks t)) ∧
      (Text.ReturnsAtBreaks t → ∀ base,
        (∀ file : OutputFile, fs.read working file.path = .ok (Text.Utf8.encode t) →
          diagnostics fs working file base = .ok (Feedback.groups base t)) ∧
        (∀ host written, host.working = working → Path.isRooted written →
          fs.read working (Path.ofText written) = .ok (Text.Utf8.encode t) →
            parse fs host written (some base) = .ok (Feedback.groups base t))) := by
  constructor
  · intro p held
    exact ⟨_, readPath_encode held, Text.lines_normalizeNewlines_eq_iff t⟩
  · intro atBreaks base
    constructor
    · intro file held
      exact diagnostics_encode base atBreaks held
    · rintro host written rfl rooted held
      exact parse_encode base atBreaks rooted held

/-- A directory with an output file: line breaks of three kinds, and characters of two and
of four bytes. -/
def storedText : Text := "\rÄ.hs:1:2: e\r\r\n B.hs\n\r  😀\r".toList

def storedFiles : FileSystem :=
  ⟨[(["d".toList], .directory), (["d".toList, "out".toList], .file (Text.Utf8.encode storedText))]⟩

def storedHost : Host := ⟨["d".toList], false, none, [], 0⟩

theorem reading_agrees_stored :
    storedFiles.read ["d".toList] ⟨.relative, ["out".toList]⟩ = .ok (Text.Utf8.encode storedText) ∧
      Path.isRooted "//d/../d/./out".toList ∧
      storedFiles.read ["d".toList] (Path.ofText "//d/../d/./out".toList) =
        .ok (Text.Utf8.encode storedText) ∧
      Text.ReturnsAtBreaks storedText ∧
      (∃ r, readPath storedFiles ["d".toList] ⟨.relative, ["out".toList]⟩ = .ok r ∧
        (Text.lines r = Text.lines storedText ↔ Text.ReturnsAtBreaks storedText)) ∧
      diagnostics storedFiles ["d".toList] ⟨[], ⟨.relative, ["out".toList]⟩⟩ ['/'] =
        .ok (Feedback.groups ['/'] storedText) ∧
      parse storedFiles storedHost "//d/../d/./out".toList (some ['/']) =
        .ok (Feedback.groups ['/'] storedText) :=
  have near : storedFiles.read ["d".toList] ⟨.relative, ["out".toList]⟩ =
      .ok (Text.Utf8.encode storedText) := by rfl
  have far : storedFiles.read ["d".toList] (Path.ofText "//d/../d/./out".toList) =
      .ok (Text.Utf8.encode storedText) := by rfl
  have rooted : Path.isRooted "//d/../d/./out".toList := by decide
  have atBreaks : Text.ReturnsAtBreaks storedText :=
    (Text.lines_normalizeNewlines_eq_iff storedText).mp (by decide)
  have agrees := reading_agrees storedFiles ["d".toList] storedText
  ⟨near, rooted, far, atBreaks, agrees.1 _ near, (agrees.2 atBreaks ['/']).1 ⟨[], _⟩ near,
    (agrees.2 atBreaks ['/']).2 storedHost _ rfl rooted far⟩

end OutputFile

end CompilerFeedback
