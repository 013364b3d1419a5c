/-
# CompilerFeedback.Corpus -- made-up output of the compiler

A case is a text in the compiler's format and what a reader of it must find: for
every message, in order, the path in its header, or none for a message without a
header.  Cases are drawn at random: a few module paths, then up to six items, each
a located message, one without location, or a report of success.

Fractions are given by their numerators over `MersenneTwister.Generator.denominator`.
-/
import CompilerFeedback.Draw
import CompilerFeedback.Text.Decimal
import CompilerFeedback.Text.Lines

namespace CompilerFeedback.Corpus

set_option autoImplicit false

/-- A text and the paths of its messages. -/
structure Case where
  text : Text
  files : List (Option Text)
  deriving DecidableEq, Repr

/-! ## Words -/

/-- The words that messages are made of. -/
def vocabulary : List Text :=
  ["variable", "scope", "couldn", "match", "expected", "type", "actual", "instance", "arising",
    "binding", "defined", "unused", "import", "redundant", "pattern"].map String.toList

/-- The words that begin a message without location. -/
def statusWords : List Text :=
  ["Loading", "Reloading", "Compiling", "Ok,", "Interrupted"].map String.toList

/-- The texts that may stand behind the coordinates of a header. -/
def marks : List Text :=
  [" error:", " warning:", " Warning:", " warning: [-Wunused-matches]", ""].map String.toList

/-- The directories that module paths lie in. -/
def directories : List Text := ["", "src/", "test/", "/abs/project/src/"].map String.toList

/-- One to six words. -/
def sentence : Draw Text := do
  let count ← Draw.between 1 6
  let words ← (Draw.choose [] vocabulary).replicate count
  return Text.join [' '] words

/-- A capital letter and one to eight small ones. -/
def moduleName : Draw Text := do
  let capital ← Draw.choose 'A' "ABCDEFGHIJKLMNOPQRSTUVWXYZ".toList
  let count ← Draw.between 1 8
  let letters ← (Draw.choose 'a' "abcdefghijklmnopqrstuvwxyz".toList).replicate count
  return capital :: letters

/-- The path of a module of one to three names. -/
def modulePath : Draw Text := do
  let count ← Draw.between 1 3
  let names ← moduleName.replicate count
  let directory ← Draw.choose [] directories
  return directory ++ Text.join ['/'] names ++ ".hs".toList

/-- A time of day. -/
def clock : Draw Text := do
  let hours ← Draw.between 0 23
  let minutes ← Draw.between 0 59
  let seconds ← Draw.between 0 59
  return Text.join [':'] ([hours, minutes, seconds].map (Text.padded 2))

/-! ## Items -/

/-- Coordinates at a line and a column: a point in half of all cases, then a span in
one line up to eight in ten, else one over lines. -/
def coordinates (line column : Nat) : Draw Text :=
  .fraction fun k =>
    if k < 4503599627370496 then
      return ':' :: Text.ofNat line ++ ':' :: Text.ofNat column ++ [':']
    else if k < 7205759403792794 then do
      let width ← Draw.between 0 20
      return ':' :: Text.ofNat line ++ ':' :: Text.ofNat column ++
        '-' :: Text.ofNat (column + width) ++ [':']
    else do
      let height ← Draw.between 0 9
      let endColumn ← Draw.between 1 80
      return ":(".toList ++ Text.ofNat line ++ ',' :: Text.ofNat column ++ ")-(".toList ++
        Text.ofNat (line + height) ++ ',' :: Text.ofNat endColumn ++ "):".toList

/-- One line of message text. -/
def bodyLine : Draw Text := do
  let bullet ← Draw.choose [] ["".toList, "• ".toList]
  let words ← sentence
  return "    ".toList ++ bullet ++ words

/-- Perhaps a line that names a context: four in ten. -/
def contextLines : Draw (List Text) := do
  if ← Draw.chance 3602879701896397 then
    let words ← sentence
    return ["    • In the expression: ".toList ++ words]
  else return []

/-- Perhaps a citation of a line: five in ten. -/
def citation (line : Nat) : Draw (List Text) := do
  if ← Draw.chance 4503599627370496 then
    let words ← sentence
    return ["  |".toList, Text.ofNat line ++ " | ".toList ++ words, "  | ^^^".toList]
  else return []

/-- The lines of a message about a file. -/
def located (path : Text) : Draw (List Text) := do
  let line ← Draw.between 1 500
  let column ← Draw.between 1 80
  let place ← coordinates line column
  let mark ← Draw.choose [] marks
  let count ← Draw.between 0 3
  let body ← bodyLine.replicate count
  let context ← contextLines
  let cited ← citation line
  return (path ++ place ++ mark) :: body ++ context ++ cited

/-- The lines of a message without location. -/
def unlocated : Draw (List Text) := do
  let status ← Draw.choose [] statusWords
  let words ← sentence
  let count ← Draw.between 0 2
  let body ← sentence.replicate count
  return (status ++ ' ' :: words) :: body.map ("  ".toList ++ ·)

/-- A report of success. -/
def success : Draw (List Text) := do
  let count ← Draw.between 1 40
  let time ← clock
  return ["All good (".toList ++ Text.ofNat count ++ " modules, at ".toList ++ time ++ [')']]

/-- One item: its lines, and what a reader must find.  Seven in ten are about one of the
modules, up to eighty-five in a hundred have no location. -/
def item (modules : List Text) : Draw (List Text × List (Option Text)) :=
  .fraction fun k =>
    if k < 6305039478318694 then do
      let path ← Draw.choose [] modules
      let lines ← located path
      return (lines, [some path])
    else if k < 7656119366529843 then do
      let lines ← unlocated
      return (lines, [none])
    else do
      let lines ← success
      return (lines, [])

/-! ## Cases -/

/-- One case.  The lines end as on Windows in two of ten cases. -/
def oneCase : Draw Case := do
  let moduleCount ← Draw.between 1 4
  let modules ← modulePath.replicate moduleCount
  let itemCount ← Draw.between 0 6
  let items ← (item modules).replicate itemCount
  let windows ← Draw.chance 1801439850948199
  let newline : Text := if windows then ['\r', '\n'] else ['\n']
  return ⟨Text.join newline (items.flatMap (·.1)) ++ newline, items.flatMap (·.2)⟩

/-- Cases drawn one after the other from a generator. -/
def casesFrom (g : MersenneTwister.Generator) : Nat → List Case
  | 0 => []
  | count + 1 => (oneCase.run g).1 :: casesFrom (oneCase.run g).2 count

/-- The cases of a seed; none for a negative count. -/
def cases (seed count : Int) : List Case :=
  casesFrom (MersenneTwister.Generator.ofSeed seed) count.toNat

end CompilerFeedback.Corpus
