/-
# CompilerFeedback.Journal.Template -- templates of journal lines

A template is a text with fields such as `%(message)s`, which are replaced by the parts of a
record.  It is read twice, and not by the same rules.  When the journal is set up, a field has
to stand somewhere in it (`hasField`).  When a line is laid out, all of it is cut into
characters and specifiers (`pieces?`), where `%%` is a percent sign.  Some fields are no good
as specifiers, and some specifiers are no fields, such as those without a name.

A specifier is a percent sign, a name in brackets, flags, a width, a precision behind a point
and the letter of a conversion; all but the first and the last may be missing.  A field may
have a star for a width or a precision; as a specifier it has the star for its letter, which
is the letter of no conversion.
-/
import CompilerFeedback.Text.Decimal
import CompilerFeedback.Text.DecimalDigit
import CompilerFeedback.Text.WordCharacter

namespace CompilerFeedback.Template

set_option autoImplicit false

/-! ## Fields -/

/-- Whether `c` is a flag of a specifier. -/
def isFlag (c : Char) : Bool := ['#', '0', '+', ' ', '-'].contains c

/-- Whether a field can end in `c`: in the letter of a conversion, of whatever case, or in a
percent sign.  Three letters are there because their other case is one of these. -/
def endsField (c : Char) : Bool := "diouxefgcrsa%DIOUXEFGCRSAİıſ".toList.contains c

/-- What follows a width, which may be missing. -/
def dropMeasure (t : Text) : Text :=
  match t with
  | '*' :: rest => rest
  | t => t.dropWhile Text.isDecimalDigit

/-- What follows a precision, which may be missing. -/
def dropPrecision (t : Text) : Text :=
  match t with
  | '.' :: '*' :: rest => rest
  | '.' :: c :: rest =>
      if Text.isDecimalDigit c then rest.dropWhile Text.isDecimalDigit else '.' :: c :: rest
  | t => t

/-- Whether a text begins with a field: its name, which is a word, flags, width, precision and
conversion. -/
def beginsWithField (t : Text) : Bool :=
  match t with
  | '%' :: '(' :: name =>
      match name.dropWhile Text.isWordCharacter with
      | ')' :: rest =>
          !(name.takeWhile Text.isWordCharacter).isEmpty &&
            (dropPrecision (dropMeasure (rest.dropWhile isFlag))).head?.any endsField
      | _ => false
  | _ => false

/-- Whether a field stands somewhere in the text. -/
def hasField : Text → Bool
  | [] => false
  | c :: t => beginsWithField (c :: t) || hasField t

/-! ## Specifiers -/

/-- A specifier. -/
structure Specifier where
  name : Option Text
  flags : Text
  width : Nat
  precision : Option Nat
  conversion : Char
  deriving DecidableEq, Repr

/-- A name up to the bracket that closes it, and what follows; `depth` is the number of brackets
that are open inside it. -/
def name? (depth : Nat) : Text → Option (Text × Text)
  | [] => none
  | c :: t =>
      if c = ')' ∧ depth = 0 then some ([], t)
      else
        (name? (if c = '(' then depth + 1 else if c = ')' then depth - 1 else depth) t).map
          fun read => (c :: read.1, read.2)

/-- A precision at the start of a text, if there is one, and what follows. -/
def precision (t : Text) : Option Nat × Text :=
  match t with
  | '.' :: digits => (some (Text.toNat (Text.takeDigits digits)), Text.dropDigits digits)
  | t => (none, t)

/-- What follows a letter that tells the size of a number and means nothing. -/
def dropSize (t : Text) : Text :=
  match t with
  | c :: rest => if c = 'h' ∨ c = 'l' ∨ c = 'L' then rest else c :: rest
  | [] => []

/-- A specifier from its flags on, and what follows. -/
def behindName? (name : Option Text) (t : Text) : Option (Specifier × Text) :=
  let afterFlags := t.dropWhile isFlag
  let precision := precision (Text.dropDigits afterFlags)
  match dropSize precision.2 with
  | [] => none
  | c :: rest =>
      some (⟨name, t.takeWhile isFlag, Text.toNat (Text.takeDigits afterFlags), precision.1, c⟩, rest)

/-- The specifier behind a percent sign, and what follows. -/
def specifier? (t : Text) : Option (Specifier × Text) :=
  match t with
  | '(' :: rest => (name? 0 rest).bind fun read => behindName? (some read.1) read.2
  | t => behindName? none t

/-- A part of a template. -/
inductive Piece where
  | char (c : Char)
  | specifier (s : Specifier)
  deriving DecidableEq, Repr

/-- The parts of a template, but for its first `skip` characters, which are left out; `none` if
a specifier is incomplete. -/
def piecesFrom? : Nat → Text → Option (List Piece)
  | _, [] => some []
  | skip + 1, _ :: t => piecesFrom? skip t
  | 0, c :: t =>
      if c ≠ '%' then (piecesFrom? 0 t).map (.char c :: ·)
      else if t.head? = some '%' then (piecesFrom? 1 t).map (.char '%' :: ·)
      else
        (specifier? t).bind fun read =>
          (piecesFrom? (t.length - read.2.length) t).map (.specifier read.1 :: ·)

/-- The parts of a template. -/
def pieces? (template : Text) : Option (List Piece) := piecesFrom? 0 template

end CompilerFeedback.Template
