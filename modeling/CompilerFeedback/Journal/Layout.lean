/-
# CompilerFeedback.Journal.Layout -- lines of the journal

A template is filled in piece by piece.  A specifier converts the field of its name.  One
without a name converts the value at hand, which is the whole record at first, and which any
specifier uses up.  Where a field is not there, no value is at hand or it cannot be converted,
there is no line.

Five fields of a record are known here: its time, name, level by word and by number, and
message.  What a line may depend on besides is part of its `Context`: the other fields, the
form of whole numbers as floating-point ones, and what is written in the place of a line that
cannot be laid out.
-/
import CompilerFeedback.Journal.Template
import CompilerFeedback.Text.Quoted

namespace CompilerFeedback

set_option autoImplicit false

/-- A message with its level and the name it was logged under. -/
structure Record where
  name : Text
  level : Int
  message : Text
  deriving DecidableEq, Repr

/-- The name of a level: six have a word, any other its number. -/
def Record.levelName (level : Int) : Text :=
  if level = 10 then "DEBUG".toList
  else if level = 20 then "INFO".toList
  else if level = 30 then "WARNING".toList
  else if level = 40 then "ERROR".toList
  else if level = 50 then "CRITICAL".toList
  else if level = 0 then "NOTSET".toList
  else "Level ".toList ++ Text.ofInt level

namespace Template

/-! ## Shapes -/

/-- How a value is to be laid out. -/
structure Shape where
  flags : Text
  /-- The least length. -/
  width : Nat
  /-- The greatest length of a text, the least number of digits of a number. -/
  precision : Option Nat
  conversion : Char
  deriving DecidableEq, Repr

namespace Shape

/-- As many of a character as something of the given length is too short. -/
def filling (shape : Shape) (mark : Char) (length : Nat) : Text :=
  List.replicate (shape.width - length) mark

/-- A text that counts as so many characters, with blanks. -/
def pad (shape : Shape) (length : Nat) (t : Text) : Text :=
  if shape.flags.contains '-' then t ++ shape.filling ' ' length
  else shape.filling ' ' length ++ t

/-- A text, cut and with blanks. -/
def text (shape : Shape) (t : Text) : Text :=
  let cut := (shape.precision.map t.take).getD t
  shape.pad cut.length cut

/-- The sign of a number. -/
def sign (shape : Shape) (i : Int) : Text :=
  if i < 0 then ['-']
  else if shape.flags.contains '+' then ['+']
  else if shape.flags.contains ' ' then [' ']
  else []

/-- A whole number by its digits, with what stands before them behind the sign; zeros go
between, blanks do not. -/
def number (shape : Shape) (i : Int) (mark digits : Text) : Text :=
  let digits := List.replicate (shape.precision.getD 0 - digits.length) '0' ++ digits
  let before := shape.sign i ++ mark
  let length := before.length + digits.length
  if shape.flags.contains '0' && !shape.flags.contains '-' then
    before ++ shape.filling '0' length ++ digits
  else shape.pad length (before ++ digits)

/-- What stands before the digits, if it is asked for. -/
def mark (shape : Shape) (t : Text) : Text := if shape.flags.contains '#' then t else []

/-- The character of a number; half of a surrogate pair is escaped on its way out. -/
def character? (shape : Shape) (i : Int) : Option Text :=
  if i < 0 ∨ 0x110000 ≤ i then none
  else if 0xD800 ≤ i ∧ i < 0xE000 then some (shape.pad 1 ('\\' :: 'u' :: Text.hex 4 i.toNat))
  else some (shape.pad 1 [Char.ofNat i.toNat])

end Shape

/-! ## Values -/

/-- What a field holds. -/
inductive Value where
  | text (t : Text)
  | number (i : Int)
  /-- Neither, known by how it is laid out. -/
  | other (lay : Shape → Option Text)

/-- What a line depends on besides its record and its template. -/
structure Context where
  /-- The time of the record. -/
  time : Text
  /-- The other fields of the record. -/
  others : Text → Option Value
  /-- The whole record as one value. -/
  all : Value
  /-- A whole number in a floating-point form. -/
  real : Shape → Int → Option Text
  /-- What is written where a record cannot be laid out by a template. -/
  report : Record → Text → Text

/-- A context of which nothing but the time is known. -/
def Context.ofTime (time : Text) : Context :=
  ⟨time, fun _ => none, .other fun _ => none, fun _ _ => none, fun _ _ => []⟩

/-- A quoted text with all but ASCII by number. -/
def quotedAscii (t : Text) : Text :=
  (Text.quoted t).flatMap fun c => if c.toNat < 0x80 then [c] else Text.escapeNumber c

/-- A text, converted. -/
def convertText (shape : Shape) (t : Text) : Option Text :=
  match shape.conversion, t with
  | 's', t => some (shape.text t)
  | 'r', t => some (shape.text (Text.quoted t))
  | 'a', t => some (shape.text (quotedAscii t))
  | 'c', [c] => some (shape.pad 1 [c])
  | _, _ => none

/-- The greatest number of digits that can be asked for. -/
def greatestDigits : Nat := 2147483644

/-- A whole number, converted. -/
def convertNumber (context : Context) (shape : Shape) (i : Int) : Option Text :=
  let whole (mark : Text) (digits : Text) : Option Text :=
    if shape.precision.getD 0 ≤ greatestDigits then some (shape.number i mark digits) else none
  match shape.conversion with
  | 's' | 'r' | 'a' => some (shape.text (Text.ofInt i))
  | 'd' | 'i' | 'u' => whole [] (Nat.toDigits 10 i.natAbs)
  | 'o' => whole (shape.mark ['0', 'o']) (Nat.toDigits 8 i.natAbs)
  | 'x' => whole (shape.mark ['0', 'x']) (Nat.toDigits 16 i.natAbs)
  | 'X' => whole (shape.mark ['0', 'X']) ((Nat.toDigits 16 i.natAbs).map Char.toUpper)
  | 'e' | 'E' | 'f' | 'F' | 'g' | 'G' => context.real shape i
  | 'c' => shape.character? i
  | _ => none

/-- A value, converted. -/
def Value.convert (context : Context) (shape : Shape) : Value → Option Text
  | .text t => convertText shape t
  | .number i => convertNumber context shape i
  | .other lay => lay shape

/-! ## Filling in -/

/-- The field of a record. -/
def field? (context : Context) (record : Record) (name : Text) : Option Value :=
  if name = "asctime".toList then some (.text context.time)
  else if name = "name".toList then some (.text record.name)
  else if name = "levelname".toList then some (.text (Record.levelName record.level))
  else if name = "levelno".toList then some (.number record.level)
  else if name = "message".toList then some (.text record.message)
  else context.others name

/-- The greatest width. -/
def greatestWidth : Nat := 9223372036854775807

/-- The greatest precision. -/
def greatestPrecision : Nat := 2147483647

/-- How a specifier has its value laid out, unless a number of it is too large. -/
def Specifier.shape? (s : Specifier) : Option Shape :=
  if s.width ≤ greatestWidth ∧ s.precision.getD 0 ≤ greatestPrecision then
    some ⟨s.flags, s.width, s.precision, s.conversion⟩
  else none

/-- What a specifier is replaced by, where `hand` is the value at hand. -/
def Specifier.convert? (context : Context) (record : Record) (hand : Option Value)
    (s : Specifier) : Option Text := do
  let value ← match s.name with
    | none => hand
    | some name => field? context record name
  value.convert context (← s.shape?)

/-- The pieces of a template, filled in. -/
def fillPieces? (context : Context) (record : Record) :
    Option Value → List Piece → Option Text
  | _, [] => some []
  | hand, .char c :: pieces => (fillPieces? context record hand pieces).map (c :: ·)
  | hand, .specifier s :: pieces =>
      (s.convert? context record hand).bind fun shown =>
        (fillPieces? context record none pieces).map (shown ++ ·)

/-- A template, filled in. -/
def fill? (context : Context) (record : Record) (template : Text) : Option Text :=
  (pieces? template).bind (fillPieces? context record (some context.all))

end Template

end CompilerFeedback
