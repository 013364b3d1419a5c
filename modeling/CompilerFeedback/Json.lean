/-
# CompilerFeedback.Json -- JSON with two spaces of indentation

Every element of an array and every member of an object stands on a line of its
own, two spaces further in than the brackets; an empty array is `[]`.  All output
is printable ASCII: other characters are written by their UTF-16 units in four digits of
base sixteen, as are control characters without a short one.

A value is laid out at a depth, the number of brackets around it.
-/
import CompilerFeedback.Text.Decimal
import CompilerFeedback.Text.Hex

namespace CompilerFeedback.Json

set_option autoImplicit false

/-- The text of a value inside the given number of brackets. -/
abbrev Layout := Nat → Text

/-! ## Scalars -/

/-- A UTF-16 unit by its number. -/
def unit (n : Nat) : Text := '\\' :: 'u' :: Text.hex 4 n

/-- The UTF-16 units of a character above U+FFFF or any other, by their numbers. -/
def units (n : Nat) : Text :=
  if n < 0x10000 then unit n
  else unit (0xD800 + (n - 0x10000) / 0x400) ++ unit (0xDC00 + (n - 0x10000) % 0x400)

/-- One character of a string. -/
def escape (c : Char) : Text :=
  if c = '"' then ['\\', '"']
  else if c = '\\' then ['\\', '\\']
  else if c = '\n' then ['\\', 'n']
  else if c = '\r' then ['\\', 'r']
  else if c = '\t' then ['\\', 't']
  else if c = '\x08' then ['\\', 'b']
  else if c = '\x0c' then ['\\', 'f']
  else if 0x20 ≤ c.toNat ∧ c.toNat < 0x7F then [c]
  else units c.toNat

/-- A string. -/
def string (t : Text) : Layout := fun _ => '"' :: t.flatMap escape ++ ['"']

/-- A whole number. -/
def number (i : Int) : Layout := fun _ => Text.ofInt i

/-! ## Arrays and objects -/

/-- A new line at a depth. -/
def newline (depth : Nat) : Text := '\n' :: List.replicate (2 * depth) ' '

/-- Items between brackets, each on a line of its own. -/
def enclose (opening closing : Char) (items : List Layout) : Layout := fun depth =>
  match items with
  | [] => [opening, closing]
  | items =>
      opening :: newline (depth + 1) ++
        Text.join (',' :: newline (depth + 1)) (items.map fun item => item (depth + 1)) ++
        newline depth ++ [closing]

/-- An array. -/
def array (items : List Layout) : Layout := enclose '[' ']' items

/-- One member of an object. -/
def member (key : Text) (value : Layout) : Layout := fun depth =>
  string key depth ++ ": ".toList ++ value depth

/-- An object; the members stand in the given order. -/
def object (members : List (Text × Layout)) : Layout :=
  enclose '\x7b' '\x7d' (members.map fun m => member m.1 m.2)

end CompilerFeedback.Json
