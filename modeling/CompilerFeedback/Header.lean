/-
# CompilerFeedback.Header -- the head of a located message

A located message begins with a path and coordinates in one of three forms:

* a point, `path:line:column:`;
* a span inside one line, `path:line:column-column:`;
* a span over lines, `path:(line,column)-(line,column):`.

The path is at least one character long and ends at a colon.  A colon in second
place may belong to the path (a drive letter), so the coordinates are looked for
behind the first colon from index 1 on and behind the first from index 2 on.
The forms are tried in the order above, each at both colons, and the first that
reads is taken.

* `Coordinates.render_of_read?`: a form reads back what it would write.
* `Header.render_of_scan?`: what is read is a leading part of the line.
-/
import CompilerFeedback.Position

namespace CompilerFeedback

set_option autoImplicit false

/-! ## Coordinates -/

/-- Coordinates as they are written, each a run of digits. -/
inductive Coordinates where
  | point (line column : Text)
  | columns (line column endColumn : Text)
  | region (line column endLine endColumn : Text)
  deriving DecidableEq, Repr

namespace Coordinates

/-- The forms of coordinates. -/
inductive Form where
  | point
  | columns
  | region
  deriving DecidableEq, Repr

/-- The forms in the order in which they are tried. -/
def Form.all : List Form := [.point, .columns, .region]

/-- The written form, from the colon after the path to the closing colon. -/
def render : Coordinates → Text
  | .point line column => ':' :: line ++ ':' :: column ++ [':']
  | .columns line column endColumn => ':' :: line ++ ':' :: column ++ '-' :: endColumn ++ [':']
  | .region line column endLine endColumn =>
      ":(".toList ++ line ++ ',' :: column ++ ")-(".toList ++ endLine ++ ',' :: endColumn ++
        "):".toList

/-- What follows `expected` at the start of the text. -/
def skip? (expected t : Text) : Option Text :=
  if Text.startsWith expected t then some (t.drop expected.length) else none

/-- The digits at the start of the text and what follows them. -/
def digits? (t : Text) : Option (Text × Text) :=
  if Text.startsWithDigit t then some (Text.takeDigits t, Text.dropDigits t) else none

/-- Coordinates of the given form at the start of the text, and what follows them. -/
def read? (form : Form) (t : Text) : Option (Coordinates × Text) :=
  match form with
  | .point => do
      let (line, t) ← digits? (← skip? [':'] t)
      let (column, t) ← digits? (← skip? [':'] t)
      return (.point line column, ← skip? [':'] t)
  | .columns => do
      let (line, t) ← digits? (← skip? [':'] t)
      let (column, t) ← digits? (← skip? [':'] t)
      let (endColumn, t) ← digits? (← skip? ['-'] t)
      return (.columns line column endColumn, ← skip? [':'] t)
  | .region => do
      let (line, t) ← digits? (← skip? ":(".toList t)
      let (column, t) ← digits? (← skip? [','] t)
      let (endLine, t) ← digits? (← skip? ")-(".toList t)
      let (endColumn, t) ← digits? (← skip? [','] t)
      return (.region line column endLine endColumn, ← skip? "):".toList t)

theorem append_of_skip? {expected t rest : Text} (h : skip? expected t = some rest) :
    expected ++ rest = t := by
  simp only [skip?, Option.ite_none_right_eq_some, Option.some.injEq] at h
  obtain ⟨tail, rfl⟩ := List.isPrefixOf_iff_prefix.mp h.1
  simpa using h.2.symm

theorem append_of_digits? {t digits rest : Text} (h : digits? t = some (digits, rest)) :
    digits ++ rest = t := by
  simp only [digits?, Option.ite_none_right_eq_some, Option.some.injEq, Prod.mk.injEq] at h
  rw [← h.2.1, ← h.2.2]
  exact Text.takeDigits_append_dropDigits t

/-- What is read, written again and followed by the rest, is the text. -/
theorem render_of_read? {form : Form} {t rest : Text} {c : Coordinates}
    (h : read? form t = some (c, rest)) : c.render ++ rest = t := by
  cases form <;>
    simp only [read?, Option.bind_eq_bind, Option.bind_eq_some_iff, Option.pure_def,
      Option.some.injEq, Prod.mk.injEq, Prod.exists] at h
  case point =>
    obtain ⟨_, h₁, _, _, h₂, _, h₃, _, _, h₄, _, h₅, rfl, rfl⟩ := h
    simp [render, ← append_of_skip? h₁, ← append_of_digits? h₂, ← append_of_skip? h₃,
      ← append_of_digits? h₄, ← append_of_skip? h₅]
  case columns =>
    obtain ⟨_, h₁, _, _, h₂, _, h₃, _, _, h₄, _, h₅, _, _, h₆, _, h₇, rfl, rfl⟩ := h
    simp [render, ← append_of_skip? h₁, ← append_of_digits? h₂, ← append_of_skip? h₃,
      ← append_of_digits? h₄, ← append_of_skip? h₅, ← append_of_digits? h₆, ← append_of_skip? h₇]
  case region =>
    obtain ⟨_, h₁, _, _, h₂, _, h₃, _, _, h₄, _, h₅, _, _, h₆, _, h₇, _, _, h₈, _, h₉, rfl, rfl⟩ := h
    simp [render, ← append_of_skip? h₁, ← append_of_digits? h₂, ← append_of_skip? h₃,
      ← append_of_digits? h₄, ← append_of_skip? h₅, ← append_of_digits? h₆, ← append_of_skip? h₇,
      ← append_of_digits? h₈, ← append_of_skip? h₉]

/-! ## The span that coordinates denote -/

/-- The largest coordinate; larger numbers are read as this one. -/
def largest : Nat := 999999999999999999

/-- The number that a run of digits denotes, at most `largest`.  A number of more
than 18 digits after its leading zeros is above it and is never computed. -/
def number (digits : Text) : Nat :=
  let significant := digits.dropWhile (· == '0')
  if 18 < significant.length then largest else Text.toNat significant

/-- Where the span starts. -/
def start : Coordinates → Position
  | .point line column | .columns line column _ | .region line column _ _ =>
      .ofOneBased (number line) (number column)

/-- Where the span stops.  Its column stays counted from one. -/
def stop : Coordinates → Position
  | .point line column => ⟨max (number line - 1 : Int) 0, number column⟩
  | .columns line _ endColumn => ⟨max (number line - 1 : Int) 0, number endColumn⟩
  | .region _ _ endLine endColumn => ⟨max (number endLine - 1 : Int) 0, number endColumn⟩

end Coordinates

/-! ## Headers -/

/-- A path, as it is written, and coordinates. -/
structure Header where
  path : Text
  coordinates : Coordinates
  deriving DecidableEq, Repr

namespace Header

/-- The written form of a header. -/
def render (h : Header) : Text := h.path ++ h.coordinates.render

/-- The line cut at its first colon from index `least` on. -/
def cutAtColon (least : Nat) (line : Text) : Text × Text :=
  (line.take least ++ (line.drop least).takeWhile (· != ':'), (line.drop least).dropWhile (· != ':'))

/-- The header at the start of the line whose coordinates have the given form,
and what follows it.  No path starts with a line feed. -/
def scanForm? (form : Coordinates.Form) (line : Text) : Option (Header × Text) :=
  if line.head? = some '\n' then none
  else [1, 2].findSome? fun least =>
    let (path, tail) := cutAtColon least line
    (Coordinates.read? form tail).map fun (coordinates, rest) => (⟨path, coordinates⟩, rest)

/-- The header at the start of the line and what follows it. -/
def scan? (line : Text) : Option (Header × Text) :=
  Coordinates.Form.all.findSome? fun form => scanForm? form line

theorem append_of_cutAtColon (least : Nat) (line : Text) :
    (cutAtColon least line).1 ++ (cutAtColon least line).2 = line := by
  simp [cutAtColon]

theorem render_of_scanForm? {form : Coordinates.Form} {line rest : Text} {h : Header}
    (found : scanForm? form line = some (h, rest)) : h.render ++ rest = line := by
  simp only [scanForm?, Option.ite_none_left_eq_some] at found
  obtain ⟨least, -, read⟩ := List.exists_of_findSome?_eq_some found.2
  simp only [Option.map_eq_some_iff, Prod.mk.injEq, Prod.exists] at read
  obtain ⟨coordinates, tail, read, rfl, rfl⟩ := read
  rw [render, List.append_assoc, Coordinates.render_of_read? read]
  exact append_of_cutAtColon least line

/-- A header that was read, written again and followed by the rest, is the line. -/
theorem render_of_scan? {line rest : Text} {h : Header} (found : scan? line = some (h, rest)) :
    h.render ++ rest = line := by
  obtain ⟨form, -, found⟩ := List.exists_of_findSome?_eq_some found
  exact render_of_scanForm? found

/-- The span that a header denotes in the file its path is resolved to. -/
def span (h : Header) (file : Text) : Span := ⟨file, h.coordinates.start, h.coordinates.stop⟩

end Header

end CompilerFeedback
