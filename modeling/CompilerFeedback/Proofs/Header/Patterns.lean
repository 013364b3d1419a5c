/-
# CompilerFeedback.Proofs.Header.Patterns -- headers as patterns

What a header looks like is told by three patterns, one for each form of coordinates, that are
tried one after the other and go back over every choice they have: how long the path is, how
long each run of digits.  The scan makes no choice twice.

* No pattern of coordinates has a choice (`reads_pattern`): digits end where none follows.
* A path has two choices at most, the first colon from index one on and the first from index
  two on (`exists_starts`); a greedy end that stops before its colon never helps
  (`Pattern.ways_seq_group_many`).
* So the first match is what the scan finds, and it is the first of six tries that fits
  (`scan?_agrees_with_patterns`).
-/
import CompilerFeedback.Proofs.Header
import CompilerFeedback.Proofs.Pattern

namespace CompilerFeedback

set_option autoImplicit false

/-- The named parts of a header. -/
inductive Header.Part where
  | path
  | line
  | column
  | endLine
  | endColumn
  deriving DecidableEq, Repr

namespace Coordinates

/-- The digits of some coordinates by their names, from left to right. -/
def groups : Coordinates → List (Header.Part × Text)
  | .point line column => [(.line, line), (.column, column)]
  | .columns line column endColumn => [(.line, line), (.column, column), (.endColumn, endColumn)]
  | .region line column endLine endColumn =>
      [(.line, line), (.column, column), (.endLine, endLine), (.endColumn, endColumn)]

/-- A run of digits and its name. -/
def digitsPattern (part : Header.Part) : Pattern Header.Part := .group part (.many Char.isDigit 1)

/-- The pattern of a form of coordinates, from the colon after the path on. -/
def pattern : Form → Pattern Header.Part
  | .point =>
      .seq (.word [':']) <| .seq (digitsPattern .line) <|
        .seq (.word [':']) <| .seq (digitsPattern .column) <| .word [':']
  | .columns =>
      .seq (.word [':']) <| .seq (digitsPattern .line) <|
        .seq (.word [':']) <| .seq (digitsPattern .column) <|
          .seq (.word ['-']) <| .seq (digitsPattern .endColumn) <| .word [':']
  | .region =>
      .seq (.word ":(".toList) <| .seq (digitsPattern .line) <|
        .seq (.word [',']) <| .seq (digitsPattern .column) <|
          .seq (.word ")-(".toList) <| .seq (digitsPattern .endLine) <|
            .seq (.word [',']) <| .seq (digitsPattern .endColumn) <| .word "):".toList

theorem read?_nil (form : Form) : read? form [] = none := by cases form <;> rfl

theorem form_of_read? {form : Form} {t rest : Text} {c : Coordinates}
    (read : read? form t = some (c, rest)) : c.form = form := by
  have again := read?_render (isWritten_of_read? read) form rest
  rw [render_of_read? read, read] at again
  by_contra other
  rw [if_neg (Ne.symm other)] at again
  cases again

/-- Whether a pattern has at most one way to match, and which. -/
def Reads (p : Pattern Header.Part) (read : Text → Option (List (Header.Part × Text) × Text)) :
    Prop :=
  ∀ t, p.ways t = (read t).toList

theorem reads_word (w : Text) : Reads (.word w) fun t => (skip? w t).map ([], ·) := by
  intro t
  show (Pattern.word w).ways t = ((skip? w t).map _).toList
  rw [Pattern.ways, skip?]
  split <;> rfl

variable {next : Pattern Header.Part} {read : Text → Option (List (Header.Part × Text) × Text)}

theorem Reads.congr (reads : Reads next read)
    {other : Text → Option (List (Header.Part × Text) × Text)} (same : ∀ t, read t = other t) :
    Reads next other :=
  fun t => (reads t).trans (congrArg Option.toList (same t))

theorem Reads.seq_word (reads : Reads next read) (w : Text) :
    Reads (.seq (.word w) next) fun t => (skip? w t).bind read := by
  intro t
  have first : (Pattern.word w : Pattern Header.Part).ways t =
      ((skip? w t).map fun u => ([], u)).toList := reads_word w t
  show _ = ((skip? w t).bind read).toList
  rw [Pattern.ways, first]
  cases skip? w t with
  | none => rfl
  | some u => simp [reads u]

theorem one_le_takeDigits_iff (t : Text) :
    1 ≤ (t.takeWhile Char.isDigit).length ↔ Text.startsWithDigit t := by
  cases t with
  | nil => simp [Text.startsWithDigit]
  | cons c t => cases digit : c.isDigit <;> simp [Text.startsWithDigit, digit]

/-- Digits are read as far as they go, if no digit can follow them. -/
theorem Reads.seq_digits (reads : Reads next read) (stops : next.Stops Char.isDigit)
    (part : Header.Part) :
    Reads (.seq (digitsPattern part) next) fun t =>
      (digits? t).bind fun found =>
        (read found.2).map fun way => ((part, found.1) :: way.1, way.2) := by
  intro t
  show _ = ((digits? t).bind _).toList
  rw [digitsPattern, Pattern.ways_seq_many stops, digits?]
  simp only [one_le_takeDigits_iff]
  split
  · show ((next.ways (Text.dropDigits t)).map _) = _
    rw [reads, Option.bind_some, Option.toList_map]
    rfl
  · rfl

/-- A form of coordinates has at most one way to match its pattern, the one that is read. -/
theorem reads_pattern (form : Form) :
    Reads (pattern form) fun t => (read? form t).map fun found => (found.1.groups, found.2) := by
  have colon (w : Text) : (Pattern.word (':' :: w) : Pattern Header.Part).Stops Char.isDigit :=
    Pattern.stops_word rfl w
  cases form with
  | point =>
      have column := (reads_word [':']).seq_digits (colon []) .column
      have line := (column.seq_word [':']).seq_digits ((colon []).seq _) .line
      apply (line.seq_word [':']).congr
      simp [read?, Option.map_eq_bind, Option.bind_assoc, groups]
  | columns =>
      have endColumn := (reads_word [':']).seq_digits (colon []) .endColumn
      have column :=
        (endColumn.seq_word ['-']).seq_digits ((Pattern.stops_word rfl []).seq _) .column
      have line := (column.seq_word [':']).seq_digits ((colon []).seq _) .line
      apply (line.seq_word [':']).congr
      simp [read?, Option.map_eq_bind, Option.bind_assoc, groups]
  | region =>
      have endColumn := (reads_word "):".toList).seq_digits (Pattern.stops_word rfl _) .endColumn
      have endLine :=
        (endColumn.seq_word [',']).seq_digits ((Pattern.stops_word rfl _).seq _) .endLine
      have column :=
        (endLine.seq_word ")-(".toList).seq_digits ((Pattern.stops_word rfl _).seq _) .column
      have line := (column.seq_word [',']).seq_digits ((Pattern.stops_word rfl _).seq _) .line
      apply (line.seq_word ":(".toList).congr
      simp [read?, Option.map_eq_bind, Option.bind_assoc, groups]

end Coordinates

namespace Header

/-! ## The patterns, tried in order -/

/-- The parts of a header by their names, from left to right. -/
def groups (h : Header) : List (Part × Text) := (.path, h.path) :: h.coordinates.groups

/-- The pattern of a path: one or two characters, as few as will do, and then no colon.  No
path starts with a line feed. -/
def pathPattern : Pattern Part := .group .path (.seq (.few (· != '\n') 1 2) (.many (· != ':') 0))

/-- The pattern of a header. -/
def pattern (form : Coordinates.Form) : Pattern Part := .seq pathPattern (Coordinates.pattern form)

/-- The first match of the patterns, in the order of the forms. -/
def search? (line : Text) : Option (List (Part × Text) × Text) :=
  Coordinates.Form.all.findSome? fun form => (pattern form).match? line

theorem stops_pattern (form : Coordinates.Form) :
    (Coordinates.pattern form).Stops (· != ':') := by
  cases form <;> exact (Pattern.stops_word rfl _).seq _

/-- The header whose path ends at the first colon from `least` on. -/
def readBehind? (form : Coordinates.Form) (line : Text) (least : Nat) : Option (Header × Text) :=
  (Coordinates.read? form (cutAtColon least line).2).map fun found =>
    (⟨(cutAtColon least line).1, found.1⟩, found.2)

theorem scanForm?_eq (form : Coordinates.Form) (line : Text) :
    scanForm? form line =
      if line.head? = some '\n' then none else [1, 2].findSome? (readBehind? form line) := rfl

theorem readBehind?_eq_none {form : Coordinates.Form} {line : Text} {least : Nat}
    (short : line.length ≤ least) : readBehind? form line least = none := by
  have empty : (cutAtColon least line).2 = [] := by
    show (line.drop least).dropWhile _ = []
    rw [List.drop_eq_nil_of_le short]
    rfl
  rw [readBehind?, empty, Coordinates.read?_nil]
  rfl

/-- The colons that are looked for do not depend on where the first characters of the path
end: a second character that is no colon belongs to the path in any case. -/
theorem exists_starts {line : Text} (start : line.head? ≠ some '\n') :
    ∃ starts : List Nat, Pattern.runs (· != '\n') 1 2 line = starts.map (line.drop ·) ∧
      ∀ form, starts.findSome? (readBehind? form line) =
        [1, 2].findSome? (readBehind? form line) := by
  cases line with
  | nil => exact ⟨[], rfl, fun form => by simp [readBehind?_eq_none]⟩
  | cons first rest =>
      have noFeed : first ≠ '\n' := by simpa using start
      cases rest with
      | nil =>
          exact ⟨[1], by simp [Pattern.runs, noFeed], fun form => by simp [readBehind?_eq_none]⟩
      | cons second rest =>
          by_cases feed : second = '\n'
          · have same : cutAtColon 2 (first :: second :: rest) =
                cutAtColon 1 (first :: second :: rest) := by simp [cutAtColon, feed]
            refine ⟨[1], by simp [Pattern.runs, noFeed, feed], fun form => ?_⟩
            have again : readBehind? form (first :: second :: rest) 2 =
                readBehind? form (first :: second :: rest) 1 := by
              rw [readBehind?, readBehind?, same]
            simp only [List.findSome?_cons, List.findSome?_nil, again]
            cases readBehind? form (first :: second :: rest) 1 <;> rfl
          · exact ⟨[1, 2], by simp [Pattern.runs, noFeed, feed], fun form => rfl⟩

/-- A pattern matches the header that is scanned in its form, part by part. -/
theorem match?_pattern (form : Coordinates.Form) (line : Text) :
    (pattern form).match? line =
      (scanForm? form line).map fun found => (found.1.groups, found.2) := by
  -- the greedy end of the path goes on to the next colon
  have behind (least : Nat) :
      (((Coordinates.pattern form).ways ((line.drop least).dropWhile (· != ':'))).map fun end_ =>
        ((Part.path, line.take (line.length - ((line.drop least).dropWhile (· != ':')).length)) ::
            end_.1, end_.2)).head? =
        (readBehind? form line least).map fun found => (found.1.groups, found.2) := by
    have path : line.take (line.length - ((line.drop least).dropWhile (· != ':')).length) =
        (cutAtColon least line).1 := by
      have glued := Pattern.take_sub_length (cutAtColon least line).1 (cutAtColon least line).2
      rwa [append_of_cutAtColon] at glued
    rw [path, Coordinates.reads_pattern form, readBehind?, Option.map_map, ← Option.toList_map,
      Option.head?_toList, Option.map_map]
    rfl
  rw [Pattern.match?, pattern, pathPattern, Pattern.ways_seq_group_many (stops_pattern form),
    Pattern.ways, List.flatMap_map, List.head?_flatMap, scanForm?_eq]
  simp only [List.nil_append]
  split
  · rename_i feed
    obtain ⟨rest, rfl⟩ := List.head?_eq_some_iff.mp feed
    simp [Pattern.runs]
  · rename_i start
    obtain ⟨starts, tried, same⟩ := exists_starts start
    rw [tried, List.findSome?_map, ← same, List.map_findSome?]
    congr 1
    funext least
    exact behind least

/-! ## The colons behind a path -/

/-- The index of the first colon from `least` on. -/
def colonFrom? (least : Nat) (line : Text) : Option Nat :=
  ((line.drop least).findIdx? (· == ':')).map (least + ·)

/-- The forms and the colons they are looked for at, in the order of the tries: each form at
the first colon from index one on, then at the first from index two on. -/
def tries (line : Text) : List (Coordinates.Form × Nat) :=
  Coordinates.Form.all.flatMap fun form =>
    [1, 2].filterMap fun least => (colonFrom? least line).map (form, ·)

/-- Whether a header with coordinates of the form has its coordinates at `place` in the line,
and `rest` behind them. -/
structure Fits (line : Text) (form : Coordinates.Form) (place : Nat) (h : Header) (rest : Text) :
    Prop where
  path : h.path = line.take place
  form : h.coordinates.form = form
  written : h.coordinates.IsWritten
  text : line.drop place = h.coordinates.render ++ rest

/-- The header with coordinates of the form at a place of the line. -/
def readAt? (line : Text) (form : Coordinates.Form) (place : Nat) : Option (Header × Text) :=
  (Coordinates.read? form (line.drop place)).map fun found =>
    (⟨line.take place, found.1⟩, found.2)

theorem readAt?_eq_some_iff {line rest : Text} {form : Coordinates.Form} {place : Nat}
    {h : Header} :
    readAt? line form place = some (h, rest) ↔ Fits line form place h rest := by
  rw [readAt?, Option.map_eq_some_iff]
  constructor
  · rintro ⟨⟨c, tail⟩, read, made⟩
    obtain ⟨rfl, rfl⟩ := Prod.mk.inj made
    exact ⟨rfl, Coordinates.form_of_read? read, Coordinates.isWritten_of_read? read,
      (Coordinates.render_of_read? read).symm⟩
  · intro fits
    refine ⟨(h.coordinates, rest), ?_, ?_⟩
    · rw [fits.text, Coordinates.read?_render fits.written, if_pos fits.form.symm]
    · rw [← fits.path]

/-- Whether no header fits at any of some tries. -/
def FitsNone (line : Text) (tries : List (Coordinates.Form × Nat)) : Prop :=
  ∀ try_ ∈ tries, ∀ h rest, ¬ Fits line try_.1 try_.2 h rest

theorem fitsNone_iff {line : Text} {tries : List (Coordinates.Form × Nat)} :
    FitsNone line tries ↔ ∀ try_ ∈ tries, readAt? line try_.1 try_.2 = none := by
  unfold FitsNone
  simp only [Option.eq_none_iff_forall_ne_some, Prod.forall, ne_eq, readAt?_eq_some_iff]

theorem cutAtColon_eq (least : Nat) (line : Text) :
    cutAtColon least line =
      ((colonFrom? least line).map fun place => (line.take place, line.drop place)).getD
        (line, []) := by
  have colon : (fun c : Char => !(c != ':')) = fun c => c == ':' := by
    funext c
    rw [bne, Bool.not_not]
  rw [cutAtColon, colonFrom?, List.takeWhile_eq_take_findIdx_not,
    List.dropWhile_eq_drop_findIdx_not, colon]
  cases found : (line.drop least).findIdx? (· == ':') with
  | none =>
      rw [List.findIdx?_eq_none_iff_findIdx_eq] at found
      rw [found, List.take_length, List.drop_length, List.take_append_drop]
      rfl
  | some index =>
      rw [List.findIdx?_eq_some_iff_findIdx_eq] at found
      rw [found.2, ← List.take_add, List.drop_drop]
      rfl

theorem readBehind?_eq (form : Coordinates.Form) (line : Text) (least : Nat) :
    readBehind? form line least = (colonFrom? least line).bind (readAt? line form) := by
  rw [readBehind?, cutAtColon_eq]
  cases colonFrom? least line with
  | none => rw [Option.map_none, Option.getD_none, Coordinates.read?_nil]; rfl
  | some place => rfl

/-- The scan takes the first try that reads. -/
theorem scan?_eq_tries {line : Text} (start : line.head? ≠ some '\n') :
    scan? line = (tries line).findSome? fun try_ => readAt? line try_.1 try_.2 := by
  rw [← List.head?_filterMap, tries, List.filterMap_flatMap, List.head?_flatMap, scan?]
  congr 1
  funext form
  rw [List.filterMap_filterMap, List.head?_filterMap, scanForm?_eq, if_neg start]
  congr 1
  funext least
  rw [readBehind?_eq]
  cases colonFrom? least line <;> rfl

theorem scan?_of_feed {line : Text} (feed : line.head? = some '\n') : scan? line = none := by
  rw [scan?, List.findSome?_eq_none_iff]
  intro form _
  rw [scanForm?_eq, if_pos feed]

/-- **The scan finds what the patterns match.**  The first pattern that matches a line, going
back over every choice in it, matches the header that is scanned, part by part.  It is the
header at the first try that fits; and where none fits, or the line is empty or starts with a
line feed, there is no header. -/
theorem scan?_agrees_with_patterns (line : Text) :
    search? line = (scan? line).map (fun found => (found.1.groups, found.2)) ∧
      (∀ h rest, scan? line = some (h, rest) ↔
        line.head? ≠ some '\n' ∧
          ∃ earlier form place later, tries line = earlier ++ (form, place) :: later ∧
            FitsNone line earlier ∧ Fits line form place h rest) ∧
      (scan? line = none ↔ line = [] ∨ line.head? = some '\n' ∨ FitsNone line (tries line)) := by
  refine ⟨?_, fun h rest => ?_, ?_⟩
  · rw [search?, scan?, List.map_findSome?]
    congr 1
    funext form
    exact match?_pattern form line
  · by_cases feed : line.head? = some '\n'
    · simp [scan?_of_feed feed, feed]
    · rw [scan?_eq_tries feed, List.findSome?_eq_some_iff]
      constructor
      · rintro ⟨earlier, ⟨form, place⟩, later, cut, found, none_⟩
        exact ⟨feed, earlier, form, place, later, cut, fitsNone_iff.mpr none_,
          readAt?_eq_some_iff.mp found⟩
      · rintro ⟨-, earlier, form, place, later, cut, none_, fits⟩
        exact ⟨earlier, (form, place), later, cut, readAt?_eq_some_iff.mpr fits,
          fitsNone_iff.mp none_⟩
  · by_cases feed : line.head? = some '\n'
    · simp [scan?_of_feed feed, feed]
    · rw [scan?_eq_tries feed, List.findSome?_eq_none_iff, ← fitsNone_iff]
      constructor
      · exact fun none_ => Or.inr (Or.inr none_)
      · rintro (rfl | starts | none_)
        · intro try_ member
          cases member
        · exact absurd starts feed
        · exact none_

end Header

end CompilerFeedback
