/-
# CompilerFeedback.Proofs.Journal.Template -- fields, and templates that make lines

What a field looks like is told by a pattern with choices: a zero may be a flag or begin a
width, and width and precision may be missing.  The test for a field makes no choice, as it
takes every run as far as it goes, and still finds every field (`hasField_iff_pattern`).

A template with a field may make no line.  One that is put together from characters, percent
signs and the five fields that every record has makes one from every record
(`fill?_written`).
-/
import CompilerFeedback.Journal.Layout
import CompilerFeedback.Proofs.Pattern
import Mathlib.Data.List.TakeWhile

namespace CompilerFeedback.Template

set_option autoImplicit false

/-! ## The pattern of a field -/

/-- A width, or what follows the point of a precision. -/
def measurePattern : Pattern Empty := .either (.word ['*']) (.many Text.isDecimalDigit 1)

def precisionPattern : Pattern Empty := .seq (.word ['.']) measurePattern

/-- The pattern of a field from its precision on. -/
def endPattern : Pattern Empty := .seq (.either precisionPattern (.word [])) (.one endsField)

/-- The pattern of a field from its width on. -/
def unflaggedPattern : Pattern Empty := .seq (.either measurePattern (.word [])) endPattern

/-- The pattern of a field. -/
def fieldPattern : Pattern Empty :=
  .seq (.word "%(".toList) <| .seq (.many Text.isWordCharacter 1) <| .seq (.word [')']) <|
    .seq (.many isFlag 0) unflaggedPattern

/-- Whether a text begins with one of the form of a pattern. -/
def Fits (p : Pattern Empty) (t : Text) : Prop := ∃ taken rest, taken ++ rest = t ∧ p.Spells taken

theorem fits_seq_iff {first second : Pattern Empty} {t : Text} :
    Fits (.seq first second) t ↔
      ∃ taken rest, taken ++ rest = t ∧ first.Spells taken ∧ Fits second rest := by
  constructor
  · rintro ⟨-, rest, rfl, a, b, rfl, spelledA, spelledB⟩
    exact ⟨a, b ++ rest, (List.append_assoc a b rest).symm, spelledA, b, rest, rfl, spelledB⟩
  · rintro ⟨a, -, rfl, spelledA, b, rest, rfl, spelledB⟩
    exact ⟨a ++ b, rest, List.append_assoc a b rest, a, b, rfl, spelledA, spelledB⟩

theorem fits_word_seq_iff {w : Text} {next : Pattern Empty} {t : Text} :
    Fits (.seq (.word w) next) t ↔ ∃ rest, w ++ rest = t ∧ Fits next rest := by
  rw [fits_seq_iff]
  constructor
  · rintro ⟨taken, rest, glued, spelled, fits⟩
    obtain rfl : taken = w := spelled
    exact ⟨rest, glued, fits⟩
  · rintro ⟨rest, glued, fits⟩
    exact ⟨w, rest, glued, rfl, fits⟩

theorem fits_seq_assoc {first second next : Pattern Empty} {t : Text} :
    Fits (.seq (.seq first second) next) t ↔ Fits (.seq first (.seq second next)) t := by
  rw [fits_seq_iff, fits_seq_iff]
  constructor
  · rintro ⟨-, rest, rfl, ⟨a, b, rfl, spelledA, spelledB⟩, fits⟩
    exact ⟨a, b ++ rest, (List.append_assoc a b rest).symm, spelledA,
      fits_seq_iff.mpr ⟨b, rest, rfl, spelledB, fits⟩⟩
  · rintro ⟨a, behind, rfl, spelledA, fits⟩
    obtain ⟨b, rest, rfl, spelledB, fits⟩ := fits_seq_iff.mp fits
    exact ⟨a ++ b, rest, List.append_assoc a b rest, ⟨a, b, rfl, spelledA, spelledB⟩, fits⟩

theorem fits_optional_seq_iff {first next : Pattern Empty} {t : Text} :
    Fits (.seq (.either first (.word [])) next) t ↔ Fits (.seq first next) t ∨ Fits next t := by
  rw [fits_seq_iff, fits_seq_iff]
  constructor
  · rintro ⟨taken, rest, rfl, spelled | empty, fits⟩
    · exact Or.inl ⟨taken, rest, rfl, spelled, fits⟩
    · obtain rfl : taken = [] := empty
      exact Or.inr fits
  · rintro (⟨taken, rest, glued, spelled, fits⟩ | fits)
    · exact ⟨taken, rest, glued, Or.inl spelled, fits⟩
    · exact ⟨[], t, rfl, Or.inr rfl, fits⟩

/-- A run before what cannot begin inside it ends where it cannot go on. -/
theorem fits_run_seq_iff {kind : Char → Bool} {next : Pattern Empty}
    (stops : ∀ c t, kind c → ¬ Fits next (c :: t)) (least : Nat) (t : Text) :
    Fits (.seq (.many kind least) next) t ↔
      least ≤ (t.takeWhile kind).length ∧ Fits next (t.dropWhile kind) := by
  rw [fits_seq_iff]
  constructor
  · rintro ⟨taken, rest, rfl, ⟨long, kinds⟩, fits⟩
    have ends : rest.takeWhile kind = [] ∧ rest.dropWhile kind = rest := by
      cases rest with
      | nil => exact ⟨rfl, rfl⟩
      | cons c rest =>
          have other : ¬ kind c := fun held => stops c rest held fits
          exact ⟨List.takeWhile_cons_of_neg other, List.dropWhile_cons_of_neg other⟩
    rw [List.takeWhile_append_of_pos kinds, List.dropWhile_append_of_pos kinds, ends.1, ends.2,
      List.append_nil]
    exact ⟨long, fits⟩
  · rintro ⟨long, fits⟩
    exact ⟨_, _, List.takeWhile_append_dropWhile, ⟨long, fun c member =>
      List.mem_takeWhile_imp member⟩, fits⟩

/-! ## What each part of a field leaves -/

theorem fits_last_iff {t : Text} : Fits (.one endsField) t ↔ t.head?.any endsField = true := by
  constructor
  · rintro ⟨-, rest, rfl, c, ends, rfl⟩
    exact ends
  · intro ends
    cases t with
    | nil => cases ends
    | cons c t => exact ⟨[c], t, rfl, c, ends, rfl⟩

/-- No field ends in a digit, a flag, a star or a point. -/
theorem not_endsField_of {c : Char}
    (other : Text.isDecimalDigit c ∨ isFlag c ∨ c = '*' ∨ c = '.') : endsField c = false := by
  rw [Bool.eq_false_iff]
  intro ends
  have letters : ("diouxefgcrsa%DIOUXEFGCRSAİıſ".toList.all fun c =>
      !Text.isDecimalDigit c && !isFlag c && c != '*' && c != '.') = true := by decide
  have letter := List.all_eq_true.mp letters c (by simpa [endsField] using ends)
  simp only [Bool.and_eq_true, Bool.not_eq_true', bne_iff_ne] at letter
  obtain ⟨⟨⟨noDigit, noFlag⟩, noStar⟩, noPoint⟩ := letter
  rcases other with digit | flag | rfl | rfl
  · rw [noDigit] at digit
    cases digit
  · rw [noFlag] at flag
    cases flag
  · exact noStar rfl
  · exact noPoint rfl

theorem not_fits_last_of {c : Char}
    (other : Text.isDecimalDigit c ∨ isFlag c ∨ c = '*' ∨ c = '.') (t : Text) :
    ¬ Fits (.one endsField) (c :: t) := by
  intro fits
  have ends : endsField c = true := fits_last_iff.mp fits
  rw [not_endsField_of other] at ends
  cases ends

/-- A width that is there, and what follows it, where that does not begin with a digit. -/
theorem fits_measure_seq_iff {next : Pattern Empty}
    (noDigit : ∀ c t, Text.isDecimalDigit c → ¬ Fits next (c :: t)) {t : Text} :
    Fits (.seq measurePattern next) t ↔
      (∃ rest, '*' :: rest = t ∧ Fits next rest) ∨
        1 ≤ (t.takeWhile Text.isDecimalDigit).length ∧
          Fits next (t.dropWhile Text.isDecimalDigit) := by
  have split : Fits (.seq measurePattern next) t ↔
      Fits (.seq (.word ['*']) next) t ∨ Fits (.seq (.many Text.isDecimalDigit 1) next) t := by
    simp only [fits_seq_iff, measurePattern, Pattern.Spells, or_and_right, and_or_left, exists_or]
  rw [split, fits_word_seq_iff, fits_run_seq_iff noDigit]
  rfl

theorem isDecimalDigit_star : Text.isDecimalDigit '*' = false := by decide

/-- A width that may be missing, before what begins with neither a star nor a digit. -/
theorem fits_measure_iff {next : Pattern Empty}
    (stops : ∀ c t, Text.isDecimalDigit c ∨ c = '*' → ¬ Fits next (c :: t)) {t : Text} :
    Fits (.seq (.either measurePattern (.word [])) next) t ↔ Fits next (dropMeasure t) := by
  have noDigit : ∀ c t, Text.isDecimalDigit c → ¬ Fits next (c :: t) :=
    fun c t digit => stops c t (Or.inl digit)
  rw [fits_optional_seq_iff, fits_measure_seq_iff noDigit]
  unfold dropMeasure
  split
  · rename_i rest
    have alone : ¬ Fits next ('*' :: rest) := stops '*' rest (Or.inr rfl)
    simp [isDecimalDigit_star, alone]
  · rename_i noStar
    have other : ¬ ∃ rest, '*' :: rest = t ∧ Fits next rest := by
      rintro ⟨rest, rfl, -⟩
      exact noStar rest rfl
    simp only [other, false_or]
    constructor
    · rintro (⟨-, fits⟩ | fits)
      · exact fits
      · cases t with
        | nil => exact fits
        | cons c t =>
            have first : ¬ Text.isDecimalDigit c := fun digit => noDigit c t digit fits
            rwa [List.dropWhile_cons_of_neg first]
    · intro fits
      cases run : t.takeWhile Text.isDecimalDigit with
      | nil =>
          right
          rwa [← List.takeWhile_append_dropWhile (p := Text.isDecimalDigit) (l := t), run]
      | cons c digits => exact Or.inl ⟨by simp, fits⟩

theorem fits_end_pattern_iff {t : Text} :
    Fits endPattern t ↔ Fits (.one endsField) (dropPrecision t) := by
  have noDigit : ∀ c t, Text.isDecimalDigit c → ¬ Fits (.one endsField) (c :: t) :=
    fun c t digit => not_fits_last_of (Or.inl digit) t
  rw [endPattern, fits_optional_seq_iff, precisionPattern, fits_seq_assoc, fits_word_seq_iff]
  simp only [fits_measure_seq_iff noDigit]
  unfold dropPrecision
  split
  · rename_i rest
    have point : ¬ Fits (.one endsField) ('.' :: '*' :: rest) := not_fits_last_of (by simp) _
    simp [isDecimalDigit_star, point]
  · rename_i c rest noStar
    have point : ¬ Fits (.one endsField) ('.' :: c :: rest) := not_fits_last_of (by simp) _
    have other : ∀ u, '*' :: u ≠ c :: rest := by
      intro u same
      obtain ⟨rfl, rfl⟩ : '*' = c ∧ u = rest := by simpa using same
      exact noStar rfl
    cases digit : Text.isDecimalDigit c <;> simp [digit, point, other]
  · rename_i noStar noDigits
    have other : ∀ u, ['.'] ++ u = t → ¬ ((∃ rest, '*' :: rest = u ∧ Fits (.one endsField) rest) ∨
        1 ≤ (u.takeWhile Text.isDecimalDigit).length ∧
          Fits (.one endsField) (u.dropWhile Text.isDecimalDigit)) := by
      rintro u rfl
      cases u with
      | nil => simp
      | cons c u => exact absurd rfl (noDigits c u)
    constructor
    · rintro (⟨u, glued, fits⟩ | fits)
      · exact absurd fits (other u glued)
      · exact fits
    · exact Or.inr

/-- What follows a width begins with neither a digit nor a flag nor a star. -/
theorem not_fits_end_pattern_of {c : Char}
    (other : Text.isDecimalDigit c ∨ isFlag c ∨ c = '*') (t : Text) :
    ¬ Fits endPattern (c :: t) := by
  have noPoint : c ≠ '.' := by
    rintro rfl
    have point : Text.isDecimalDigit '.' = false ∧ isFlag '.' = false := by decide
    simp [point] at other
  have kept : dropPrecision (c :: t) = c :: t := by
    unfold dropPrecision
    split <;> simp_all
  rw [fits_end_pattern_iff, kept]
  exact not_fits_last_of (other.imp id (Or.imp id Or.inl)) t

/-! ## Fields -/

theorem fits_unflagged_iff {t : Text} :
    Fits unflaggedPattern t ↔ Fits endPattern (dropMeasure t) :=
  fits_measure_iff fun _ t other => not_fits_end_pattern_of (other.imp id Or.inr) t

/-- A width that begins with zeros is one without them, too. -/
theorem Fits.dropFlag {c : Char} {t : Text} (flag : isFlag c)
    (fits : Fits unflaggedPattern (c :: t)) : Fits unflaggedPattern t := by
  have noStar : c ≠ '*' := by
    rintro rfl
    cases flag
  have rest : dropMeasure (c :: t) = (c :: t).dropWhile Text.isDecimalDigit := by
    unfold dropMeasure
    split <;> simp_all
  rw [fits_unflagged_iff, rest] at fits
  cases digit : Text.isDecimalDigit c with
  | false =>
      rw [List.dropWhile_cons_of_neg (by simp [digit])] at fits
      exact absurd fits (not_fits_end_pattern_of (Or.inr (Or.inl flag)) t)
  | true =>
      rw [List.dropWhile_cons_of_pos digit] at fits
      rw [fits_unflagged_iff]
      unfold dropMeasure
      split
      · rename_i more
        rw [List.dropWhile_cons_of_neg (by simp [isDecimalDigit_star])] at fits
        exact absurd fits (not_fits_end_pattern_of (Or.inr (Or.inr rfl)) more)
      · exact fits

/-- Flags can be read as far as they go. -/
theorem fits_flags_iff {t : Text} : Fits (.seq (.many isFlag 0) unflaggedPattern) t ↔
    Fits unflaggedPattern (t.dropWhile isFlag) := by
  rw [fits_seq_iff]
  constructor
  · rintro ⟨taken, rest, rfl, ⟨-, flags⟩, fits⟩
    rw [List.dropWhile_append_of_pos flags]
    clear flags taken
    induction rest with
    | nil => exact fits
    | cons c rest ih =>
        by_cases flag : isFlag c
        · rw [List.dropWhile_cons_of_pos flag]
          exact ih (fits.dropFlag flag)
        · rwa [List.dropWhile_cons_of_neg flag]
  · intro fits
    exact ⟨_, _, List.takeWhile_append_dropWhile, ⟨Nat.zero_le _, fun c member =>
      List.mem_takeWhile_imp member⟩, fits⟩

/-- The test for a field at the start of a text finds what the pattern does. -/
theorem beginsWithField_iff {t : Text} : beginsWithField t ↔ (fieldPattern.match? t).isSome := by
  rw [Pattern.isSome_match?_iff]
  show _ ↔ Fits fieldPattern t
  have bracket : ∀ c u, Text.isWordCharacter c →
      ¬ Fits (.seq (.word [')']) (.seq (.many isFlag 0) unflaggedPattern)) (c :: u) := by
    rintro c u word fits
    obtain ⟨rest, glued, -⟩ := fits_word_seq_iff.mp fits
    obtain ⟨rfl, -⟩ : ')' = c ∧ rest = u := by simpa using glued
    cases word
  unfold fieldPattern
  rw [fits_word_seq_iff]
  simp only [fits_run_seq_iff bracket, fits_word_seq_iff, fits_flags_iff, fits_unflagged_iff,
    fits_end_pattern_iff, fits_last_iff]
  unfold beginsWithField
  split
  · rename_i name
    split
    · rename_i rest behind
      cases run : name.takeWhile Text.isWordCharacter <;> simp [behind, run, Nat.succ_le_iff]
    · rename_i noBracket
      refine iff_of_false Bool.false_ne_true ?_
      rintro ⟨other, glued, -, rest, behind, -⟩
      obtain rfl : other = name := by simpa using glued
      exact noBracket rest behind.symm
  · rename_i noField
    refine iff_of_false Bool.false_ne_true ?_
    rintro ⟨name, rfl, -⟩
    exact noField name rfl

/-- **A template has a field exactly if the pattern of a field matches somewhere in it.** -/
theorem hasField_iff_pattern {t : Text} :
    hasField t ↔ ∃ before after, before ++ after = t ∧ (fieldPattern.match? after).isSome := by
  induction t with
  | nil =>
      refine iff_of_false Bool.false_ne_true ?_
      rintro ⟨before, after, glued, found⟩
      obtain ⟨-, rfl⟩ := List.append_eq_nil_iff.mp glued
      cases found
  | cons c t ih =>
      rw [hasField, Bool.or_eq_true, ih, beginsWithField_iff]
      constructor
      · rintro (here | ⟨before, after, rfl, found⟩)
        · exact ⟨[], c :: t, rfl, here⟩
        · exact ⟨c :: before, after, rfl, found⟩
      · rintro ⟨before, after, glued, found⟩
        cases before with
        | nil =>
            left
            rwa [← glued]
        | cons d before =>
            obtain ⟨rfl, rfl⟩ : d = c ∧ before ++ after = t := by simpa using glued
            exact Or.inr ⟨before, after, rfl, found⟩

/-- A width that begins with a zero, and a field that no record has. -/
example : hasField "100 %(process)-08.3dx".toList = true := by decide

/-! ## Templates that make lines -/

/-- The five fields that every record has. -/
inductive Field where
  | time
  | name
  | levelName
  | levelNumber
  | message

namespace Field

/-- The name of a field in a template. -/
def spelling : Field → Text
  | .time => "asctime".toList
  | .name => "name".toList
  | .levelName => "levelname".toList
  | .levelNumber => "levelno".toList
  | .message => "message".toList

/-- What a field shows of a record. -/
def shown (context : Context) (record : Record) : Field → Text
  | .time => context.time
  | .name => record.name
  | .levelName => Record.levelName record.level
  | .levelNumber => Text.ofInt record.level
  | .message => record.message

/-- The specifier that shows a field as it is. -/
def specifier (f : Field) : Specifier := ⟨some f.spelling, [], 0, none, 's'⟩

/-- What a field holds. -/
def value (context : Context) (record : Record) : Field → Value
  | .levelNumber => .number record.level
  | f => .text (f.shown context record)

theorem field?_spelling (context : Context) (record : Record) (f : Field) :
    field? context record f.spelling = some (f.value context record) := by cases f <;> rfl

theorem text_plain (t : Text) : Shape.text ⟨[], 0, none, 's'⟩ t = t := by
  simp [Shape.text, Shape.pad, Shape.filling]

theorem convert?_specifier (context : Context) (record : Record) (hand : Option Value) (f : Field) :
    f.specifier.convert? context record hand = some (f.shown context record) := by
  have shape : f.specifier.shape? = some ⟨[], 0, none, 's'⟩ := by
    rw [Specifier.shape?, if_pos ⟨Nat.zero_le _, Nat.zero_le _⟩]
    rfl
  have plain : (f.value context record).convert context ⟨[], 0, none, 's'⟩ =
      some (Shape.text ⟨[], 0, none, 's'⟩ (f.shown context record)) := by cases f <;> rfl
  rw [text_plain] at plain
  show ((field? context record f.spelling).bind fun value =>
    f.specifier.shape?.bind fun shape => value.convert context shape) = _
  rw [field?_spelling, shape]
  exact plain

end Field

/-- A part of a template: a character, a percent sign among them, or a field. -/
inductive Part where
  | char (c : Char)
  | field (f : Field)

namespace Part

/-- A part as it is written. -/
def written : Part → Text
  | .char c => if c = '%' then ['%', '%'] else [c]
  | .field f => '%' :: '(' :: f.spelling ++ [')', 's']

/-- What a part shows of a record. -/
def shown (context : Context) (record : Record) : Part → Text
  | .char c => [c]
  | .field f => f.shown context record

/-- The piece that a part is read as. -/
def piece : Part → Piece
  | .char c => .char c
  | .field f => .specifier f.specifier

end Part

theorem piecesFrom?_eq (skip : Nat) (t : Text) : piecesFrom? skip t = piecesFrom? 0 (t.drop skip) := by
  induction t generalizing skip with
  | nil => simp [piecesFrom?]
  | cons c t ih =>
      cases skip with
      | zero => rfl
      | succ skip => exact ih skip

theorem specifier?_spelling (f : Field) (rest : Text) :
    specifier? ('(' :: f.spelling ++ ')' :: 's' :: rest) = some (f.specifier, rest) := by
  cases f <;> rfl

/-- A part is read as the piece it is meant for, whatever follows it. -/
theorem pieces?_written (part : Part) (rest : Text) :
    pieces? (part.written ++ rest) = (pieces? rest).map (part.piece :: ·) := by
  unfold pieces?
  cases part with
  | char c =>
      by_cases percent : c = '%'
      · subst percent
        rfl
      · simp [Part.written, percent, piecesFrom?, Part.piece]
  | field f =>
      have text : Part.written (.field f) ++ rest =
          '%' :: ('(' :: f.spelling ++ ')' :: 's' :: rest) := by simp [Part.written]
      have noPercent : ('(' :: f.spelling ++ ')' :: 's' :: rest).head? ≠ some '%' := by simp
      rw [text, piecesFrom?, if_neg (by simp), if_neg noPercent, specifier?_spelling,
        Option.bind_some, piecesFrom?_eq]
      have behind : ('(' :: f.spelling ++ ')' :: 's' :: rest).drop
          (('(' :: f.spelling ++ ')' :: 's' :: rest).length - rest.length) = rest := by
        have split : '(' :: f.spelling ++ ')' :: 's' :: rest =
            ('(' :: f.spelling ++ [')', 's']) ++ rest := by simp
        rw [split, List.length_append, Nat.add_sub_cancel, List.drop_left]
      rw [behind]
      rfl

/-- **A template of characters, percent signs and the five fields makes a line of every record.** -/
theorem fill?_written (context : Context) (record : Record) (parts : List Part) :
    fill? context record (parts.flatMap Part.written) =
      some (parts.flatMap (Part.shown context record)) := by
  have read : pieces? (parts.flatMap Part.written) = some (parts.map Part.piece) := by
    induction parts with
    | nil => rfl
    | cons part parts ih => rw [List.flatMap_cons, pieces?_written, ih]; rfl
  have filled : ∀ hand, fillPieces? context record hand (parts.map Part.piece) =
      some (parts.flatMap (Part.shown context record)) := by
    clear read
    induction parts with
    | nil => exact fun hand => rfl
    | cons part parts ih =>
        intro hand
        cases part with
        | char c => simp [Part.piece, fillPieces?, ih, Part.shown]
        | field f => simp [Part.piece, fillPieces?, Field.convert?_specifier, ih, Part.shown]
  rw [fill?, read]
  exact filled (some context.all)

end CompilerFeedback.Template
