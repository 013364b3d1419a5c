/-
# CompilerFeedback.Proofs.Line.Grammar -- which lines continue a message

A line continues a message if it is indented, or if it has a bar with a gutter before it: a
text that is blank but for at most one number.  The grammar of gutters can be said in two more
ways: as what is left when the blanks at both ends are trimmed off, and as a pattern with
optional parts between two runs of blanks.  The pattern leaves many choices, as a blank text
is spelled by every cut into two runs; but which of them is tried first makes no difference
to whether it matches (`Pattern.matchesWhole_iff`).

* `Numeral.spells_pattern_iff`: the pattern of numbers spells the written numbers.
* `Line.isContinuation_iff_grammar`: the lines that continue a message.
-/
import CompilerFeedback.Proofs.Line
import CompilerFeedback.Proofs.Pattern

namespace CompilerFeedback

set_option autoImplicit false

namespace Text

/-- Blanks at the ends are all that a trim takes off. -/
theorem trim_append_blanks {outer core inner : Text} (before : ∀ c ∈ outer, isBlank c)
    (plain : ∀ c ∈ core, isBlank c = false) (after : ∀ c ∈ inner, isBlank c) :
    trim (outer ++ (core ++ inner)) = core := by
  have stays : trimEnd core = core :=
    List.rdropWhile_eq_self_iff.mpr fun held => by simp [plain _ (List.getLast_mem held)]
  rw [trim, trimStart_append before]
  cases core with
  | nil =>
      have gone : trimStart inner = [] := List.dropWhile_eq_nil_iff.mpr after
      rw [List.nil_append, gone]
      rfl
  | cons c core =>
      have start : trimStart (c :: core ++ inner) = c :: core ++ inner :=
        trimStart_eq_self (by simpa using plain c List.mem_cons_self)
      rw [start, trimEnd_append_of_blanks after, stays]

/-- A text is its trim between blanks. -/
theorem exists_append_trim (t : Text) :
    ∃ outer inner, t = outer ++ (trim t ++ inner) ∧ (∀ c ∈ outer, isBlank c) ∧
      ∀ c ∈ inner, isBlank c := by
  obtain ⟨outer, whole, before⟩ := exists_append_trimStart t
  obtain ⟨inner, rest, after⟩ := exists_trimEnd_append (trimStart t)
  refine ⟨outer, inner, ?_, before, after⟩
  rw [trim, ← rest]
  exact whole

end Text

namespace Numeral

/-! ## The pattern of a number -/

/-- A pattern or nothing; the pattern is tried first. -/
def maybe (p : Pattern Empty) : Pattern Empty := .either p (.word [])

def signPattern : Pattern Empty := maybe (.one fun c => c = '+' ∨ c = '-')

def digitsPattern : Pattern Empty := .many Char.isDigit 1

def mantissaPattern : Pattern Empty :=
  .either (.seq digitsPattern (maybe (.seq (.word ['.']) (.many Char.isDigit 0))))
    (.seq (.word ['.']) digitsPattern)

def exponentPattern : Pattern Empty :=
  maybe (.seq (.one fun c => c = 'e' ∨ c = 'E') (.seq signPattern digitsPattern))

/-- The pattern of a number. -/
def pattern : Pattern Empty := .seq signPattern (.seq mantissaPattern exponentPattern)

theorem spells_maybe_iff {p : Pattern Empty} {t : Text} :
    (maybe p).Spells t ↔ p.Spells t ∨ t = [] :=
  Iff.rfl

theorem spells_digits_iff {t : Text} : digitsPattern.Spells t ↔ Text.IsDigits t :=
  and_congr_left fun _ => List.length_pos_iff

theorem spells_sign_iff {t : Text} : signPattern.Spells t ↔ Sign t := by
  rw [signPattern, spells_maybe_iff]
  constructor
  · rintro (⟨c, marked, rfl⟩ | rfl)
    · rcases of_decide_eq_true marked with rfl | rfl
      · exact .plus
      · exact .minus
    · exact .none
  · intro signed
    cases signed with
    | none => exact Or.inr rfl
    | plus => exact Or.inl ⟨'+', rfl, rfl⟩
    | minus => exact Or.inl ⟨'-', rfl, rfl⟩

theorem spells_mantissa_iff {t : Text} : mantissaPattern.Spells t ↔ Mantissa t := by
  constructor
  · rintro (⟨digits, _, rfl, run, (⟨_, places, rfl, rfl, -, each⟩ | rfl)⟩ |
      ⟨_, places, rfl, rfl, run⟩)
    · exact .decimal (spells_digits_iff.mp run) each
    · rw [List.append_nil]
      exact .whole (spells_digits_iff.mp run)
    · exact .fraction (spells_digits_iff.mp run)
  · intro held
    cases held with
    | whole run =>
        exact Or.inl ⟨t, [], List.append_nil t, spells_digits_iff.mpr run, Or.inr rfl⟩
    | decimal run each =>
        exact Or.inl ⟨_, _, rfl, spells_digits_iff.mpr run,
          Or.inl ⟨['.'], _, rfl, rfl, Nat.zero_le _, each⟩⟩
    | fraction run => exact Or.inr ⟨['.'], _, rfl, rfl, spells_digits_iff.mpr run⟩

theorem spells_exponent_iff {t : Text} : exponentPattern.Spells t ↔ Exponent t := by
  rw [exponentPattern, spells_maybe_iff]
  constructor
  · rintro (⟨_, _, rfl, ⟨c, marked, rfl⟩, sign, digits, rfl, signed, run⟩ | rfl)
    · have raised : Exponent (c :: (sign ++ digits)) :=
        .power (of_decide_eq_true marked) (spells_sign_iff.mp signed) (spells_digits_iff.mp run)
      exact raised
    · exact .none
  · intro raised
    cases raised with
    | none => exact Or.inr rfl
    | @power mark sign digits marked signed run =>
        exact Or.inl ⟨[mark], sign ++ digits, rfl, ⟨mark, decide_eq_true marked, rfl⟩, sign, digits,
          rfl, spells_sign_iff.mpr signed, spells_digits_iff.mpr run⟩

theorem spells_pattern_iff {t : Text} : pattern.Spells t ↔ Written t := by
  constructor
  · rintro ⟨sign, _, rfl, signed, mantissa, exponent, rfl, held, raised⟩
    exact .number (spells_sign_iff.mp signed) (spells_mantissa_iff.mp held)
      (spells_exponent_iff.mp raised)
  · rintro ⟨signed, held, raised⟩
    exact ⟨_, _, rfl, spells_sign_iff.mpr signed, _, _, rfl, spells_mantissa_iff.mpr held,
      spells_exponent_iff.mpr raised⟩

end Numeral

namespace Line

/-! ## Gutters -/

/-- Whether a text is blank or one number, but for blanks around it. -/
def Gutter (t : Text) : Prop := Text.trim t = [] ∨ Numeral.Written (Text.trim t)

/-- The pattern of what stands before a bar. -/
def gutterPattern : Pattern Empty :=
  .seq (.many Text.isBlank 0) (.seq (Numeral.maybe Numeral.pattern) (.many Text.isBlank 0))

theorem gutter_of_parts {outer core inner : Text} (before : ∀ c ∈ outer, Text.isBlank c)
    (after : ∀ c ∈ inner, Text.isBlank c) (form : core = [] ∨ Numeral.Written core) :
    Gutter (outer ++ (core ++ inner)) := by
  have plain : ∀ c ∈ core, Text.isBlank c = false := by
    intro c member
    rcases form with rfl | written
    · cases member
    · rw [Bool.eq_false_iff]
      intro blank
      have mark := written.isMark c member
      rw [Numeral.not_isMark_of_isBlank blank] at mark
      cases mark
  rw [Gutter, Text.trim_append_blanks before plain after]
  exact form

theorem isGutter_iff {t : Text} : isGutter t ↔ Gutter t := by
  simp only [isGutter, Bool.or_eq_true, List.isEmpty_iff, Option.any_eq_true]
  constructor
  · obtain ⟨outer, whole, before⟩ := Text.exists_append_trimStart t
    rintro (empty | ⟨rest, found, blank⟩)
    · rw [whole, empty]
      show Gutter (outer ++ ([] ++ []))
      exact gutter_of_parts before (by simp) (Or.inl rfl)
    · obtain ⟨number, written, glued⟩ := Numeral.exists_written_of_scan? found
      rw [whole, ← glued]
      exact gutter_of_parts before (List.all_eq_true.mp blank) (Or.inr written)
  · rintro (empty | written)
    · left
      obtain ⟨outer, inner, whole, before, after⟩ := Text.exists_append_trim t
      rw [empty, List.nil_append] at whole
      apply List.dropWhile_eq_nil_iff.mpr
      rw [whole, List.forall_mem_append]
      exact ⟨before, after⟩
    · right
      obtain ⟨inner, rest, after⟩ := Text.exists_trimEnd_append (Text.trimStart t)
      refine ⟨inner, ?_, List.all_eq_true.mpr after⟩
      rw [rest]
      exact Numeral.scan?_append written (Numeral.ends_of_blanks after)

theorem spells_gutter_iff {t : Text} : gutterPattern.Spells t ↔ Gutter t := by
  constructor
  · rintro ⟨outer, _, rfl, ⟨-, before⟩, core, inner, rfl, form, -, after⟩
    exact gutter_of_parts before after (form.symm.imp_right Numeral.spells_pattern_iff.mp)
  · obtain ⟨outer, inner, whole, before, after⟩ := Text.exists_append_trim t
    intro gutter
    exact ⟨outer, _, whole.symm, ⟨Nat.zero_le _, before⟩, _, inner, rfl,
      gutter.symm.imp_left Numeral.spells_pattern_iff.mpr, Nat.zero_le _, after⟩

theorem matchesWhole_gutter (t : Text) : gutterPattern.matchesWhole t ↔ Gutter t :=
  Pattern.matchesWhole_iff.trans spells_gutter_iff

/-! ## Continuations -/

/-- **The lines that continue a message** are those that start with a blank and those with a
gutter before their first bar.  Trying the pattern of gutters with all its choices decides the
same, as it matches the gutters and no other text. -/
theorem isContinuation_iff_grammar (line : Line) :
    (line.isContinuation ↔ (∃ c ∈ line.head?, Text.isBlank c) ∨
      ∃ gutter source, line = gutter ++ '|' :: source ∧ '|' ∉ gutter ∧ Gutter gutter) ∧
      line.isContinuation = (line.head?.any Text.isBlank ||
        (line.contains '|' && gutterPattern.matchesWhole (Text.before '|' line))) ∧
      ∀ t, gutterPattern.matchesWhole t ↔ Gutter t := by
  refine ⟨?_, ?_, matchesWhole_gutter⟩
  · rw [isContinuation, Bool.or_eq_true, Bool.and_eq_true, isGutter_iff, Option.any_eq_true,
      List.contains_iff_mem]
    refine or_congr Iff.rfl ⟨?_, ?_⟩
    · rintro ⟨bar, form⟩
      obtain ⟨gutter, source, rfl, noBar⟩ := List.eq_append_cons_of_mem bar
      rw [Text.before_append noBar] at form
      exact ⟨gutter, source, rfl, noBar, form⟩
    · rintro ⟨gutter, source, rfl, noBar, form⟩
      rw [Text.before_append noBar]
      exact ⟨by simp, form⟩
  · have same : isGutter (Text.before '|' line) =
        gutterPattern.matchesWhole (Text.before '|' line) := by
      rw [Bool.eq_iff_iff, isGutter_iff, matchesWhole_gutter]
    rw [isContinuation, same]

end Line

end CompilerFeedback
