/-
# CompilerFeedback.Proofs.Text -- lines, blanks and digits of a text

What the later modules use of texts, apart from what a text says.

* A line feed separates lines for good (`lines_append`), so a text that joins
  unbroken lines by line breaks of any kind has those lines (`lines_join`).
* Trimming takes blanks off and nothing else; the indentation is the largest
  number of blanks that a text begins with (`le_indent_iff`).
* A run of digits is read as far as it goes (`takeDigits_append`), and its number
  lies between two powers of ten (`toNat_lt`, `le_toNat`).
-/
import CompilerFeedback.Text.Blank
import CompilerFeedback.Text.Decimal
import CompilerFeedback.Text.Lines
import Mathlib.Algebra.Group.Nat.Defs
import Mathlib.Data.List.DropRight

namespace CompilerFeedback.Text

set_option autoImplicit false

/-! ## Lines -/

/-- Whether a text holds no line feed and no carriage return. -/
def Unbroken (t : Text) : Prop := '\n' ∉ t ∧ '\r' ∉ t

instance (t : Text) : Decidable (Unbroken t) := inferInstanceAs (Decidable (_ ∧ _))

/-- Whether a text holds nothing but line feeds and carriage returns. -/
def AllBreaks (t : Text) : Prop := ∀ c ∈ t, c = '\n' ∨ c = '\r'

instance (t : Text) : Decidable (AllBreaks t) := List.decidableBAll _ t

@[simp] theorem unbroken_append {a b : Text} : Unbroken (a ++ b) ↔ Unbroken a ∧ Unbroken b := by
  simp only [Unbroken, List.mem_append]
  tauto

/-! A text whose characters are all of one kind holds no other. -/

theorem not_mem_of_all {p : Char → Bool} {t : Text} (all : t.all p) {c : Char} (out : p c = false) :
    c ∉ t := by
  intro member
  have kind : p c = true := List.all_eq_true.mp all c member
  rw [out] at kind
  cases kind

theorem unbroken_of_all {p : Char → Bool} {t : Text} (all : t.all p) (feed : p '\n' = false)
    (ret : p '\r' = false) : Unbroken t :=
  ⟨not_mem_of_all all feed, not_mem_of_all all ret⟩

theorem dropReturns_append (a b : Text) :
    dropReturns (a ++ b) = dropReturns a ++ dropReturns b := List.filter_append a b

theorem dropReturns_of_unbroken {t : Text} (unbroken : Unbroken t) : dropReturns t = t := by
  rw [dropReturns, List.filter_eq_self]
  intro c member
  simpa using ne_of_mem_of_not_mem member unbroken.2

/-- A line feed separates the lines before it from those after it. -/
theorem lines_append (a b : Text) : lines (a ++ '\n' :: b) = lines a ++ lines b := by
  have feed : dropReturns ('\n' :: b) = '\n' :: dropReturns b := by simp [dropReturns]
  rw [lines, dropReturns_append, feed, List.splitOn_append_cons_self, List.filter_append]
  rfl

theorem lines_of_unbroken {t : Text} (unbroken : Unbroken t) (held : t ≠ []) : lines t = [t] := by
  rw [lines, dropReturns_of_unbroken unbroken, List.splitOn_eq_singleton unbroken.1]
  simp [held]

/-- Line breaks before a text add no line. -/
theorem lines_breaks_append {breaks : Text} (allBreaks : AllBreaks breaks) (t : Text) :
    lines (breaks ++ t) = lines t := by
  induction breaks with
  | nil => rfl
  | cons c breaks ih =>
      have rest := ih fun d member => allBreaks d (List.mem_cons_of_mem c member)
      rcases allBreaks c List.mem_cons_self with rfl | rfl
      · exact (lines_append [] (breaks ++ t)).trans rest
      · simpa [lines, dropReturns] using rest

/-- Line breaks after a text add no line. -/
theorem lines_append_breaks {breaks : Text} (allBreaks : AllBreaks breaks) (t : Text) :
    lines (t ++ breaks) = lines t := by
  induction breaks with
  | nil => rw [List.append_nil]
  | cons c breaks ih =>
      have rest : AllBreaks breaks := fun d member => allBreaks d (List.mem_cons_of_mem c member)
      rcases allBreaks c List.mem_cons_self with rfl | rfl
      · rw [lines_append, ← List.append_nil breaks, lines_breaks_append rest]
        exact List.append_nil _
      · simpa [lines, dropReturns] using ih rest

theorem join_cons_cons (separator piece next : Text) (pieces : List Text) :
    join separator (piece :: next :: pieces) =
      piece ++ (separator ++ join separator (next :: pieces)) := by
  simp [join, List.intercalate_cons_cons]

/-- Unbroken lines that are joined by line breaks with a line feed among them are
the lines of the whole, whatever line breaks stand at its end. -/
theorem lines_join {newline ending : Text} (breaks : AllBreaks newline) (feed : '\n' ∈ newline)
    (ended : AllBreaks ending) {ls : List Text} (unbroken : ∀ line ∈ ls, Unbroken line)
    (held : ∀ line ∈ ls, line ≠ []) : lines (join newline ls ++ ending) = ls := by
  induction ls with
  | nil => exact lines_append_breaks ended []
  | cons line ls ih =>
      have one : lines line = [line] :=
        lines_of_unbroken (unbroken line List.mem_cons_self) (held line List.mem_cons_self)
      have rest := ih (fun l member => unbroken l (List.mem_cons_of_mem line member))
        fun l member => held l (List.mem_cons_of_mem line member)
      cases ls with
      | nil => rw [join, List.intercalate_singleton, lines_append_breaks ended, one]
      | cons next ls =>
          obtain ⟨before, after, rfl⟩ := List.append_of_mem feed
          have beforeBreaks : AllBreaks before := fun c member => breaks c (by simp [member])
          have afterBreaks : AllBreaks after := fun c member => breaks c (by simp [member])
          have shape : join (before ++ '\n' :: after) (line :: next :: ls) ++ ending =
              (line ++ before) ++ '\n' ::
                (after ++ (join (before ++ '\n' :: after) (next :: ls) ++ ending)) := by
            simp [join_cons_cons]
          rw [shape, lines_append, lines_append_breaks beforeBreaks, lines_breaks_append afterBreaks,
            one, rest]
          rfl

theorem lines_unlines {ls : List Text} (unbroken : ∀ line ∈ ls, Unbroken line)
    (held : ∀ line ∈ ls, line ≠ []) : lines (unlines ls) = ls := by
  have whole : lines (join ['\n'] ls ++ []) = ls :=
    lines_join (by decide) (by decide) (by decide) unbroken held
  rwa [List.append_nil] at whole

/-- A piece between two marks holds characters of the text, but no mark. -/
theorem of_mem_splitOn {mark : Char} {t piece : Text} (member : piece ∈ t.splitOn mark) :
    ∀ c ∈ piece, c ∈ t ∧ c ≠ mark := by
  induction t generalizing piece with
  | nil =>
      rw [List.splitOn_nil, List.mem_singleton] at member
      simp [member]
  | cons d t ih =>
      have later : ∀ {p : Text}, p ∈ t.splitOn mark → ∀ c ∈ p, c ∈ d :: t ∧ c ≠ mark := by
        intro p inLater c inside
        exact (ih inLater c inside).imp_left (List.mem_cons_of_mem d)
      rw [List.splitOn_cons_eq_if_modifyHead] at member
      split at member
      · rcases List.mem_cons.mp member with rfl | inLater
        · simp
        · exact later inLater
      · rename_i other
        have differs : d ≠ mark := by simpa using other
        cases cut : t.splitOn mark with
        | nil => exact absurd cut (List.splitOn_ne_nil mark t)
        | cons first rest =>
            rw [cut, List.modifyHead_cons] at member
            rcases List.mem_cons.mp member with rfl | inLater
            · intro c inside
              rcases List.mem_cons.mp inside with rfl | inFirst
              · exact ⟨List.mem_cons_self, differs⟩
              · exact later (by simp [cut]) c inFirst
            · exact later (by simp [cut, inLater])

/-- Lines hold no line break. -/
theorem unbroken_of_mem_lines {t line : Text} (member : line ∈ lines t) : Unbroken line := by
  have pieces := of_mem_splitOn (List.mem_filter.mp member).1
  constructor
  · intro feed
    exact (pieces _ feed).2 rfl
  · intro ret
    have kept : '\r' ∈ dropReturns t := (pieces _ ret).1
    simp [dropReturns] at kept

theorem mem_join {c : Char} {separator : Text} {pieces : List Text}
    (member : c ∈ join separator pieces) : c ∈ separator ∨ ∃ piece ∈ pieces, c ∈ piece := by
  induction pieces with
  | nil => simp [join] at member
  | cons piece pieces ih =>
      cases pieces with
      | nil => exact Or.inr ⟨piece, by simp, by simpa [join] using member⟩
      | cons next pieces =>
          rw [join_cons_cons, List.mem_append, List.mem_append] at member
          rcases member with first | between | later
          · exact Or.inr ⟨piece, List.mem_cons_self, first⟩
          · exact Or.inl between
          · exact (ih later).imp_right fun ⟨p, inRest, inPiece⟩ =>
              ⟨p, List.mem_cons_of_mem piece inRest, inPiece⟩

theorem unlines_append_cons (a b : Text) (ls : List Text) :
    unlines ((a ++ b) :: ls) = a ++ unlines (b :: ls) := by
  cases ls with
  | nil => simp [unlines, join]
  | cons next ls => simp [unlines, join_cons_cons]

/-- Every line but the first has a line feed before it. -/
theorem unlines_cons (line : Text) (ls : List Text) :
    unlines (line :: ls) = line ++ ls.flatMap fun l => '\n' :: l := by
  induction ls generalizing line with
  | nil => simp [unlines, join]
  | cons next ls ih =>
      have rest := ih next
      unfold unlines at rest ⊢
      rw [join_cons_cons, rest, List.flatMap_cons]
      rfl

theorem unlines_append {a : List Text} (held : a ≠ []) (b : List Text) :
    unlines (a ++ b) = unlines a ++ b.flatMap fun l => '\n' :: l := by
  cases a with
  | nil => exact absurd rfl held
  | cons line a =>
      rw [List.cons_append, unlines_cons, unlines_cons, List.flatMap_append, List.append_assoc]

theorem all_join {p : Char → Bool} {separator : Text} {pieces : List Text}
    (between : separator.all p) (each : ∀ piece ∈ pieces, piece.all p) :
    (join separator pieces).all p := by
  rw [List.all_eq_true]
  intro c member
  rcases mem_join member with inSeparator | ⟨piece, inPieces, inPiece⟩
  · exact List.all_eq_true.mp between c inSeparator
  · exact List.all_eq_true.mp (each piece inPieces) c inPiece

theorem mem_unlines {c : Char} {ls : List Text} (member : c ∈ unlines ls) :
    c = '\n' ∨ ∃ line ∈ ls, c ∈ line :=
  (mem_join member).imp_left List.mem_singleton.mp

theorem not_mem_unlines {c : Char} {ls : List Text} (noFeed : c ≠ '\n')
    (each : ∀ line ∈ ls, c ∉ line) : c ∉ unlines ls := by
  intro member
  obtain ⟨line, inLines, inLine⟩ := (mem_unlines member).resolve_left noFeed
  exact each line inLines inLine

/-! ## Parts -/

theorem startsWith_iff {opening t : Text} : startsWith opening t ↔ opening <+: t := by
  rw [startsWith, List.isPrefixOf_iff_prefix]

theorem startsWith_eq_false_iff {opening t : Text} :
    startsWith opening t = false ↔ ¬ opening <+: t := by
  rw [Bool.eq_false_iff, ne_eq, startsWith_iff]

theorem hasPart_iff {part t : Text} : hasPart part t ↔ part <:+: t := by
  induction t with
  | nil => simp [hasPart]
  | cons c t ih =>
      rw [hasPart, Bool.or_eq_true, List.isPrefixOf_iff_prefix, ih, List.infix_cons_iff]

/-! ## The first mark, and the last -/

theorem before_append {mark : Char} {head : Text} (free : mark ∉ head) (t : Text) :
    before mark (head ++ mark :: t) = head := by
  have kept : ∀ c ∈ head, (c != mark) = true := fun c member => by
    simpa using ne_of_mem_of_not_mem member free
  rw [before, List.takeWhile_append_of_pos kept]
  simp

theorem after?_append {mark : Char} {head : Text} (free : mark ∉ head) (t : Text) :
    after? mark (head ++ mark :: t) = some t := by
  have kept : ∀ c ∈ head, (c != mark) = true := fun c member => by
    simpa using ne_of_mem_of_not_mem member free
  rw [after?, List.dropWhile_append_of_pos kept]
  simp

/-- A text that holds a mark is what precedes the last one, the mark, and what follows it. -/
theorem exists_last_mark {mark : Char} {t : Text} (found : mark ∈ t) :
    ∃ before after, t = before ++ mark :: after ∧ mark ∉ after := by
  obtain ⟨a, b, reversed, free⟩ := List.eq_append_cons_of_mem (List.mem_reverse.mpr found)
  refine ⟨b.reverse, a.reverse, ?_, by simpa using free⟩
  simpa using congrArg List.reverse reversed

/-! ## Blanks -/

theorem indent_eq_zero {t : Text} (start : t.head?.any isBlank = false) : indent t = 0 := by
  cases t with
  | nil => rfl
  | cons c t => simpa [indent] using start

theorem indent_append_blanks {blanks : Text} (blank : ∀ c ∈ blanks, isBlank c) (t : Text) :
    indent (blanks ++ t) = blanks.length + indent t := by
  rw [indent, List.takeWhile_append_of_pos blank, List.length_append]
  rfl

theorem indent_le_length (t : Text) : indent t ≤ t.length :=
  (List.takeWhile_prefix isBlank).length_le

/-- As many characters as the indentation are blank. -/
theorem isBlank_of_mem_take {t : Text} {count : Nat} (within : count ≤ indent t) :
    ∀ c ∈ t.take count, isBlank c := by
  intro c member
  have prefixed : t.takeWhile isBlank <+: t := List.takeWhile_prefix isBlank
  rw [List.prefix_iff_eq_take] at prefixed
  have inRun : c ∈ t.takeWhile isBlank := by
    rw [prefixed]
    exact (List.take_sublist_take_left within).mem member
  exact List.mem_takeWhile_imp inRun

/-- The indentation is the largest number of blanks that the text begins with. -/
theorem le_indent_iff {count : Nat} {t : Text} :
    count ≤ indent t ↔ count ≤ t.length ∧ ∀ c ∈ t.take count, isBlank c := by
  constructor
  · intro within
    exact ⟨within.trans (indent_le_length t), isBlank_of_mem_take within⟩
  · rintro ⟨short, blank⟩
    have longer := indent_append_blanks blank (t.drop count)
    rw [List.take_append_drop, List.length_take_of_le short] at longer
    omega

/-- Only a blank text is indented as far as it goes. -/
theorem indent_eq_length_iff {t : Text} : indent t = t.length ↔ ∀ c ∈ t, isBlank c := by
  have whole : t.length ≤ indent t ↔ ∀ c ∈ t, isBlank c := by
    rw [le_indent_iff, List.take_length]
    simp
  rw [← whole]
  have bound := indent_le_length t
  omega

theorem indent_drop {count : Nat} {t : Text} (within : count ≤ indent t) :
    indent (t.drop count) = indent t - count := by
  have longer := indent_append_blanks (isBlank_of_mem_take within) (t.drop count)
  rw [List.take_append_drop, List.length_take_of_le (within.trans (indent_le_length t))] at longer
  omega

theorem mem_of_mem_trim {c : Char} {t : Text} (member : c ∈ trim t) : c ∈ t :=
  (List.dropWhile_suffix isBlank).mem ((List.rdropWhile_prefix isBlank (trimStart t)).mem member)

/-- A trimmed text starts with no blank. -/
theorem head?_trim (t : Text) : (trim t).head?.any isBlank = false := by
  have prefixed : trim t <+: trimStart t := List.rdropWhile_prefix isBlank (trimStart t)
  cases cut : trim t with
  | nil => rfl
  | cons c rest =>
      obtain ⟨tail, glued⟩ := cut ▸ prefixed
      have first : (t.dropWhile isBlank).head? = some c := by
        change (trimStart t).head? = some c
        rw [← glued]
        rfl
      have stop := List.head?_dropWhile_not isBlank t
      rw [first] at stop
      simpa using stop

theorem trim_cons_of_isBlank {c : Char} (blank : isBlank c) (t : Text) : trim (c :: t) = trim t := by
  simp [trim, trimStart, blank]

theorem trimStart_eq_self {t : Text} (start : t.head?.any isBlank = false) : trimStart t = t := by
  cases t with
  | nil => rfl
  | cons c t => exact List.dropWhile_cons_of_neg (by simpa using start)

/-- A text that ends in no blank stays whole behind any other. -/
theorem trimEnd_append (before : Text) {t : Text} (held : t ≠ []) (trimmed : trimEnd t = t) :
    trimEnd (before ++ t) = before ++ t := by
  have ends : t.reverse.dropWhile isBlank = t.reverse := by
    rw [← List.reverse_inj, List.reverse_reverse]
    exact trimmed
  have stays : (t.reverse.dropWhile isBlank).isEmpty = false := by simpa [ends] using held
  rw [trimEnd, List.reverse_append, List.dropWhile_append, stays, ends]
  simp

/-- A trimmed text stays whole behind one that starts with no blank. -/
theorem trim_append {before t : Text} (start : before.head?.any isBlank = false)
    (first : before ≠ []) (held : t ≠ []) (trimmed : trim t = t) : trim (before ++ t) = before ++ t := by
  have tStart : t.head?.any isBlank = false := trimmed ▸ head?_trim t
  have tEnd : trimEnd t = t := by rwa [trim, trimStart_eq_self tStart] at trimmed
  have whole : (before ++ t).head?.any isBlank = false := by
    rwa [List.head?_append_of_ne_nil _ first]
  rw [trim, trimStart_eq_self whole, trimEnd_append before held tEnd]

/-! ## Blanks at the ends of a text -/

theorem trimStart_append {blanks : Text} (blank : ∀ c ∈ blanks, isBlank c) (t : Text) :
    trimStart (blanks ++ t) = trimStart t := List.dropWhile_append_of_pos blank

theorem trimEnd_append_of_blanks {blanks : Text} (blank : ∀ c ∈ blanks, isBlank c) (t : Text) :
    trimEnd (t ++ blanks) = trimEnd t := by
  have reversed : ∀ c ∈ blanks.reverse, isBlank c := by simpa using blank
  rw [trimEnd, trimEnd, List.reverse_append, List.dropWhile_append_of_pos reversed]

theorem exists_append_trimStart (t : Text) :
    ∃ margin, t = margin ++ trimStart t ∧ ∀ c ∈ margin, isBlank c :=
  ⟨t.takeWhile isBlank, List.takeWhile_append_dropWhile.symm, fun _ member =>
    List.mem_takeWhile_imp member⟩

theorem exists_trimEnd_append (t : Text) :
    ∃ gap, t = trimEnd t ++ gap ∧ ∀ c ∈ gap, isBlank c := by
  refine ⟨(t.reverse.takeWhile isBlank).reverse, ?_, fun c member => ?_⟩
  · rw [trimEnd, ← List.reverse_append, List.takeWhile_append_dropWhile, List.reverse_reverse]
  · exact List.mem_takeWhile_imp (List.mem_reverse.mp member)

/-! ## Digits -/

/-- Whether a text is a run of ASCII digits, at least one. -/
def IsDigits (t : Text) : Prop := t ≠ [] ∧ ∀ c ∈ t, c.isDigit

theorem isDigits_takeDigits {t : Text} (start : startsWithDigit t) : IsDigits (takeDigits t) := by
  cases t with
  | nil => cases start
  | cons c t =>
      have digit : c.isDigit = true := start
      exact ⟨by simp [takeDigits, digit], fun d member => List.mem_takeWhile_imp member⟩

theorem isDigits_ofNat (n : Nat) : IsDigits (ofNat n) :=
  ⟨Nat.toDigits_ne_nil, fun _ member => Nat.isDigit_of_mem_toDigits (by decide) (by decide) member⟩

theorem not_isDigit_of_isBlank {c : Char} (blank : isBlank c) : c.isDigit = false := by
  rw [Bool.eq_false_iff]
  intro digit
  obtain ⟨lower, upper⟩ : 48 ≤ c.toNat ∧ c.toNat ≤ 57 := Char.isDigit_iff_toNat.mp digit
  simp only [isBlank, blankRanges, List.any_cons, List.any_nil, Bool.or_eq_true, Bool.and_eq_true,
    decide_eq_true_eq, Bool.or_false] at blank
  omega

/-- Digits hold no blank at their start. -/
theorem trimStart_digits_append {digits : Text} (run : IsDigits digits) (rest : Text) :
    trimStart (digits ++ rest) = digits ++ rest := by
  cases digits with
  | nil => exact absurd rfl run.1
  | cons d digits =>
      apply trimStart_eq_self
      rw [Bool.eq_false_iff]
      intro blank
      have noDigit := not_isDigit_of_isBlank (c := d) (by simpa using blank)
      rw [run.2 d List.mem_cons_self] at noDigit
      cases noDigit

theorem startsWithDigit_append {digits : Text} (run : IsDigits digits) (rest : Text) :
    startsWithDigit (digits ++ rest) = true := by
  cases digits with
  | nil => exact absurd rfl run.1
  | cons c digits => exact run.2 c List.mem_cons_self

theorem takeDigits_append {digits rest : Text} (run : ∀ c ∈ digits, c.isDigit)
    (stop : startsWithDigit rest = false) : takeDigits (digits ++ rest) = digits := by
  have none_ : rest.takeWhile Char.isDigit = [] := by
    cases rest with
    | nil => rfl
    | cons c rest => exact List.takeWhile_cons_of_neg (by simpa [startsWithDigit] using stop)
  rw [takeDigits, List.takeWhile_append_of_pos run, none_, List.append_nil]

theorem dropDigits_append {digits rest : Text} (run : ∀ c ∈ digits, c.isDigit)
    (stop : startsWithDigit rest = false) : dropDigits (digits ++ rest) = rest := by
  have all : rest.dropWhile Char.isDigit = rest := by
    cases rest with
    | nil => rfl
    | cons c rest => exact List.dropWhile_cons_of_neg (by simpa [startsWithDigit] using stop)
  rw [dropDigits, List.dropWhile_append_of_pos run, all]

theorem toNat_cons (c : Char) (t : Text) :
    toNat (c :: t) = 10 ^ t.length * (c.toNat - 48) + toNat t := by
  rw [toNat, Nat.ofDigitChars_cons, Nat.ofDigitChars_eq_ofDigitChars_zero]
  simp [toNat]

theorem toNat_lt {digits : Text} (run : ∀ c ∈ digits, c.isDigit) :
    toNat digits < 10 ^ digits.length := by
  induction digits with
  | nil => decide
  | cons c digits ih =>
      have rest := ih fun d member => run d (List.mem_cons_of_mem c member)
      have digit : c.toNat - 48 ≤ 9 := by
        have upper : c.toNat ≤ 57 := (Char.isDigit_iff_toNat.mp (run c List.mem_cons_self)).2
        omega
      have scaled : 10 ^ digits.length * (c.toNat - 48) ≤ 10 ^ digits.length * 9 :=
        Nat.mul_le_mul_left _ digit
      rw [toNat_cons, List.length_cons, Nat.pow_succ]
      omega

/-- A number that is written with a leading digit above zero is as long as it looks. -/
theorem le_toNat {c : Char} {digits : Text} (digit : c.isDigit) (significant : c ≠ '0') :
    10 ^ digits.length ≤ toNat (c :: digits) := by
  have lower : 48 ≤ c.toNat := (Char.isDigit_iff_toNat.mp digit).1
  have differs : c.toNat ≠ 48 := fun same => significant (Char.toNat_inj.mp same)
  have scaled : 10 ^ digits.length * 1 ≤ 10 ^ digits.length * (c.toNat - 48) :=
    Nat.mul_le_mul_left _ (by omega)
  rw [toNat_cons]
  omega

theorem toNat_dropZeros (digits : Text) : toNat (digits.dropWhile (· == '0')) = toNat digits := by
  induction digits with
  | nil => rfl
  | cons c digits ih =>
      rw [List.dropWhile_cons]
      split
      · rename_i zero
        rw [ih, toNat_cons, beq_iff_eq.mp zero]
        simp
      · rfl

end CompilerFeedback.Text
