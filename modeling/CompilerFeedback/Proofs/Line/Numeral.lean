/-
# CompilerFeedback.Proofs.Line.Numeral -- the numbers before a bar

A number is a sign, digits with a fraction or a fraction alone, and an exponent; the sign and
the exponent may be missing.  `Numeral.scan?` reads a number in one pass and never goes back.
It reads numbers only (`exists_written_of_scan?`), and where a blank or nothing follows a number
it reads the whole of it (`scan?_append`).
-/
import CompilerFeedback.Line
import CompilerFeedback.Proofs.Text

namespace CompilerFeedback.Numeral

set_option autoImplicit false

/-! ## The written form of a number -/

/-- A sign, or none. -/
inductive Sign : Text → Prop where
  | none : Sign []
  | plus : Sign ['+']
  | minus : Sign ['-']

/-- Digits with or without a fraction, or a fraction alone. -/
inductive Mantissa : Text → Prop where
  | whole {digits : Text} (run : Text.IsDigits digits) : Mantissa digits
  | decimal {digits places : Text} (run : Text.IsDigits digits) (each : ∀ c ∈ places, c.isDigit) :
      Mantissa (digits ++ '.' :: places)
  | fraction {places : Text} (run : Text.IsDigits places) : Mantissa ('.' :: places)

/-- An exponent, or none. -/
inductive Exponent : Text → Prop where
  | none : Exponent []
  | power {mark : Char} {sign digits : Text} (marked : mark = 'e' ∨ mark = 'E') (signed : Sign sign)
      (run : Text.IsDigits digits) : Exponent (mark :: (sign ++ digits))

/-- A written number. -/
inductive Written : Text → Prop where
  | number {sign mantissa exponent : Text} (signed : Sign sign) (held : Mantissa mantissa)
      (raised : Exponent exponent) : Written (sign ++ (mantissa ++ exponent))

theorem written_of_isDigits {digits : Text} (run : Text.IsDigits digits) : Written digits := by
  have whole : Written ([] ++ (digits ++ [])) := .number .none (.whole run) .none
  rwa [List.nil_append, List.append_nil] at whole

/-! ## The characters of a number -/

/-- The characters that numbers are written with. -/
def isMark (c : Char) : Bool := c.isDigit || c ∈ ['+', '-', '.', 'e', 'E']

theorem isMark_of_isDigit {c : Char} (digit : c.isDigit) : isMark c := by
  simp [isMark, digit]

theorem not_isMark_of_isBlank {c : Char} (blank : Text.isBlank c) : isMark c = false := by
  have noMember : c ∉ ['+', '-', '.', 'e', 'E'] := by
    intro member
    have marks : ['+', '-', '.', 'e', 'E'].all (!Text.isBlank ·) := by decide
    have noBlank := List.all_eq_true.mp marks c member
    simp [blank] at noBlank
  simp [isMark, Text.not_isDigit_of_isBlank blank, noMember]

theorem Sign.isMark {sign : Text} (signed : Sign sign) : ∀ c ∈ sign, isMark c := by
  cases signed <;> simp [Numeral.isMark]

theorem Mantissa.isMark {mantissa : Text} (held : Mantissa mantissa) :
    ∀ c ∈ mantissa, isMark c := by
  cases held with
  | whole run => exact fun c member => isMark_of_isDigit (run.2 c member)
  | decimal run each =>
      rw [List.forall_mem_append, List.forall_mem_cons]
      exact ⟨fun c member => isMark_of_isDigit (run.2 c member), rfl,
        fun c member => isMark_of_isDigit (each c member)⟩
  | fraction run =>
      rw [List.forall_mem_cons]
      exact ⟨rfl, fun c member => isMark_of_isDigit (run.2 c member)⟩

theorem Exponent.isMark {exponent : Text} (raised : Exponent exponent) :
    ∀ c ∈ exponent, isMark c := by
  cases raised with
  | none => simp
  | power marked signed run =>
      rw [List.forall_mem_cons, List.forall_mem_append]
      refine ⟨?_, signed.isMark, fun c member => isMark_of_isDigit (run.2 c member)⟩
      rcases marked with rfl | rfl <;> rfl

theorem Written.isMark {number : Text} (written : Written number) : ∀ c ∈ number, isMark c := by
  cases written with
  | number signed held raised =>
      rw [List.forall_mem_append, List.forall_mem_append]
      exact ⟨signed.isMark, held.isMark, raised.isMark⟩

theorem Mantissa.ne_nil {mantissa : Text} (held : Mantissa mantissa) : mantissa ≠ [] := by
  cases held with
  | whole run => exact run.1
  | decimal run each => simp
  | fraction run => simp

/-! ## What is read is a number -/

theorem exists_sign (t : Text) : ∃ sign, Sign sign ∧ sign ++ skipSign t = t := by
  cases t with
  | nil => exact ⟨[], .none, rfl⟩
  | cons c t =>
      rw [skipSign]
      split
      · rename_i marked
        rcases marked with rfl | rfl
        · exact ⟨['+'], .plus, rfl⟩
        · exact ⟨['-'], .minus, rfl⟩
      · exact ⟨[], .none, rfl⟩

theorem exists_mantissa {t rest : Text} (found : scanMantissa? t = some rest) :
    ∃ mantissa, Mantissa mantissa ∧ mantissa ++ rest = t := by
  have whole := Text.takeDigits_append_dropDigits t
  fun_cases scanMantissa? t
  case case1 fraction digit cut =>
      simp only [scanMantissa?, if_pos digit, cut, Option.some.injEq] at found
      have places : ∀ c ∈ Text.takeDigits fraction, c.isDigit := fun c member =>
        List.mem_takeWhile_imp member
      refine ⟨_, .decimal (Text.isDigits_takeDigits digit) places, ?_⟩
      rw [List.append_assoc, List.cons_append, ← found, Text.takeDigits_append_dropDigits, ← cut,
        whole]
  case case2 digit noPoint =>
      simp only [scanMantissa?, if_pos digit, Option.some.injEq] at found
      exact ⟨_, .whole (Text.isDigits_takeDigits digit), found ▸ whole⟩
  case case3 fraction digit noDigit =>
      simp only [scanMantissa?, if_neg noDigit, if_pos digit, Option.some.injEq] at found
      refine ⟨_, .fraction (Text.isDigits_takeDigits digit), ?_⟩
      rw [List.cons_append, ← found, Text.takeDigits_append_dropDigits]
  case case4 fraction noFraction noDigit =>
      simp [scanMantissa?, noFraction, noDigit] at found
  case case5 noPoint noDigit =>
      simp [scanMantissa?, noDigit] at found

theorem exists_exponent (t : Text) :
    ∃ exponent, Exponent exponent ∧ exponent ++ skipExponent t = t := by
  cases t with
  | nil => exact ⟨[], .none, rfl⟩
  | cons c t =>
      rw [skipExponent]
      split
      · rename_i raised
        obtain ⟨sign, signed, glued⟩ := exists_sign t
        refine ⟨_, .power raised.1 signed (Text.isDigits_takeDigits raised.2), ?_⟩
        rw [List.cons_append, List.append_assoc, Text.takeDigits_append_dropDigits, glued]
      · exact ⟨[], .none, rfl⟩

/-- What is read is a number. -/
theorem exists_written_of_scan? {t rest : Text} (found : scan? t = some rest) :
    ∃ number, Written number ∧ number ++ rest = t := by
  rw [scan?, Option.map_eq_some_iff] at found
  obtain ⟨tail, read, rfl⟩ := found
  obtain ⟨sign, signed, glued⟩ := exists_sign t
  obtain ⟨mantissa, held, after⟩ := exists_mantissa read
  obtain ⟨exponent, raised, rest⟩ := exists_exponent tail
  refine ⟨_, .number signed held raised, ?_⟩
  rw [List.append_assoc, List.append_assoc, rest, after, glued]

/-! ## A number is read as a whole -/

/-- Whether no character of a number follows. -/
def Ends (rest : Text) : Prop := ∀ c ∈ rest.head?, isMark c = false

theorem ends_of_blanks {blanks : Text} (blank : ∀ c ∈ blanks, Text.isBlank c) : Ends blanks := by
  intro c first
  exact not_isMark_of_isBlank (blank c (List.mem_of_head? first))

theorem Ends.startsWithDigit {rest : Text} (ends : Ends rest) :
    Text.startsWithDigit rest = false := by
  cases rest with
  | nil => rfl
  | cons c rest =>
      have noMark := ends c rfl
      rw [Bool.eq_false_iff]
      intro digit
      rw [isMark_of_isDigit digit] at noMark
      cases noMark

theorem skipSign_append {sign : Text} (signed : Sign sign) {c : Char}
    (noSign : ¬ (c = '+' ∨ c = '-')) (t : Text) : skipSign (sign ++ c :: t) = c :: t := by
  cases signed with
  | none => exact if_neg noSign
  | plus => rfl
  | minus => rfl

theorem not_sign_of_isDigit {c : Char} (digit : c.isDigit) : ¬ (c = '+' ∨ c = '-') := by
  rintro (rfl | rfl) <;> exact absurd digit (by decide)

theorem skipSign_append_digits {sign digits : Text} (signed : Sign sign)
    (run : Text.IsDigits digits) (rest : Text) :
    skipSign (sign ++ (digits ++ rest)) = digits ++ rest := by
  cases digits with
  | nil => exact absurd rfl run.1
  | cons d digits =>
      exact skipSign_append signed (not_sign_of_isDigit (run.2 d List.mem_cons_self)) _

theorem skipSign_append_mantissa {sign mantissa : Text} (signed : Sign sign)
    (held : Mantissa mantissa) (rest : Text) :
    skipSign (sign ++ (mantissa ++ rest)) = mantissa ++ rest := by
  cases held with
  | whole run => exact skipSign_append_digits signed run rest
  | decimal run each =>
      rw [List.append_assoc]
      exact skipSign_append_digits signed run _
  | fraction run => exact skipSign_append signed (by decide) _

theorem scanMantissa?_append {mantissa : Text} (held : Mantissa mantissa) {rest : Text}
    (noDigit : Text.startsWithDigit rest = false) (noPoint : rest.head? ≠ some '.') :
    scanMantissa? (mantissa ++ rest) = some rest := by
  cases held with
  | whole run =>
      rw [scanMantissa?.eq_def, if_pos (Text.startsWithDigit_append run rest),
        Text.dropDigits_append run.2 noDigit]
      split
      · simp at noPoint
      · rfl
  | decimal run each =>
      rw [List.append_assoc, scanMantissa?.eq_def, if_pos (Text.startsWithDigit_append run _),
        Text.dropDigits_append run.2 rfl]
      exact congrArg some (Text.dropDigits_append each noDigit)
  | @fraction places run =>
      show (if Text.startsWithDigit (places ++ rest) then some (Text.dropDigits (places ++ rest))
        else none) = some rest
      rw [if_pos (Text.startsWithDigit_append run rest), Text.dropDigits_append run.2 noDigit]

theorem skipExponent_append {exponent : Text} (raised : Exponent exponent) {rest : Text}
    (ends : Ends rest) : skipExponent (exponent ++ rest) = rest := by
  cases raised with
  | none =>
      cases rest with
      | nil => rfl
      | cons c rest =>
          have noMark := ends c rfl
          apply if_neg
          rintro ⟨rfl | rfl, -⟩ <;> cases noMark
  | power marked signed run =>
      have digits := skipSign_append_digits signed run rest
      rw [List.cons_append, List.append_assoc, skipExponent, digits,
        if_pos ⟨marked, Text.startsWithDigit_append run rest⟩,
        Text.dropDigits_append run.2 ends.startsWithDigit]

/-- **A number is read as a whole**, where nothing follows that could belong to it. -/
theorem scan?_append {number : Text} (written : Written number) {rest : Text} (ends : Ends rest) :
    scan? (number ++ rest) = some rest := by
  cases written with
  | @number sign mantissa exponent signed held raised =>
      -- behind the mantissa stands an exponent or the end: no digit, and no second point
      have after : Text.startsWithDigit (exponent ++ rest) = false ∧
          (exponent ++ rest).head? ≠ some '.' := by
        cases raised with
        | none =>
            refine ⟨ends.startsWithDigit, fun point => ?_⟩
            cases ends '.' point
        | power marked signed run => rcases marked with rfl | rfl <;> exact ⟨rfl, by simp⟩
      rw [List.append_assoc, List.append_assoc, scan?, skipSign_append_mantissa signed held,
        scanMantissa?_append held after.1 after.2, Option.map_some, skipExponent_append raised ends]

end CompilerFeedback.Numeral
