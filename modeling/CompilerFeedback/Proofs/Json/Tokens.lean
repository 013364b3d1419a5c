/-
# CompilerFeedback.Proofs.Json.Tokens -- JSON text, cut into tokens

A machine takes JSON text one character at a time.  Between two tokens it passes over
blanks; inside a string it undoes escapes, and keeps the first half of a character that is
written as two units until the second one comes; a number ends at the first character that
is no digit.  Of numbers the whole ones are read, and of the three literal words none.

What is written is read back, whatever follows it (`Reads`):

* `scan_escape`: a character of a string, in any of the ways in which it may be written.
* `reads_string`, `reads_number`: the scalars; a number is read to its end if no digit
  follows.
-/
import CompilerFeedback.Json
import CompilerFeedback.Proofs.Text

namespace CompilerFeedback.Json

set_option autoImplicit false

/-- A token. -/
inductive Token where
  | openArray
  | closeArray
  | openObject
  | closeObject
  | comma
  | colon
  | string (text : Text)
  | number (value : Int)
  deriving DecidableEq, Repr

/-! ## Strings part way -/

/-- A string part way: its characters so far, and the first unit of a character that waits
for the second one. -/
structure Content where
  text : Text
  waiting : Option Nat
  deriving DecidableEq, Repr

/-- Whether a unit is the first one of two. -/
def isFirstUnit (n : Nat) : Bool := 0xD800 ≤ n && n < 0xDC00

/-- Whether a unit is the second one of two. -/
def isSecondUnit (n : Nat) : Bool := 0xDC00 ≤ n && n < 0xE000

namespace Content

/-- The content with a character more, unless a unit waits. -/
def push (content : Content) (c : Char) : Option Content :=
  match content.waiting with
  | none => some ⟨content.text ++ [c], none⟩
  | some _ => none

/-- The content with a unit more. -/
def pushUnit (content : Content) (n : Nat) : Option Content :=
  match content.waiting with
  | some first =>
      if isSecondUnit n then
        some ⟨content.text ++ [Char.ofNat (0x10000 + (first - 0xD800) * 0x400 + (n - 0xDC00))], none⟩
      else none
  | none =>
      if isFirstUnit n then some ⟨content.text, some n⟩
      else if isSecondUnit n then none
      else some ⟨content.text ++ [Char.ofNat n], none⟩

/-- The token of a string that ends here. -/
def finish (content : Content) : Option Token :=
  match content.waiting with
  | none => some (.string content.text)
  | some _ => none

end Content

/-! ## The machine -/

/-- Where the machine stands. -/
inductive Scan where
  /-- Between two tokens. -/
  | between
  | inString (content : Content)
  /-- Behind a backslash. -/
  | escaping (content : Content)
  /-- Inside the number of a unit: `more` digits come after the next one. -/
  | inUnit (content : Content) (more value : Nat)
  | inNumber (negative : Bool) (digits : Text)
  deriving DecidableEq, Repr

/-- The characters between tokens. -/
def isSpace (c : Char) : Bool := [' ', '\n', '\r', '\t'].contains c

/-- The token of a single character. -/
def mark? (c : Char) : Option Token :=
  [('[', .openArray), (']', .closeArray), ('\x7b', .openObject), ('\x7d', .closeObject),
    (',', .comma), (':', .colon)].lookup c

/-- The character that a short escape stands for. -/
def shortEscape? (c : Char) : Option Char :=
  [('"', '"'), ('\\', '\\'), ('/', '/'), ('b', '\x08'), ('f', '\x0c'), ('n', '\n'), ('r', '\r'),
    ('t', '\t')].lookup c

/-- The value of a digit in base sixteen; capitals count as small letters. -/
def hexDigit? (c : Char) : Option Nat := "0123456789abcdef".toList.idxOf? c.toLower

/-- The token of a number; it has no digits that could be left out, and at least one. -/
def number? (negative : Bool) (digits : Text) : Option Token :=
  if Text.ofNat (Text.toNat digits) = digits then
    some (.number (if negative then -Text.toNat digits else Text.toNat digits))
  else none

/-- A character between two tokens: what it completes, and where the machine stands then. -/
def begin? (c : Char) : Option (List Token × Scan) :=
  if c = '"' then some ([], .inString ⟨[], none⟩)
  else if c = '-' then some ([], .inNumber true [])
  else if c.isDigit then some ([], .inNumber false [c])
  else if isSpace c then some ([], .between)
  else (mark? c).map fun token => ([token], .between)

/-- A character: what it completes, and where the machine stands then. -/
def Scan.step : Scan → Char → Option (List Token × Scan)
  | .between, c => begin? c
  | .inString content, c =>
      if c = '"' then content.finish.map fun token => ([token], .between)
      else if c = '\\' then some ([], .escaping content)
      else if c.toNat < 0x20 then none
      else (content.push c).map fun content => ([], .inString content)
  | .escaping content, c =>
      if c = 'u' then some ([], .inUnit content 3 0)
      else do
        let meant ← shortEscape? c
        let content ← content.push meant
        return ([], .inString content)
  | .inUnit content more value, c => do
      let digit ← hexDigit? c
      match more with
      | 0 => (content.pushUnit (value * 16 + digit)).map fun content => ([], .inString content)
      | more + 1 => some ([], .inUnit content more (value * 16 + digit))
  | .inNumber negative digits, c =>
      if c.isDigit then some ([], .inNumber negative (digits ++ [c]))
      else do
        let number ← number? negative digits
        let (tokens, next) ← begin? c
        return (number :: tokens, next)

/-- The tokens that a text completes, from a state of the machine on. -/
def Scan.tokens? : Scan → Text → Option (List Token)
  | .between, [] => some []
  | .inNumber negative digits, [] => (number? negative digits).map fun token => [token]
  | .inString _, [] | .escaping _, [] | .inUnit .., [] => none
  | state, c :: t =>
      (state.step c).bind fun outcome => (outcome.2.tokens? t).map (outcome.1 ++ ·)

theorem tokens?_cons_eq (state : Scan) (c : Char) (t : Text) : state.tokens? (c :: t) =
    (state.step c).bind fun outcome => (outcome.2.tokens? t).map (outcome.1 ++ ·) := by
  cases state <;> rfl

theorem tokens?_cons {state next : Scan} {c : Char} {tokens : List Token}
    (taken : state.step c = some (tokens, next)) (t : Text) :
    state.tokens? (c :: t) = (next.tokens? t).map (tokens ++ ·) := by
  rw [tokens?_cons_eq, taken]
  rfl

/-- A character that completes nothing. -/
theorem tokens?_cons_silent {state next : Scan} {c : Char}
    (taken : state.step c = some ([], next)) (t : Text) :
    state.tokens? (c :: t) = next.tokens? t := by
  rw [tokens?_cons taken]
  cases next.tokens? t <;> rfl

/-! ## Reading on -/

/-- Whether the machine, between two tokens, comes from `t` to `rest` by some tokens. -/
def Reads (t : Text) (tokens : List Token) (rest : Text) : Prop :=
  Scan.between.tokens? t = (Scan.between.tokens? rest).map (tokens ++ ·)

theorem Reads.refl (t : Text) : Reads t [] t := by
  simp [Reads]

theorem Reads.trans {t u v : Text} {first second : List Token} (before : Reads t first u)
    (after : Reads u second v) : Reads t (first ++ second) v := by
  rw [Reads, before, after, Option.map_map]
  refine congrArg (fun f => Option.map f _) (funext fun rest => ?_)
  exact (List.append_assoc first second rest).symm

theorem reads_cons {c : Char} {tokens : List Token} (taken : begin? c = some (tokens, .between))
    (t : Text) : Reads (c :: t) tokens t := by
  have here : Scan.between.step c = some (tokens, .between) := taken
  exact tokens?_cons here t

/-! Blanks between tokens are passed over. -/

theorem reads_space (t : Text) : Reads (' ' :: t) [] t := reads_cons rfl t

theorem reads_newline (depth : Nat) (t : Text) : Reads (newline depth ++ t) [] t := by
  have feed : ∀ t, Reads ('\n' :: t) [] t := fun t => reads_cons rfl t
  have spaces : ∀ count, Reads (List.replicate count ' ' ++ t) [] t := by
    intro count
    induction count with
    | zero => exact .refl t
    | succ count ih => exact (reads_space _).trans ih
  exact (feed _).trans (spaces (2 * depth))

/-! ## Strings -/

section Strings

variable {text : Text}

theorem hexDigit?_digitChar : ∀ k < 16, hexDigit? (Nat.digitChar k) = some k := by decide

/-- A digit of a unit that is not its last one. -/
theorem scan_hex_inner (content : Content) (more value : Nat) {k : Nat} (digit : k < 16)
    (t : Text) :
    (Scan.inUnit content (more + 1) value).tokens? (Nat.digitChar k :: t) =
      (Scan.inUnit content more (value * 16 + k)).tokens? t := by
  refine tokens?_cons_silent ?_ t
  rw [Scan.step, hexDigit?_digitChar k digit]
  rfl

/-- The last digit of a unit completes it. -/
theorem scan_hex_last {content next : Content} {value k : Nat} (digit : k < 16)
    (pushed : content.pushUnit (value * 16 + k) = some next) (t : Text) :
    (Scan.inUnit content 0 value).tokens? (Nat.digitChar k :: t) =
      (Scan.inString next).tokens? t := by
  refine tokens?_cons_silent ?_ t
  rw [Scan.step, hexDigit?_digitChar k digit]
  dsimp only [Option.bind_eq_bind, Option.bind_some]
  rw [pushed]
  rfl

theorem scan_unit {content next : Content} {n : Nat} (small : n < 0x10000)
    (pushed : content.pushUnit n = some next) (t : Text) :
    (Scan.inString content).tokens? (unit n ++ t) = (Scan.inString next).tokens? t := by
  have whole : (((0 * 16 + n / 16 / 16 / 16 % 16) * 16 + n / 16 / 16 % 16) * 16 + n / 16 % 16) * 16 +
      n % 16 = n := by omega
  have digit : ∀ m, m % 16 < 16 := fun m => Nat.mod_lt m (by decide)
  have backslash : (Scan.inString content).step '\\' = some ([], .escaping content) := rfl
  have letter : (Scan.escaping content).step 'u' = some ([], .inUnit content 3 0) := rfl
  rw [← whole] at pushed
  rw [unit, List.cons_append, tokens?_cons_silent backslash, List.cons_append,
    tokens?_cons_silent letter]
  simp only [Text.hex, List.nil_append, List.cons_append]
  rw [scan_hex_inner _ _ _ (digit _), scan_hex_inner _ _ _ (digit _), scan_hex_inner _ _ _ (digit _),
    scan_hex_last (digit _) pushed]

theorem pushUnit_single {n : Nat} (noFirst : isFirstUnit n = false)
    (noSecond : isSecondUnit n = false) :
    Content.pushUnit ⟨text, none⟩ n = some ⟨text ++ [Char.ofNat n], none⟩ := by
  simp [Content.pushUnit, noFirst, noSecond]

/-- Above U+FFFF a character is written as two units, and put together again. -/
theorem pushUnit_pair (text : Text) {n : Nat} (lower : 0x10000 ≤ n) (upper : n < 0x110000) :
    ∃ half, Content.pushUnit ⟨text, none⟩ (0xD800 + (n - 0x10000) / 0x400) = some half ∧
      half.pushUnit (0xDC00 + (n - 0x10000) % 0x400) = some ⟨text ++ [Char.ofNat n], none⟩ := by
  have first : isFirstUnit (0xD800 + (n - 0x10000) / 0x400) = true := by
    simp only [isFirstUnit, Bool.and_eq_true, decide_eq_true_eq]
    omega
  have second : isSecondUnit (0xDC00 + (n - 0x10000) % 0x400) = true := by
    simp only [isSecondUnit, Bool.and_eq_true, decide_eq_true_eq]
    omega
  have whole : 0x10000 + (0xD800 + (n - 0x10000) / 0x400 - 0xD800) * 0x400 +
      (0xDC00 + (n - 0x10000) % 0x400 - 0xDC00) = n := by omega
  refine ⟨⟨text, some (0xD800 + (n - 0x10000) / 0x400)⟩, ?_, ?_⟩
  · simp only [Content.pushUnit, first, if_true]
  · simp only [Content.pushUnit, second, if_true, whole]

theorem scan_units (c : Char) (t : Text) :
    (Scan.inString ⟨text, none⟩).tokens? (units c.toNat ++ t) =
      (Scan.inString ⟨text ++ [c], none⟩).tokens? t := by
  have valid : c.toNat < 0xD800 ∨ 0xDFFF < c.toNat ∧ c.toNat < 0x110000 := c.valid
  have same : Char.ofNat c.toNat = c := Char.ofNat_toNat c
  unfold units
  split
  · rename_i small
    have noFirst : isFirstUnit c.toNat = false := by
      simp only [isFirstUnit, Bool.and_eq_false_iff, decide_eq_false_iff_not]
      omega
    have noSecond : isSecondUnit c.toNat = false := by
      simp only [isSecondUnit, Bool.and_eq_false_iff, decide_eq_false_iff_not]
      omega
    rw [scan_unit small (pushUnit_single noFirst noSecond), same]
  · rename_i large
    obtain ⟨half, first, second⟩ := pushUnit_pair text (not_lt.mp large) (by omega)
    rw [List.append_assoc, scan_unit (by omega) first, scan_unit (by omega) second, same]

theorem scan_short {letter c : Char} (noUnit : letter ≠ 'u')
    (meant : shortEscape? letter = some c) (t : Text) :
    (Scan.inString ⟨text, none⟩).tokens? ('\\' :: letter :: t) =
      (Scan.inString ⟨text ++ [c], none⟩).tokens? t := by
  have backslash :
      (Scan.inString ⟨text, none⟩).step '\\' = some ([], .escaping ⟨text, none⟩) := rfl
  rw [tokens?_cons_silent backslash]
  refine tokens?_cons_silent ?_ t
  rw [Scan.step, if_neg noUnit, meant]
  rfl

/-- A character that stands for itself. -/
theorem scan_plain {c : Char} (noQuote : c ≠ '"') (noBackslash : c ≠ '\\') (printed : 0x20 ≤ c.toNat)
    (t : Text) :
    (Scan.inString ⟨text, none⟩).tokens? (c :: t) =
      (Scan.inString ⟨text ++ [c], none⟩).tokens? t := by
  refine tokens?_cons_silent ?_ t
  rw [Scan.step, if_neg noQuote, if_neg noBackslash, if_neg (Nat.not_lt.mpr printed)]
  rfl

/-- The three ways in which a character is written. -/
theorem escape_cases (c : Char) :
    (∃ letter, letter ≠ 'u' ∧ shortEscape? letter = some c ∧ escape c = ['\\', letter]) ∨
      (c ≠ '"' ∧ c ≠ '\\' ∧ 0x20 ≤ c.toNat ∧ escape c = [c]) ∨ escape c = units c.toNat := by
  by_cases short : c = '"' ∨ c = '\\' ∨ c = '\n' ∨ c = '\r' ∨ c = '\t' ∨ c = '\x08' ∨ c = '\x0c'
  · left
    rcases short with rfl | rfl | rfl | rfl | rfl | rfl | rfl
    · exact ⟨'"', by decide, rfl, rfl⟩
    · exact ⟨'\\', by decide, rfl, rfl⟩
    · exact ⟨'n', by decide, rfl, rfl⟩
    · exact ⟨'r', by decide, rfl, rfl⟩
    · exact ⟨'t', by decide, rfl, rfl⟩
    · exact ⟨'b', by decide, rfl, rfl⟩
    · exact ⟨'f', by decide, rfl, rfl⟩
  · push Not at short
    obtain ⟨noQuote, noBackslash, noFeed, noReturn, noTab, noBackspace, noFormFeed⟩ := short
    right
    unfold escape
    rw [if_neg noQuote, if_neg noBackslash, if_neg noFeed, if_neg noReturn, if_neg noTab,
      if_neg noBackspace, if_neg noFormFeed]
    split
    · rename_i printed
      exact .inl ⟨noQuote, noBackslash, printed.1, rfl⟩
    · exact .inr rfl

/-- **A character of a string is read back**, in whatever way it is written. -/
theorem scan_escape (c : Char) (t : Text) :
    (Scan.inString ⟨text, none⟩).tokens? (escape c ++ t) =
      (Scan.inString ⟨text ++ [c], none⟩).tokens? t := by
  obtain ⟨letter, noUnit, meant, written⟩ | ⟨noQuote, noBackslash, printed, written⟩ | written :=
    escape_cases c
  · rw [written]
    exact scan_short noUnit meant t
  · rw [written]
    exact scan_plain noQuote noBackslash printed t
  · rw [written]
    exact scan_units c t

theorem scan_content (before written : Text) (t : Text) :
    (Scan.inString ⟨before, none⟩).tokens? (written.flatMap escape ++ '"' :: t) =
      (Scan.between.tokens? t).map (.string (before ++ written) :: ·) := by
  induction written generalizing before with
  | nil =>
      have closes : (Scan.inString ⟨before, none⟩).step '"' = some ([.string before], .between) := rfl
      rw [List.append_nil]
      exact tokens?_cons closes t
  | cons c written ih =>
      rw [List.flatMap_cons, List.append_assoc, scan_escape, ih, List.append_assoc]
      rfl

/-- **A string is read back.** -/
theorem reads_string (text : Text) (depth : Nat) (t : Text) :
    Reads (string text depth ++ t) [.string text] t := by
  have opens : Scan.between.step '"' = some ([], .inString ⟨[], none⟩) := rfl
  rw [Reads, string, List.cons_append, List.cons_append, tokens?_cons_silent opens, List.append_assoc]
  exact scan_content [] text t

end Strings

/-! ## Numbers -/

theorem scan_digits (negative : Bool) (before : Text) {digits : Text}
    (run : ∀ c ∈ digits, c.isDigit) (t : Text) :
    (Scan.inNumber negative before).tokens? (digits ++ t) =
      (Scan.inNumber negative (before ++ digits)).tokens? t := by
  induction digits generalizing before with
  | nil => rw [List.nil_append, List.append_nil]
  | cons c digits ih =>
      have silent : (Scan.inNumber negative before).step c =
          some ([], .inNumber negative (before ++ [c])) := if_pos (run c List.mem_cons_self)
      rw [List.cons_append, tokens?_cons_silent silent,
        ih _ fun d member => run d (List.mem_cons_of_mem c member), List.append_assoc]
      rfl

/-- A number ends at the first character that is no digit. -/
theorem scan_number_end {negative : Bool} {digits t : Text} {token : Token}
    (number : number? negative digits = some token) (stop : Text.startsWithDigit t = false) :
    (Scan.inNumber negative digits).tokens? t = (Scan.between.tokens? t).map ([token] ++ ·) := by
  cases t with
  | nil =>
      change (number? negative digits).map _ = _
      rw [number]
      rfl
  | cons c t =>
      have noDigit : c.isDigit = false := stop
      cases begun : begin? c with
      | none =>
          have here : (Scan.inNumber negative digits).step c = none := by
            simp [Scan.step, noDigit, begun]
          have alone : Scan.between.step c = none := begun
          rw [tokens?_cons_eq, tokens?_cons_eq, here, alone]
          rfl
      | some outcome =>
          obtain ⟨tokens, next⟩ := outcome
          have here : (Scan.inNumber negative digits).step c = some (token :: tokens, next) := by
            simp [Scan.step, noDigit, number, begun]
          have alone : Scan.between.step c = some (tokens, next) := begun
          rw [tokens?_cons here, tokens?_cons alone]
          cases next.tokens? t <;> rfl

theorem begin?_of_isDigit {c : Char} (digit : c.isDigit) :
    begin? c = some ([], .inNumber false [c]) := by
  have noQuote : c ≠ '"' := by
    rintro rfl
    cases digit
  have noMinus : c ≠ '-' := by
    rintro rfl
    cases digit
  rw [begin?, if_neg noQuote, if_neg noMinus, if_pos digit]

theorem number?_ofNat (negative : Bool) (n : Nat) : number? negative (Text.ofNat n) =
    some (.number (if negative then -n else n)) := by
  rw [number?, Text.toNat_ofNat, if_pos rfl]

/-- **A whole number is read back** where no digit follows it. -/
theorem reads_number (i : Int) (depth : Nat) {t : Text} (stop : Text.startsWithDigit t = false) :
    Reads (number i depth ++ t) [.number i] t := by
  change Scan.between.tokens? (Text.ofInt i ++ t) = _
  cases i with
  | ofNat n =>
      have token := number?_ofNat false n
      obtain ⟨held, run⟩ := Text.isDigits_ofNat n
      rw [Text.ofInt]
      cases written : Text.ofNat n with
      | nil => exact absurd written held
      | cons c digits =>
          rw [written] at run token
          have first : Scan.between.step c = some ([], .inNumber false [c]) :=
            begin?_of_isDigit (run c List.mem_cons_self)
          rw [List.cons_append, tokens?_cons_silent first,
            scan_digits false [c] fun d member => run d (List.mem_cons_of_mem c member)]
          exact scan_number_end token stop
  | negSucc n =>
      have minus : Scan.between.step '-' = some ([], .inNumber true []) := rfl
      rw [Text.ofInt, List.cons_append, tokens?_cons_silent minus,
        scan_digits true [] (Text.isDigits_ofNat (n + 1)).2]
      exact scan_number_end (number?_ofNat true (n + 1)) stop

end CompilerFeedback.Json
