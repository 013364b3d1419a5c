/-
# CompilerFeedback.Proofs.Json -- what a JSON text says

A text is decoded by the two machines, one behind the other.  A layout writes a value if it
is made of tokens that spell the value: at every depth, for only the blanks between the
tokens depend on it.

* `writes_array`, `writes_object`: containers write what their parts write, however deep
  they are nested.
* `Writes.decode?_eq`: what is written is decoded, so no two values are written alike.
-/
import CompilerFeedback.Proofs.Json.Value

namespace CompilerFeedback.Json

set_option autoImplicit false

/-- The value of a JSON text. -/
def decode? (t : Text) : Option Value := (Scan.between.tokens? t).bind ofTokens?

/-! ## The tokens of a layout -/

/-- Whether a layout is made of some tokens.  They are read off it, at any depth, if no digit
stands behind it. -/
def Holds (layout : Layout) (tokens : List Token) : Prop :=
  ∀ depth rest, Text.startsWithDigit rest = false → Reads (layout depth ++ rest) tokens rest

theorem reads_comma (depth : Nat) (t : Text) :
    Reads (',' :: newline depth ++ t) [.comma] t := by
  have comma : ∀ t, Reads (',' :: t) [.comma] t := fun t => reads_cons rfl t
  exact (comma _).trans (reads_newline depth t)

theorem reads_items {items : List Layout} {spelled : List (List Token)} (held : items ≠ [])
    (holds : List.Forall₂ Holds items spelled) (depth : Nat) {rest : Text}
    (stop : Text.startsWithDigit rest = false) :
    Reads (Text.join (',' :: newline depth) (items.map fun item => item depth) ++ rest)
      ([Token.comma].intercalate spelled) rest := by
  induction holds with
  | nil => exact absurd rfl held
  | @cons item tokens items spelled first more ih =>
      cases more with
      | nil =>
          rw [List.intercalate_singleton, List.map_singleton, Text.join, List.intercalate_singleton]
          exact first depth rest stop
      | cons second more =>
          rw [List.intercalate_cons_cons, List.map_cons, List.map_cons, Text.join_cons_cons,
            List.append_assoc, List.append_assoc, List.append_assoc]
          refine (first depth _ rfl).trans ((reads_comma depth _).trans ?_)
          exact ih (List.cons_ne_nil _ _)

theorem holds_enclose {opening closing : Char} {first last : Token}
    (opens : begin? opening = some ([first], .between))
    (closes : begin? closing = some ([last], .between)) {items : List Layout}
    {spelled : List (List Token)} (holds : List.Forall₂ Holds items spelled) :
    Holds (enclose opening closing items)
      (first :: [Token.comma].intercalate spelled ++ [last]) := by
  intro depth rest stop
  by_cases held : items = []
  · subst held
    cases holds
    exact (reads_cons opens _).trans (reads_cons closes rest)
  · have layout : enclose opening closing items depth ++ rest =
        opening :: (newline (depth + 1) ++ (Text.join (',' :: newline (depth + 1))
          (items.map fun item => item (depth + 1)) ++ (newline depth ++ closing :: rest))) := by
      cases items with
      | nil => exact absurd rfl held
      | cons item items => simp [enclose]
    rw [layout]
    refine (reads_cons opens _).trans ((reads_newline (depth + 1) _).trans ?_)
    refine (reads_items held holds (depth + 1) rfl).trans ((reads_newline depth _).trans ?_)
    exact reads_cons closes rest

/-! ## The value of a layout -/

/-- Whether a layout is the text of a value. -/
def Writes (layout : Layout) (value : Value) : Prop :=
  ∃ tokens, Holds layout tokens ∧ Spells tokens value

theorem writes_string (text : Text) : Writes (string text) (.string text) :=
  ⟨_, fun depth rest _ => reads_string text depth rest, spells_string text⟩

theorem writes_number (value : Int) : Writes (number value) (.number value) :=
  ⟨_, fun depth _ stop => reads_number value depth stop, spells_number value⟩

/-- A list between two others, from an element between every two of theirs. -/
theorem exists_forall₂ {α β γ : Type} {R : α → β → Prop} {S : β → γ → Prop} {as : List α}
    {cs : List γ} (between : List.Forall₂ (fun a c => ∃ b, R a b ∧ S b c) as cs) :
    ∃ bs, List.Forall₂ R as bs ∧ List.Forall₂ S bs cs := by
  induction between with
  | nil => exact ⟨[], .nil, .nil⟩
  | cons first more ih =>
      obtain ⟨b, left, right⟩ := first
      obtain ⟨bs, lefts, rights⟩ := ih
      exact ⟨b :: bs, .cons left lefts, .cons right rights⟩

/-- **An array writes the values of its items.** -/
theorem writes_array {items : List Layout} {values : List Value}
    (writes : List.Forall₂ Writes items values) : Writes (array items) (.array values) := by
  obtain ⟨spelled, holds, spells⟩ := exists_forall₂ writes
  exact ⟨_, holds_enclose rfl rfl holds, spells_array spells⟩

theorem holds_member {layout : Layout} {tokens : List Token} (key : Text)
    (holds : Holds layout tokens) : Holds (member key layout) (.string key :: .colon :: tokens) := by
  intro depth rest stop
  have mark : ∀ t, Reads (':' :: t) [.colon] t := fun t => reads_cons rfl t
  have colon : ∀ t, Reads (": ".toList ++ t) [.colon] t := fun t => (mark _).trans (reads_space t)
  rw [member, List.append_assoc, List.append_assoc]
  exact (reads_string key depth _).trans ((colon _).trans (holds depth rest stop))

/-- **An object writes the values of its members**, under their keys. -/
theorem writes_object {members : List (Text × Layout)} {values : List (Text × Value)}
    (writes : List.Forall₂ (fun m v => m.1 = v.1 ∧ Writes m.2 v.2) members values) :
    Writes (object members) (.object values) := by
  have between : List.Forall₂ (fun layout v => ∃ tokens, Holds layout tokens ∧ SpellsMember tokens v)
      (members.map fun m => member m.1 m.2) values := by
    rw [List.forall₂_map_left_iff]
    refine writes.imp ?_
    rintro ⟨key, layout⟩ ⟨_, value⟩ ⟨rfl, tokens, holds, spells⟩
    exact ⟨_, holds_member key holds, tokens, rfl, spells⟩
  obtain ⟨spelled, holds, spells⟩ := exists_forall₂ between
  exact ⟨_, holds_enclose rfl rfl holds, spells_object spells⟩

/-- **What is written is decoded.** -/
theorem Writes.decode?_eq {layout : Layout} {value : Value} (writes : Writes layout value) :
    decode? (layout 0 ++ ['\n']) = some value := by
  obtain ⟨tokens, holds, spells⟩ := writes
  have read : Reads (layout 0 ++ ['\n']) (tokens ++ []) [] :=
    (holds 0 ['\n'] rfl).trans (reads_newline 0 [])
  have done : Scan.between.tokens? [] = some [] := rfl
  rw [decode?, read, done, List.append_nil, Option.map_some, List.append_nil, Option.bind_some]
  exact spells.ofTokens?

/-! Other layouts of a text are decoded as well, and what is no JSON is not. -/

example : decode? "[\"\\uD83D\\ude00\\/\", -1 ,[ ]]".toList =
    some (.array [.string "😀/".toList, .number (-1), .array []]) := by rfl

example : decode? "[1,]".toList = none := by rfl

end CompilerFeedback.Json
