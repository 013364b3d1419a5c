/-
# CompilerFeedback.Proofs.Json.Value -- JSON values, put together from tokens

The second machine takes one token at a time.  It keeps the containers that are open, from
the inside out, each with what it holds so far; what may come next depends on the innermost
one.  A comma must be followed by another part, and an object's part begins with a key.

Tokens spell a value if they complete it at any place where a value may stand
(`Spells`), whatever containers are open there and whatever tokens follow.

* `spells_array`, `spells_object`: a container is spelled if its parts are.
-/
import CompilerFeedback.Proofs.Json.Tokens
import Mathlib.Data.List.Forall2

namespace CompilerFeedback.Json

set_option autoImplicit false

/-- A value; the members of an object stand in the order of the text. -/
inductive Value where
  | string (text : Text)
  | number (value : Int)
  | array (items : List Value)
  | object (members : List (Text × Value))

/-- An open container: what it holds so far, and the key of the value that comes next. -/
inductive Frame where
  | array (before : List Value)
  | object (before : List (Text × Value)) (key : Text)

/-! ## The machine -/

/-- Where the machine stands, inside the open containers `outer`. -/
inductive Build where
  | atValue (outer : List Frame)
  | atKey (before : List (Text × Value)) (outer : List Frame)
  | atColon (before : List (Text × Value)) (key : Text) (outer : List Frame)
  | behind (value : Value) (outer : List Frame)

namespace Build

/-- The token where a value is due.  An array may end there before its first item. -/
def start (outer : List Frame) : Token → Option Build
  | .string text => some (.behind (.string text) outer)
  | .number value => some (.behind (.number value) outer)
  | .openArray => some (.atValue (.array [] :: outer))
  | .openObject => some (.atKey [] outer)
  | .closeArray =>
      match outer with
      | .array [] :: outer => some (.behind (.array []) outer)
      | _ => none
  | _ => none

/-- The token where a key is due.  An object may end there before its first key. -/
def name (before : List (Text × Value)) (outer : List Frame) : Token → Option Build
  | .string key => some (.atColon before key outer)
  | .closeObject => if before.isEmpty then some (.behind (.object []) outer) else none
  | _ => none

/-- The token behind a value. -/
def resume (value : Value) : List Frame → Token → Option Build
  | .array before :: outer, .comma => some (.atValue (.array (before ++ [value]) :: outer))
  | .array before :: outer, .closeArray => some (.behind (.array (before ++ [value])) outer)
  | .object before key :: outer, .comma => some (.atKey (before ++ [(key, value)]) outer)
  | .object before key :: outer, .closeObject =>
      some (.behind (.object (before ++ [(key, value)])) outer)
  | _, _ => none

def step : Build → Token → Option Build
  | .atValue outer, token => start outer token
  | .atKey before outer, token => name before outer token
  | .atColon before key outer, .colon => some (.atValue (.object before key :: outer))
  | .atColon .., _ => none
  | .behind value outer, token => resume value outer token

def run (state : Build) (tokens : List Token) : Option Build := tokens.foldlM step state

@[simp] theorem run_nil (state : Build) : run state [] = some state := rfl

theorem run_cons {state next : Build} {token : Token} (taken : step state token = some next)
    (tokens : List Token) : run state (token :: tokens) = run next tokens := by
  rw [run, List.foldlM_cons, taken]
  rfl

end Build

/-- The value of some tokens, if they are one value. -/
def ofTokens? (tokens : List Token) : Option Value :=
  match Build.run (.atValue []) tokens with
  | some (.behind value []) => some value
  | _ => none

/-! ## The tokens of a value -/

/-- Whether tokens are those of a value, wherever it stands. -/
def Spells (tokens : List Token) (value : Value) : Prop :=
  ∀ outer rest, Build.run (.atValue outer) (tokens ++ rest) = Build.run (.behind value outer) rest

/-- Whether tokens are those of a key and its value. -/
def SpellsMember (tokens : List Token) (member : Text × Value) : Prop :=
  ∃ value, tokens = .string member.1 :: .colon :: value ∧ Spells value member.2

theorem spells_string (text : Text) : Spells [.string text] (.string text) :=
  fun _ rest => Build.run_cons rfl rest

theorem spells_number (value : Int) : Spells [.number value] (.number value) :=
  fun _ rest => Build.run_cons rfl rest

theorem Spells.ofTokens? {tokens : List Token} {value : Value} (spells : Spells tokens value) :
    ofTokens? tokens = some value := by
  have whole := spells [] []
  rw [List.append_nil, Build.run_nil] at whole
  rw [Json.ofTokens?, whole]

/-! ## Containers

A container is filled part by part.  `due before` is the state in which the next part comes,
`full parts` the one behind the end of the container. -/

section Containers

variable {α : Type} {due full : List α → Build} {closing : Token}

/-- Whether tokens are those of a part: they add it if a comma follows, and complete the
container if its end follows. -/
structure Adds (due full : List α → Build) (closing : Token) (tokens : List Token) (part : α) :
    Prop where
  comma : ∀ before rest,
    Build.run (due before) (tokens ++ .comma :: rest) = Build.run (due (before ++ [part])) rest
  closing : ∀ before rest,
    Build.run (due before) (tokens ++ closing :: rest) = Build.run (full (before ++ [part])) rest

theorem run_parts {parts : List α} {spelled : List (List Token)} (held : parts ≠ [])
    (adds : List.Forall₂ (Adds due full closing) spelled parts) (before : List α)
    (rest : List Token) :
    Build.run (due before) ([Token.comma].intercalate spelled ++ closing :: rest) =
      Build.run (full (before ++ parts)) rest := by
  induction adds generalizing before with
  | nil => exact absurd rfl held
  | @cons tokens part spelled parts first more ih =>
      cases more with
      | nil =>
          rw [List.intercalate_singleton]
          exact first.closing before rest
      | cons second more =>
          rw [List.intercalate_cons_cons, List.append_assoc, List.append_assoc,
            List.singleton_append, first.comma, ih (List.cons_ne_nil _ _), List.append_assoc]
          rfl

/-- What adds an item to an array. -/
theorem Spells.adds_item {tokens : List Token} {value : Value} (spells : Spells tokens value)
    (outer : List Frame) :
    Adds (fun before => .atValue (.array before :: outer)) (fun items => .behind (.array items) outer)
      .closeArray tokens value where
  comma _ rest := (spells _ _).trans (Build.run_cons rfl rest)
  closing _ rest := (spells _ _).trans (Build.run_cons rfl rest)

/-- What adds a member to an object. -/
theorem Spells.adds_member {tokens : List Token} {value : Value} (spells : Spells tokens value)
    (key : Text) (outer : List Frame) :
    Adds (fun before => .atKey before outer) (fun members => .behind (.object members) outer)
      .closeObject (.string key :: .colon :: tokens) (key, value) := by
  have keyed : ∀ before rest, Build.run (.atKey before outer)
      ((.string key :: .colon :: tokens) ++ rest) =
        Build.run (.behind value (.object before key :: outer)) rest := by
    intro before rest
    have named : Build.step (.atKey before outer) (.string key) =
        some (.atColon before key outer) := rfl
    have begun : Build.step (.atColon before key outer) .colon =
        some (.atValue (.object before key :: outer)) := rfl
    rw [List.cons_append, Build.run_cons named, List.cons_append, Build.run_cons begun, spells]
  exact ⟨fun before rest => (keyed before _).trans (Build.run_cons rfl rest),
    fun before rest => (keyed before _).trans (Build.run_cons rfl rest)⟩

end Containers

/-- **The tokens of an array.** -/
theorem spells_array {items : List Value} {spelled : List (List Token)}
    (spells : List.Forall₂ Spells spelled items) :
    Spells (.openArray :: [Token.comma].intercalate spelled ++ [.closeArray]) (.array items) := by
  intro outer rest
  have opened : Build.step (.atValue outer) .openArray = some (.atValue (.array [] :: outer)) := rfl
  rw [List.cons_append, List.cons_append, Build.run_cons opened, List.append_assoc,
    List.singleton_append]
  by_cases held : items = []
  · subst held
    cases spells
    exact Build.run_cons rfl rest
  · exact run_parts held (spells.imp fun _ _ spells => spells.adds_item outer) [] rest

/-- **The tokens of an object.** -/
theorem spells_object {members : List (Text × Value)} {spelled : List (List Token)}
    (spells : List.Forall₂ SpellsMember spelled members) :
    Spells (.openObject :: [Token.comma].intercalate spelled ++ [.closeObject])
      (.object members) := by
  intro outer rest
  have opened : Build.step (.atValue outer) .openObject = some (.atKey [] outer) := rfl
  rw [List.cons_append, List.cons_append, Build.run_cons opened, List.append_assoc,
    List.singleton_append]
  by_cases held : members = []
  · subst held
    cases spells
    exact Build.run_cons rfl rest
  · have adds : List.Forall₂ (Adds (fun before => .atKey before outer)
        (fun members => .behind (.object members) outer) .closeObject) spelled members := by
      refine spells.imp ?_
      rintro _ member ⟨tokens, rfl, spells⟩
      exact spells.adds_member member.1 outer
    exact run_parts held adds [] rest

end CompilerFeedback.Json
