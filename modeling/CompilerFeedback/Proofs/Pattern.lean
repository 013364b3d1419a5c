/-
# CompilerFeedback.Proofs.Pattern -- patterns that are matched by trying

A pattern is matched at the start of a text by trying: where it leaves a choice one
alternative is taken, and the next one if what follows does not fit.  So a pattern has many
ways to match, in the order in which they are tried, and its match is the first of them.  Of
two alternatives the left one is tried first.  A lazy run of characters is tried in its
shortest reading first and then one character longer at a time, a greedy one the other way.

Only single characters of one kind are repeated, so that every search ends.

* `Pattern.exists_way_iff`: the ways are all the ways to split off a text that the pattern
  spells; trying in order loses none.
* `Pattern.ways_seq_many`: where what follows cannot begin inside a greedy run, going back into
  the run finds nothing, and its longest reading is the only one.
-/
import CompilerFeedback.Text.Basic

namespace CompilerFeedback

set_option autoImplicit false

/-- A pattern for the start of a text, some of whose parts have names. -/
inductive Pattern (Name : Type) where
  | word (w : Text)
  | one (kind : Char → Bool)
  /-- A greedy run of at least `least` characters. -/
  | many (kind : Char → Bool) (least : Nat)
  /-- A lazy run of at least `least` and at most `most` characters. -/
  | few (kind : Char → Bool) (least most : Nat)
  | seq (first second : Pattern Name)
  | either (first second : Pattern Name)
  | group (name : Name) (inner : Pattern Name)

namespace Pattern

variable {Name : Type}

/-! ## Trying -/

/-- What follows a run of at least `least` and at most `most` characters, the shortest run
first. -/
def runs (kind : Char → Bool) : Nat → Nat → Text → List Text
  | least, 0, t => if least = 0 then [t] else []
  | least, _ + 1, [] => if least = 0 then [[]] else []
  | least, most + 1, c :: t =>
      (if least = 0 then [c :: t] else []) ++ if kind c then runs kind (least - 1) most t else []

/-- The ways to match a pattern at the start of a text, in the order in which they are
tried: the texts of the groups, from left to right, and what follows the match. -/
def ways : Pattern Name → Text → List (List (Name × Text) × Text)
  | word w, t => if Text.startsWith w t then [([], t.drop w.length)] else []
  | one _, [] => []
  | one kind, c :: t => if kind c then [([], t)] else []
  | many kind least, t => (runs kind least t.length t).reverse.map fun rest => ([], rest)
  | few kind least most, t => (runs kind least most t).map fun rest => ([], rest)
  | seq first second, t =>
      (first.ways t).flatMap fun way =>
        (second.ways way.2).map fun next => (way.1 ++ next.1, next.2)
  | either first second, t => first.ways t ++ second.ways t
  | group name inner, t =>
      (inner.ways t).map fun way =>
        ((name, t.take (t.length - way.2.length)) :: way.1, way.2)

/-- The match of a pattern at the start of a text. -/
def match? (p : Pattern Name) (t : Text) : Option (List (Name × Text) × Text) := (p.ways t).head?

/-- Whether a pattern matches a whole text. -/
def matchesWhole (p : Pattern Name) (t : Text) : Bool := (p.ways t).any (·.2.isEmpty)

/-! ## What a pattern spells -/

/-- Whether a text is of the form of a pattern, without any order of trying. -/
def Spells : Pattern Name → Text → Prop
  | word w, t => t = w
  | one kind, t => ∃ c, kind c ∧ t = [c]
  | many kind least, t => least ≤ t.length ∧ ∀ c ∈ t, kind c
  | few kind least most, t => least ≤ t.length ∧ t.length ≤ most ∧ ∀ c ∈ t, kind c
  | seq first second, t => ∃ a b, a ++ b = t ∧ first.Spells a ∧ second.Spells b
  | either first second, t => first.Spells t ∨ second.Spells t
  | group _ inner, t => inner.Spells t

/-! ## Trying in order finds what a pattern spells -/

theorem runs_nil (kind : Char → Bool) (least most : Nat) :
    runs kind least most [] = if least = 0 then [[]] else [] := by
  cases most <;> rfl

theorem mem_runs_iff {kind : Char → Bool} {least most : Nat} {t rest : Text} :
    rest ∈ runs kind least most t ↔
      ∃ taken, taken ++ rest = t ∧ least ≤ taken.length ∧ taken.length ≤ most ∧
        ∀ c ∈ taken, kind c := by
  induction t generalizing least most with
  | nil =>
      rw [runs_nil]
      constructor
      · intro member
        obtain ⟨rfl, rfl⟩ : least = 0 ∧ rest = [] := by simpa using member
        exact ⟨[], rfl, by simp⟩
      · rintro ⟨taken, glued, long, -, -⟩
        obtain ⟨rfl, rfl⟩ := List.append_eq_nil_iff.mp glued
        simp [Nat.le_zero.mp long]
  | cons c t ih =>
      cases most with
      | zero =>
          rw [runs]
          constructor
          · intro member
            obtain ⟨rfl, rfl⟩ : least = 0 ∧ rest = c :: t := by simpa using member
            exact ⟨[], rfl, by simp⟩
          · rintro ⟨taken, glued, long, short, -⟩
            obtain rfl : taken = [] := List.length_eq_zero_iff.mp (Nat.le_zero.mp short)
            obtain rfl : rest = c :: t := glued
            simp [Nat.le_zero.mp long]
      | succ most =>
          rw [runs, List.mem_append]
          constructor
          · rintro (here | further)
            · obtain ⟨rfl, rfl⟩ : least = 0 ∧ rest = c :: t := by simpa using here
              exact ⟨[], rfl, by simp⟩
            · obtain ⟨held, inTail⟩ : kind c = true ∧ rest ∈ runs kind (least - 1) most t := by
                simpa using further
              obtain ⟨taken, rfl, long, short, kinds⟩ := ih.mp inTail
              refine ⟨c :: taken, rfl, ?_, Nat.succ_le_succ short,
                List.forall_mem_cons.mpr ⟨held, kinds⟩⟩
              rw [List.length_cons]
              omega
          · rintro ⟨taken, glued, long, short, kinds⟩
            cases taken with
            | nil =>
                left
                obtain rfl : rest = c :: t := glued
                simp [Nat.le_zero.mp long]
            | cons d taken =>
                right
                obtain ⟨rfl, rfl⟩ : d = c ∧ taken ++ rest = t := by simpa using glued
                rw [List.forall_mem_cons] at kinds
                rw [List.length_cons] at long short
                rw [if_pos kinds.1]
                exact ih.mpr ⟨taken, rfl, by omega, by omega, kinds.2⟩

/-- **Trying in order loses nothing.**  The ways of a pattern are all the ways to split off a
text that it spells. -/
theorem exists_way_iff {p : Pattern Name} {t rest : Text} :
    (∃ groups, (groups, rest) ∈ p.ways t) ↔ ∃ taken, taken ++ rest = t ∧ p.Spells taken := by
  induction p generalizing t rest with
  | word w =>
      simp only [ways, Spells, exists_eq_right]
      constructor
      · rintro ⟨groups, member⟩
        obtain ⟨starts, -, rfl⟩ : w.isPrefixOf t = true ∧ groups = [] ∧ rest = t.drop w.length := by
          simpa [Text.startsWith] using member
        exact (List.prefix_iff_eq_append.mp (List.isPrefixOf_iff_prefix.mp starts))
      · rintro rfl
        exact ⟨[], by simp [Text.startsWith]⟩
  | one kind =>
      cases t with
      | nil => simp [ways, Spells]
      | cons c t =>
          simp only [ways, Spells]
          constructor
          · rintro ⟨groups, member⟩
            obtain ⟨held, -, rfl⟩ : kind c = true ∧ groups = [] ∧ rest = t := by simpa using member
            exact ⟨[c], rfl, c, held, rfl⟩
          · rintro ⟨taken, glued, d, held, rfl⟩
            obtain ⟨rfl, rfl⟩ : d = c ∧ rest = t := by simpa using glued
            exact ⟨[], by simp [held]⟩
  | many kind least =>
      have bound : ∀ taken, taken ++ rest = t → taken.length ≤ t.length := by
        rintro taken rfl
        simp
      simp only [ways, Spells, List.mem_map, List.mem_reverse, mem_runs_iff, Prod.mk.injEq]
      constructor
      · rintro ⟨groups, u, ⟨taken, glued, long, -, kinds⟩, -, rfl⟩
        exact ⟨taken, glued, long, kinds⟩
      · rintro ⟨taken, glued, long, kinds⟩
        exact ⟨[], rest, ⟨taken, glued, long, bound taken glued, kinds⟩, rfl, rfl⟩
  | few kind least most => simp [ways, Spells, mem_runs_iff]
  | seq first second ihFirst ihSecond =>
      simp only [ways, Spells, List.mem_flatMap, List.mem_map, Prod.exists, Prod.mk.injEq]
      constructor
      · rintro ⟨groups, outer, u, inFirst, inner, v, inSecond, -, rfl⟩
        obtain ⟨a, rfl, spelledA⟩ := ihFirst.mp ⟨outer, inFirst⟩
        obtain ⟨b, rfl, spelledB⟩ := ihSecond.mp ⟨inner, inSecond⟩
        exact ⟨a ++ b, List.append_assoc a b v, a, b, rfl, spelledA, spelledB⟩
      · rintro ⟨taken, rfl, a, b, rfl, spelledA, spelledB⟩
        obtain ⟨inner, inSecond⟩ := ihSecond.mpr ⟨b, rfl, spelledB⟩
        obtain ⟨outer, inFirst⟩ := ihFirst.mpr ⟨a, rfl, spelledA⟩
        rw [← List.append_assoc] at inFirst
        exact ⟨outer ++ inner, outer, b ++ rest, inFirst, inner, rest, inSecond, rfl, rfl⟩
  | either first second ihFirst ihSecond =>
      simp only [ways, Spells, List.mem_append, exists_or, ihFirst, ihSecond, and_or_left]
  | group name inner ih =>
      simp only [ways, Spells, ← ih, List.mem_map, Prod.exists, Prod.mk.injEq]
      constructor
      · rintro ⟨groups, inside, u, member, -, rfl⟩
        exact ⟨inside, member⟩
      · rintro ⟨inside, member⟩
        exact ⟨_, inside, rest, member, rfl, rfl⟩

theorem matchesWhole_iff {p : Pattern Name} {t : Text} : p.matchesWhole t ↔ p.Spells t := by
  have whole : (∃ groups, (groups, []) ∈ p.ways t) ↔ ∃ taken, taken ++ [] = t ∧ p.Spells taken :=
    exists_way_iff
  simp only [List.append_nil, exists_eq_left] at whole
  rw [← whole, matchesWhole, List.any_eq_true]
  constructor
  · rintro ⟨⟨groups, rest⟩, member, empty⟩
    obtain rfl : rest = [] := List.isEmpty_iff.mp empty
    exact ⟨groups, member⟩
  · rintro ⟨groups, member⟩
    exact ⟨(groups, []), member, rfl⟩

/-- A pattern matches at the start of a text that begins with one it spells. -/
theorem isSome_match?_iff {p : Pattern Name} {t : Text} :
    (p.match? t).isSome ↔ ∃ taken rest, taken ++ rest = t ∧ p.Spells taken := by
  constructor
  · intro found
    obtain ⟨way, first⟩ := Option.isSome_iff_exists.mp found
    obtain ⟨taken, glued, spelled⟩ := exists_way_iff.mp ⟨way.1, List.mem_of_head? first⟩
    exact ⟨taken, way.2, glued, spelled⟩
  · rintro ⟨taken, rest, glued, spelled⟩
    obtain ⟨groups, member⟩ := exists_way_iff.mpr ⟨taken, glued, spelled⟩
    exact List.isSome_head?.mpr (List.ne_nil_of_mem member)

/-! ## Where only the longest run is left -/

/-- Whether a pattern matches nothing that begins with a character of the kind. -/
def Stops (kind : Char → Bool) (p : Pattern Name) : Prop := ∀ c t, kind c → p.ways (c :: t) = []

theorem stops_word {kind : Char → Bool} {c : Char} (other : kind c = false) (w : Text) :
    Stops kind (word (c :: w) : Pattern Name) := by
  intro d t held
  have differs : c ≠ d := by
    rintro rfl
    rw [other] at held
    cases held
  simp [ways, Text.startsWith, List.isPrefixOf, differs]

theorem Stops.seq {kind : Char → Bool} {first : Pattern Name} (stops : Stops kind first)
    (second : Pattern Name) : Stops kind (first.seq second) := by
  intro c t held
  rw [ways, stops c t held]
  rfl

theorem flatMap_reverse_runs {α : Type} {kind : Char → Bool} {f : Text → List α}
    (stops : ∀ c t, kind c → f (c :: t) = []) (least : Nat) (t : Text) :
    (runs kind least t.length t).reverse.flatMap f =
      if least ≤ (t.takeWhile kind).length then f (t.dropWhile kind) else [] := by
  induction t generalizing least with
  | nil =>
      rw [runs_nil]
      by_cases zero : least = 0 <;> simp [zero]
  | cons c t ih =>
      rw [List.length_cons, runs, List.reverse_append, List.flatMap_append]
      cases held : kind c with
      | true =>
          have here : (if least = 0 then [c :: t] else []).reverse.flatMap f = [] := by
            split <;> simp [stops c t held]
          have count : least ≤ (t.takeWhile kind).length + 1 ↔
              least - 1 ≤ (t.takeWhile kind).length := by omega
          rw [here, if_pos rfl, ih, List.append_nil, List.takeWhile_cons_of_pos held,
            List.dropWhile_cons_of_pos held, List.length_cons]
          simp only [count]
      | false => by_cases zero : least = 0 <;> simp [zero, held]

/-- What is left of a text tells what was taken. -/
theorem take_sub_length (taken rest : Text) :
    (taken ++ rest).take ((taken ++ rest).length - rest.length) = taken := by
  rw [List.length_append, Nat.add_sub_cancel, List.take_left]

/-- A greedy run before a pattern that cannot begin inside it is read as far as it goes. -/
theorem ways_seq_many {kind : Char → Bool} {next : Pattern Name} (stops : Stops kind next)
    (name : Name) (least : Nat) (t : Text) :
    (seq (group name (many kind least)) next).ways t =
      if least ≤ (t.takeWhile kind).length then
        (next.ways (t.dropWhile kind)).map fun way => ((name, t.takeWhile kind) :: way.1, way.2)
      else [] := by
  have text : t.take (t.length - (t.dropWhile kind).length) = t.takeWhile kind := by
    have glued := take_sub_length (t.takeWhile kind) (t.dropWhile kind)
    rwa [List.takeWhile_append_dropWhile] at glued
  simp only [ways, List.map_map, List.flatMap_map, Function.comp_def]
  rw [flatMap_reverse_runs]
  · rw [text]
    rfl
  · intro c u held
    rw [stops c u held]
    rfl

/-- The same for a group that ends in a greedy run and begins in another way. -/
theorem ways_seq_group_many {kind : Char → Bool} {next : Pattern Name} (stops : Stops kind next)
    (name : Name) (first : Pattern Name) (t : Text) :
    (seq (group name (seq first (many kind 0))) next).ways t =
      (first.ways t).flatMap fun way =>
        (next.ways (way.2.dropWhile kind)).map fun end_ =>
          ((name, t.take (t.length - (way.2.dropWhile kind).length)) :: (way.1 ++ end_.1),
            end_.2) := by
  simp only [ways, List.map_flatMap, List.map_map, List.flatMap_map, List.flatMap_assoc,
    Function.comp_def, List.append_nil, List.cons_append]
  congr 1
  funext way
  rw [flatMap_reverse_runs]
  · simp
  · intro c u held
    rw [stops c u held]
    rfl

end Pattern

end CompilerFeedback
