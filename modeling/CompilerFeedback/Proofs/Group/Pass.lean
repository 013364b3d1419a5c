/-
# CompilerFeedback.Proofs.Group.Pass -- grouping in one pass

Groups can be made while diagnostics come in, with no search through those that are made
already.  A pass holds an index of the paths that were seen, each with the number of its
group.  A path of the index adds to its group; any other path gets the last group and goes
into the index.

* `Indexed`: the index gives the number of the first group of each path, and gives no
  number for a path without a group.  `Indexed.take` keeps that for one group more, and
  `Indexed.run` for all.
* `run_eq_aggregate`: the pass makes the groups that `aggregate` makes.
-/
import CompilerFeedback.Proofs.Group

namespace CompilerFeedback.Group

set_option autoImplicit false

variable {new : Group} {groups more : List Group} {path : Text}

/-! ## The number of a group -/

/-- A group with the diagnostics of another one behind its own. -/
def extend (new group : Group) : Group := ⟨group.location, group.diagnostics ++ new.diagnostics⟩

theorem locations_modify (new : Group) (groups : List Group) (i : Nat) :
    locations (groups.modify i (extend new)) = locations groups := by
  induction groups generalizing i with
  | nil => rw [List.modify_nil]
  | cons group groups ih =>
      cases i with
      | zero => rfl
      | succ i =>
          rw [List.modify_succ_cons]
          exact congrArg (group.location :: ·) (ih i)

theorem idxOf?_locations_concat (groups : List Group) (new : Group) (path : Text) :
    (locations (groups ++ [new])).idxOf? path =
      ((locations groups).idxOf? path).or
        (if new.location = path then some groups.length else none) := by
  rw [locations_concat]
  simp only [List.idxOf?, List.findIdx?_append, List.findIdx?_singleton, beq_iff_eq]
  congr 1
  split <;> simp [locations]

/-- A group that comes in goes where the number of its path says. -/
theorem insert_of_idxOf? (new : Group) (groups : List Group) :
    insert new groups =
      ((locations groups).idxOf? new.location).elim (groups ++ [new])
        fun i => groups.modify i (extend new) := by
  induction groups with
  | nil => rfl
  | cons group groups ih =>
      have names : locations (group :: groups) = group.location :: locations groups := rfl
      rw [insert, names, List.idxOf?_cons]
      by_cases same : group.location = new.location
      · rw [if_pos same, if_pos (beq_iff_eq.mpr same), Option.elim_some, List.modify_zero_cons]
        rfl
      · rw [if_neg same, if_neg (by simpa using same), ih]
        cases (locations groups).idxOf? new.location with
        | none => rfl
        | some i => rfl

/-! ## One pass -/

/-- How far groups have come in: the number of the group of each path, and the groups. -/
structure Pass where
  index : List (Text × Nat)
  groups : List Group

namespace Pass

variable {s : Pass}

/-- A pass before the first group. -/
def start : Pass := ⟨[], []⟩

/-- One group more. -/
def take (s : Pass) (new : Group) : Pass :=
  match s.index.lookup new.location with
  | none => ⟨(new.location, s.groups.length) :: s.index, s.groups ++ [new]⟩
  | some i => ⟨s.index, s.groups.modify i (extend new)⟩

/-- The groups with one group for each path, made in one pass. -/
def run (groups : List Group) : List Group := (groups.foldl take start).groups

/-- Whether the index gives each path the number of its first group. -/
def Indexed (s : Pass) : Prop := ∀ path, s.index.lookup path = (locations s.groups).idxOf? path

theorem indexed_start : start.Indexed := fun _ => rfl

/-- One group more goes where `insert` puts it. -/
theorem Indexed.groups_take (indexed : s.Indexed) (new : Group) :
    (s.take new).groups = insert new s.groups := by
  rw [insert_of_idxOf?, ← indexed, take]
  cases s.index.lookup new.location <;> rfl

theorem Indexed.take (indexed : s.Indexed) (new : Group) : (s.take new).Indexed := by
  intro path
  rw [Pass.take]
  cases found : s.index.lookup new.location with
  | none =>
      have unseen : (locations s.groups).idxOf? new.location = none := by rw [← indexed, found]
      dsimp only
      rw [List.lookup_cons, idxOf?_locations_concat]
      by_cases here : path = new.location
      · rw [here, beq_self_eq_true, unseen, if_pos rfl]
        rfl
      · rw [beq_eq_false_iff_ne.mpr here, if_neg (Ne.symm here), Option.or_none]
        exact indexed path
  | some i =>
      dsimp only
      rw [locations_modify]
      exact indexed path

theorem Indexed.run (indexed : s.Indexed) :
    (more.foldl Pass.take s).groups = more.foldl (fun done group => insert group done) s.groups := by
  induction more generalizing s with
  | nil => rfl
  | cons new more ih =>
      rw [List.foldl_cons, List.foldl_cons, ← indexed.groups_take new]
      exact ih (indexed.take new)

end Pass

/-- **The groups are made in one pass**, with a search in the index of paths alone. -/
theorem run_eq_aggregate (groups : List Group) : Pass.run groups = aggregate groups :=
  Pass.indexed_start.run

end CompilerFeedback.Group
