/-
# CompilerFeedback.Proofs.Group -- which groups there are

A group that comes in takes the place of its path: the place where the path was seen
first.  So the paths of the groups are the paths that came in, each one once, in the
order of first occurrence (`locations_aggregate`).

As no path has two groups (`nodup_locations_aggregate`), what comes in goes to the end
of all that is filed under its path.  A group then holds what came in under its path, in
the order in which it came (`diagnostics_of_mem_aggregate`), and nothing is lost or
doubled on the way (`perm_aggregate`).

Groups with distinct paths are determined by these two views (`eq_of_views`).  Neither of
them changes when a part is grouped before the rest comes in (`aggregate_append`).
-/
import CompilerFeedback.Group
import Mathlib.Data.List.Induction

namespace CompilerFeedback.Group

set_option autoImplicit false

theorem locations_insert (new : Group) (groups : List Group) :
    locations (insert new groups) =
      if new.location ∈ locations groups then locations groups
      else locations groups ++ [new.location] := by
  induction groups with
  | nil => rfl
  | cons group groups ih =>
      rw [insert]
      by_cases same : group.location = new.location
      · rw [if_pos same, if_pos (by simp [locations, same])]
        rfl
      · have tail : locations (group :: insert new groups) =
            group.location :: locations (insert new groups) := rfl
        have head : locations (group :: groups) = group.location :: locations groups := rfl
        rw [if_neg same, tail, ih, head]
        by_cases seen : new.location ∈ locations groups
        · rw [if_pos seen, if_pos (List.mem_cons_of_mem _ seen)]
        · rw [if_neg seen, if_neg (by simp [seen, Ne.symm same])]
          rfl

theorem eraseDups_concat (paths : List Text) (path : Text) :
    (paths ++ [path]).eraseDups =
      if path ∈ paths.eraseDups then paths.eraseDups else paths.eraseDups ++ [path] := by
  rw [List.eraseDups_append, List.removeAll]
  by_cases seen : path ∈ paths
  · simp [seen]
  · simp [seen, List.eraseDups_cons]

theorem aggregate_concat (groups : List Group) (group : Group) :
    aggregate (groups ++ [group]) = insert group (aggregate groups) := by simp [aggregate]

theorem locations_concat (groups : List Group) (group : Group) :
    locations (groups ++ [group]) = locations groups ++ [group.location] := by simp [locations]

/-- **The groups stand in the order in which their paths were first seen.** -/
theorem locations_aggregate (groups : List Group) :
    locations (aggregate groups) = (locations groups).eraseDups := by
  induction groups using List.reverseRecOn with
  | nil => rfl
  | append_singleton groups group ih =>
      rw [aggregate_concat, locations_insert, ih, locations_concat, eraseDups_concat]

theorem mem_locations_aggregate {groups : List Group} {path : Text} :
    path ∈ locations (aggregate groups) ↔ path ∈ locations groups := by
  rw [locations_aggregate, List.mem_eraseDups]

/-! ## One group for each path -/

/-- Of two groups, the first one is that whose path was seen first. -/
theorem pairwise_idxOf_locations_aggregate (groups : List Group) :
    (locations (aggregate groups)).Pairwise fun a b =>
      (locations groups).idxOf a < (locations groups).idxOf b := by
  induction groups using List.reverseRecOn with
  | nil => exact List.Pairwise.nil
  | append_singleton groups group ih =>
      rw [aggregate_concat, locations_insert, locations_concat]
      -- the paths that were seen keep their index
      have kept : ∀ {path}, path ∈ locations (aggregate groups) →
          (locations groups ++ [group.location]).idxOf path = (locations groups).idxOf path :=
        fun seen => by rw [List.idxOf_append, if_pos (mem_locations_aggregate.mp seen)]
      have before : (locations (aggregate groups)).Pairwise fun a b =>
          (locations groups ++ [group.location]).idxOf a <
            (locations groups ++ [group.location]).idxOf b := by
        refine ih.imp_of_mem fun inA inB less => ?_
        rwa [kept inA, kept inB]
      split
      · exact before
      · rename_i unseen
        refine List.pairwise_append.mpr ⟨before, List.pairwise_singleton _ _, ?_⟩
        intro path seen new member
        obtain rfl := List.mem_singleton.mp member
        have fresh : group.location ∉ locations groups := fun inGiven =>
          unseen (mem_locations_aggregate.mpr inGiven)
        have within := List.idxOf_lt_length_of_mem (mem_locations_aggregate.mp seen)
        rw [kept seen, List.idxOf_append, if_neg fresh]
        omega

theorem nodup_locations_aggregate (groups : List Group) : (locations (aggregate groups)).Nodup := by
  refine (pairwise_idxOf_locations_aggregate groups).imp ?_
  rintro path _ less rfl
  exact Nat.lt_irrefl _ less

theorem nodup_locations_cons {group : Group} {groups : List Group} :
    (locations (group :: groups)).Nodup ↔
      group.location ∉ locations groups ∧ (locations groups).Nodup := List.nodup_cons

/-- The first of the groups of a path. -/
theorem find?_location {groups : List Group} {path : Text} (seen : path ∈ locations groups) :
    (groups.find? (·.location == path)).map (·.location) = some path := by
  obtain ⟨group, member, rfl⟩ := List.mem_map.mp seen
  cases found : groups.find? (·.location == group.location) with
  | none => exact absurd (List.find?_eq_none.mp found group member) (by simp)
  | some first => simpa using List.find?_some found

/-! ## What a group holds -/

theorem gather_cons (path : Text) (group : Group) (groups : List Group) :
    gather path (group :: groups) =
      (if group.location = path then group.diagnostics else []) ++ gather path groups := by
  unfold gather
  by_cases same : group.location = path
  · rw [if_pos same, List.filter_cons_of_pos (by simpa using same), List.flatMap_cons]
  · rw [if_neg same, List.filter_cons_of_neg (by simpa using same), List.nil_append]

theorem gather_append (path : Text) (a b : List Group) :
    gather path (a ++ b) = gather path a ++ gather path b := by
  simp [gather]

theorem gather_of_notMem {path : Text} {groups : List Group} (unseen : path ∉ locations groups) :
    gather path groups = [] := by
  induction groups with
  | nil => rfl
  | cons group groups ih =>
      have differs : group.location ≠ path := fun same => unseen (by simp [locations, same])
      have rest : path ∉ locations groups := fun later => unseen (List.mem_cons_of_mem _ later)
      rw [gather_cons, if_neg differs, ih rest, List.nil_append]

/-- What comes in goes behind all that is filed under its path. -/
theorem gather_insert {groups : List Group} (distinct : (locations groups).Nodup) (new : Group)
    (path : Text) : gather path (insert new groups) = gather path groups ++ gather path [new] := by
  induction groups with
  | nil => rfl
  | cons group groups ih =>
      obtain ⟨alone, rest⟩ := nodup_locations_cons.mp distinct
      rw [insert]
      by_cases same : group.location = new.location
      · rw [if_pos same]
        simp only [gather_cons]
        by_cases here : group.location = path
        · -- the path has no other group that could stand in between
          rw [here] at alone
          have later : gather path groups = [] := gather_of_notMem alone
          rw [if_pos here, if_pos here, if_pos (same ▸ here), later]
          simp [gather]
        · rw [if_neg here, if_neg here, if_neg fun there => here (same.trans there)]
          simp [gather]
      · rw [if_neg same, gather_cons, ih rest, gather_cons path group groups, List.append_assoc]

theorem gather_aggregate (path : Text) (groups : List Group) :
    gather path (aggregate groups) = gather path groups := by
  induction groups using List.reverseRecOn with
  | nil => rfl
  | append_singleton groups group ih =>
      rw [aggregate_concat, gather_insert (nodup_locations_aggregate groups), ih, gather_append]

theorem diagnostics_eq_gather {groups : List Group} (distinct : (locations groups).Nodup)
    {group : Group} (member : group ∈ groups) : group.diagnostics = gather group.location groups := by
  induction groups with
  | nil => cases member
  | cons first rest ih =>
      obtain ⟨alone, restDistinct⟩ := nodup_locations_cons.mp distinct
      rw [gather_cons]
      rcases List.mem_cons.mp member with rfl | later
      · rw [if_pos rfl, gather_of_notMem alone, List.append_nil]
      · have inRest : group.location ∈ locations rest := List.mem_map_of_mem later
        have differs : first.location ≠ group.location := fun same => alone (same ▸ inRest)
        rw [if_neg differs, List.nil_append]
        exact ih restDistinct later

/-- **A group holds all that came in under its path, in the order in which it came.** -/
theorem diagnostics_of_mem_aggregate {groups : List Group} {group : Group}
    (member : group ∈ aggregate groups) : group.diagnostics = gather group.location groups := by
  rw [diagnostics_eq_gather (nodup_locations_aggregate groups) member, gather_aggregate]

/-! ## Nothing is lost or doubled -/

theorem perm_insert (new : Group) (groups : List Group) :
    ((insert new groups).flatMap (·.diagnostics)).Perm
      (groups.flatMap (·.diagnostics) ++ new.diagnostics) := by
  induction groups with
  | nil => simp [insert]
  | cons group groups ih =>
      rw [insert]
      split
      · simp only [List.flatMap_cons, List.append_assoc]
        exact (List.perm_append_comm).append_left group.diagnostics
      · simp only [List.flatMap_cons, List.append_assoc]
        exact ih.append_left group.diagnostics

theorem perm_aggregate (groups : List Group) :
    ((aggregate groups).flatMap (·.diagnostics)).Perm (groups.flatMap (·.diagnostics)) := by
  induction groups using List.reverseRecOn with
  | nil => exact List.Perm.refl _
  | append_singleton groups group ih =>
      have last : (groups ++ [group]).flatMap (·.diagnostics) =
          groups.flatMap (·.diagnostics) ++ group.diagnostics := by simp
      rw [aggregate_concat, last]
      exact (perm_insert group _).trans (ih.append_right group.diagnostics)

/-! ## Grouping in parts -/

/-- Groups with distinct paths are made up of their paths and what is filed under them. -/
theorem eq_map_gather {groups : List Group} (distinct : (locations groups).Nodup) :
    groups = (locations groups).map fun path => ⟨path, gather path groups⟩ := by
  have each : ∀ group ∈ groups, (⟨group.location, gather group.location groups⟩ : Group) = group :=
    fun group member => by rw [← diagnostics_eq_gather distinct member]
  calc groups = groups.map id := (List.map_id groups).symm
    _ = groups.map fun group => ⟨group.location, gather group.location groups⟩ :=
        List.map_congr_left fun group member => (each group member).symm
    _ = (locations groups).map fun path => ⟨path, gather path groups⟩ := by simp [locations]

theorem eq_of_views {a b : List Group} (distinct : (locations a).Nodup)
    (names : locations a = locations b) (held : ∀ path, gather path a = gather path b) : a = b := by
  calc a = (locations a).map fun path => ⟨path, gather path a⟩ := eq_map_gather distinct
    _ = (locations b).map fun path => ⟨path, gather path b⟩ := by simp only [names, held]
    _ = b := (eq_map_gather (names ▸ distinct)).symm

theorem locations_append (a b : List Group) : locations (a ++ b) = locations a ++ locations b :=
  List.map_append

theorem eraseDups_append_eraseDups (a b : List Text) :
    (a ++ b.eraseDups).eraseDups = (a ++ b).eraseDups := by
  induction b using List.reverseRecOn with
  | nil => rfl
  | append_singleton b path ih =>
      rw [eraseDups_concat, ← List.append_assoc, eraseDups_concat, ← ih]
      split
      · rename_i seen
        have inWhole : path ∈ (a ++ b.eraseDups).eraseDups := by simp_all
        rw [if_pos inWhole]
      · rw [← List.append_assoc, eraseDups_concat]

theorem eraseDups_eraseDups_append (a b : List Text) :
    (a.eraseDups ++ b).eraseDups = (a ++ b).eraseDups := by
  induction b using List.reverseRecOn with
  | nil => simpa using eraseDups_append_eraseDups [] a
  | append_singleton b path ih =>
      rw [← List.append_assoc, ← List.append_assoc, eraseDups_concat, eraseDups_concat, ih]

/-- **What comes in can be grouped in parts**, and the groups of the parts together. -/
theorem aggregate_append (a b : List Group) :
    aggregate (a ++ b) = aggregate (aggregate a ++ aggregate b) := by
  apply eq_of_views (nodup_locations_aggregate _)
  · simp only [locations_aggregate, locations_append, eraseDups_append_eraseDups,
      eraseDups_eraseDups_append]
  · intro path
    simp only [gather_aggregate, gather_append]

/-- Groups stay as they are when they are grouped again. -/
theorem aggregate_aggregate (groups : List Group) :
    aggregate (aggregate groups) = aggregate groups := by
  apply eq_of_views (nodup_locations_aggregate _)
  · rw [locations_aggregate, locations_aggregate]
    exact eraseDups_append_eraseDups [] (locations groups)
  · exact fun path => gather_aggregate path (aggregate groups)

end CompilerFeedback.Group
