/-
# CompilerFeedback.Proofs.Feedback.Groups -- the diagnostics of a text by file

Every entry of a text is filed under the file of its diagnostic, so grouping the entries
by the place where they are filed groups the diagnostics by their files.  What a group
holds is what came in under its path (`Group.diagnostics_of_mem_aggregate`); for the
entries of a text that is the part of its diagnostics that is about one file.

* `grouped_by_file`: what grouping makes of the diagnostics of a text.
* `grouped_in_parts`: a text that is cut where a message opens can be grouped in parts.
-/
import CompilerFeedback.Proofs.Feedback
import CompilerFeedback.Proofs.Group

namespace CompilerFeedback.Feedback

set_option autoImplicit false

theorem file_of_mem_entries {base text : Text} {entry : Entry} (member : entry ∈ entries base text) :
    entry.diagnostic.span.file = entry.location := by
  obtain ⟨block, -, made⟩ := List.mem_filterMap.mp member
  exact Entry.file_of_ofBlock? made

/-- The diagnostics of a text, in the order of its blocks. -/
def diagnostics (base text : Text) : List Diagnostic := (entries base text).map (·.diagnostic)

/-- Each entry as a group of its own. -/
def singletons (base text : Text) : List Group :=
  (entries base text).map fun e => ⟨e.location, [e.diagnostic]⟩

theorem flatMap_singletons (base text : Text) :
    (singletons base text).flatMap (·.diagnostics) = diagnostics base text := by
  rw [singletons, diagnostics, List.flatMap_map, List.map_eq_flatMap]

theorem gather_singletons (path base text : Text) :
    Group.gather path (singletons base text) =
      (diagnostics base text).filter (·.span.file == path) := by
  have sameFile : ∀ entry ∈ entries base text,
      (entry.location == path) = (entry.diagnostic.span.file == path) := fun entry member => by
    rw [file_of_mem_entries member]
  unfold singletons diagnostics
  generalize entries base text = given at sameFile
  induction given with
  | nil => rfl
  | cons entry rest ih =>
      have later := ih fun e member => sameFile e (List.mem_cons_of_mem entry member)
      have here := sameFile entry List.mem_cons_self
      rw [List.map_cons, Group.gather_cons, later, List.map_cons, List.filter_cons, ← here]
      by_cases same : entry.location = path <;> simp [same]

/-- A group holds diagnostics of its own file only. -/
theorem file_of_mem_groups {base text : Text} {group : Group} (member : group ∈ groups base text) :
    ∀ d ∈ group.diagnostics, d.span.file = group.location := by
  intro d inGroup
  have held : group.diagnostics = Group.gather group.location (singletons base text) :=
    Group.diagnostics_of_mem_aggregate member
  rw [held, gather_singletons, List.mem_filter] at inGroup
  exact beq_iff_eq.mp inGroup.2

/-- **Grouping, and what it makes of the diagnostics of a text.**  There is one group for
each path that comes in, in the order in which the paths are first seen, and it holds all
that came in under its path, in order.  So every diagnostic of a text is in the groups
exactly once, in the group of its own file, and the diagnostics of one file stand in the
order of the text. -/
theorem grouped_by_file :
    (∀ given : List Group,
      (Group.locations (Group.aggregate given)).Nodup ∧
        Group.locations (Group.aggregate given) = (Group.locations given).eraseDups ∧
        (Group.locations (Group.aggregate given)).Pairwise (fun a b =>
          (Group.locations given).idxOf a < (Group.locations given).idxOf b) ∧
        ∀ group ∈ Group.aggregate given,
          ((given.find? (·.location == group.location)).map (·.location) = some group.location) ∧
            group.diagnostics =
              (given.filter (·.location == group.location)).flatMap (·.diagnostics)) ∧
      ∀ base text : Text,
        ((groups base text).flatMap (·.diagnostics)).Perm (diagnostics base text) ∧
          ∀ group ∈ groups base text,
            (∀ d ∈ group.diagnostics, d.span.file = group.location) ∧
              group.diagnostics =
                (diagnostics base text).filter (·.span.file == group.location) := by
  constructor
  · intro given
    refine ⟨Group.nodup_locations_aggregate given, Group.locations_aggregate given,
      Group.pairwise_idxOf_locations_aggregate given, fun group member => ⟨?_, ?_⟩⟩
    · exact Group.find?_location (Group.mem_locations_aggregate.mp (List.mem_map_of_mem member))
    · exact Group.diagnostics_of_mem_aggregate member
  · intro base text
    constructor
    · rw [← flatMap_singletons]
      exact Group.perm_aggregate (singletons base text)
    · intro group member
      have held : group.diagnostics =
          (diagnostics base text).filter (·.span.file == group.location) := by
        rw [← gather_singletons]
        exact Group.diagnostics_of_mem_aggregate member
      refine ⟨fun d inGroup => ?_, held⟩
      rw [held, List.mem_filter] at inGroup
      exact beq_iff_eq.mp inGroup.2

/-! ## Grouping in parts -/

theorem singletons_append_feed (base a : Text) {b : Text} (opens : Block.Opens (Text.lines b)) :
    singletons base (a ++ '\n' :: b) = singletons base a ++ singletons base b := by
  have parts : entries base (a ++ '\n' :: b) = entries base a ++ entries base b :=
    entries_append_of_blocks base (blocks_append_feed a (Or.inr opens))
  rw [singletons, parts, List.map_append]
  rfl

/-- **Groups can be built in parts.**  Grouping what was grouped in two parts gives the groups
of the whole, so grouping once more changes nothing; and a text that goes on, after a line
feed, with a line that opens a message has the groups of its two parts, put together. -/
theorem grouped_in_parts :
    (∀ a b : List Group,
      Group.aggregate (a ++ b) = Group.aggregate (Group.aggregate a ++ Group.aggregate b)) ∧
      (∀ given : List Group, Group.aggregate (Group.aggregate given) = Group.aggregate given) ∧
      ∀ base a b : Text, Block.Opens (Text.lines b) →
        groups base (a ++ '\n' :: b) = Group.aggregate (groups base a ++ groups base b) := by
  refine ⟨Group.aggregate_append, Group.aggregate_aggregate, fun base a b opens => ?_⟩
  calc groups base (a ++ '\n' :: b)
      = Group.aggregate (singletons base (a ++ '\n' :: b)) := rfl
    _ = Group.aggregate (singletons base a ++ singletons base b) := by
        rw [singletons_append_feed base a opens]
    _ = Group.aggregate (groups base a ++ groups base b) := Group.aggregate_append _ _

/-- Two files on both sides of a blank line, in another order behind it. -/
theorem grouped_in_parts_shared :
    Block.Opens (Text.lines "\r\n/b:3:1: later\n/a:4:1: last".toList) ∧
      groups ['/'] ("/a:1:1: first\n/b:2:1: next".toList ++
          '\n' :: "\r\n/b:3:1: later\n/a:4:1: last".toList) =
        Group.aggregate (groups ['/'] "/a:1:1: first\n/b:2:1: next".toList ++
          groups ['/'] "\r\n/b:3:1: later\n/a:4:1: last".toList) :=
  have opens : Block.Opens (Text.lines "\r\n/b:3:1: later\n/a:4:1: last".toList) := by decide
  ⟨opens, grouped_in_parts.2.2 _ _ _ opens⟩

end CompilerFeedback.Feedback
