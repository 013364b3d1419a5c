/-
# CompilerFeedback.Proofs.Journal.Name -- which journals belong to another one

Names are cut before their dots, from the right, and the dot directly before a cut is
passed over.  A name that goes on from another one with a single dot (`IsBelow`) comes
down to that one, for every longer cut is a name of the same kind (`namesAbove_of_isBelow`).
So it belongs to that one as soon as that one is in use, whatever names between the two are
in use besides (`isWithin_of_isBelow`).

With two dots the name may be missed: `a..b` is cut to `a.`, and then to nothing.
-/
import CompilerFeedback.Journal.Name
import CompilerFeedback.Proofs.Text
import Mathlib.Data.List.Basic

namespace CompilerFeedback.Journal

set_option autoImplicit false

variable {top name : Text}

/-- Whether a name goes on from `top` with a dot, and not with two. -/
def IsBelow (top name : Text) : Prop := ∃ rest, name = top ++ '.' :: rest ∧ rest.head? ≠ some '.'

theorem cutName?_append (held : name ≠ []) {last : Text} (free : '.' ∉ last) :
    cutName? (name ++ '.' :: last) = some name := by
  have kept : ∀ c ∈ last.reverse, (c != '.') = true := by
    intro c member
    simpa using ne_of_mem_of_not_mem (List.mem_reverse.mp member) free
  have cut : ((name ++ '.' :: last).reverse.dropWhile (· != '.')).drop 1 = name.reverse := by
    simp [List.dropWhile_append_of_pos kept]
  unfold cutName?
  rw [cut]
  cases reversed : name.reverse with
  | nil => exact absurd (List.reverse_eq_nil_iff.mp reversed) held
  | cons c rest =>
      show some (c :: rest).reverse = some name
      rw [← reversed, List.reverse_reverse]

theorem namesAbove_of_cutName? {shorter : Text} (cut : cutName? name = some shorter) :
    namesAbove name = shorter :: namesAbove shorter.dropLast := by
  rw [namesAbove]
  split
  · rename_i none_
    rw [cut] at none_
    cases none_
  · rename_i other same
    obtain rfl : shorter = other := by simpa [cut] using same
    rfl

/-- The names above one that is below `top` come down to `top`, and are below it till then. -/
theorem namesAbove_of_isBelow (held : top ≠ []) (below : IsBelow top name) :
    ∃ nearer further, namesAbove name = nearer ++ top :: further ∧
      ∀ above ∈ nearer, IsBelow top above := by
  obtain ⟨rest, rfl, single⟩ := below
  induction size : rest.length using Nat.strongRecOn generalizing rest with
  | ind n ih =>
    by_cases dotted : '.' ∈ rest
    · obtain ⟨before, after, rfl, free⟩ := Text.exists_last_mark dotted
      -- the cut is not at the first dot, so it leaves a character behind that dot
      have begun : before ≠ [] := by
        rintro rfl
        exact single rfl
      have first : before.head? ≠ some '.' := by
        rwa [List.head?_append_of_ne_nil _ begun] at single
      have passed : before.dropLast.head? ≠ some '.' := by
        intro dot
        obtain ⟨last, glued⟩ := List.dropLast_prefix before
        apply first
        rw [← glued, List.head?_append, dot]
        rfl
      have cut : cutName? (top ++ '.' :: (before ++ '.' :: after)) = some (top ++ '.' :: before) := by
        have longer : top ++ '.' :: before ≠ [] := by simp
        rw [← cutName?_append longer free, List.append_assoc, List.cons_append]
      have next : (top ++ '.' :: before).dropLast = top ++ '.' :: before.dropLast := by
        rw [List.dropLast_append_of_ne_nil (List.cons_ne_nil _ _), List.dropLast_cons_of_ne_nil begun]
      have shorter : before.dropLast.length < n := by
        simp only [← size, List.length_append, List.length_cons, List.length_dropLast]
        omega
      obtain ⟨nearer, further, names, each⟩ := ih _ shorter before.dropLast passed rfl
      refine ⟨(top ++ '.' :: before) :: nearer, further, ?_, ?_⟩
      · rw [namesAbove_of_cutName? cut, next, names]
        rfl
      · intro above member
        rcases List.mem_cons.mp member with rfl | later
        · exact ⟨before, rfl, first⟩
        · exact each above later
    · exact ⟨[], _, namesAbove_of_cutName? (cutName?_append held dotted), by simp⟩

/-- **A name below one that is in use belongs to it.** -/
theorem isWithin_of_isBelow {used : List Text} (inUse : top ∈ used) (held : top ≠ [])
    (below : IsBelow top name) : isWithin used top name := by
  induction size : name.length using Nat.strongRecOn generalizing name with
  | ind n ih =>
    obtain ⟨nearer, further, names, each⟩ := namesAbove_of_isBelow held below
    have reached : ∃ above, parent? used name = some above ∧ (above = top ∨ IsBelow top above) := by
      rw [parent?, names, List.find?_append]
      cases found : nearer.find? (used.contains ·) with
      | some above => exact ⟨above, rfl, Or.inr (each above (List.mem_of_find?_eq_some found))⟩
      | none => exact ⟨top, by simp [inUse], Or.inl rfl⟩
    obtain ⟨above, parent, kind⟩ := reached
    rw [isWithin]
    split
    · rfl
    · split
      · rename_i none_
        rw [parent] at none_
        cases none_
      · rename_i other same
        obtain rfl : above = other := by simpa [parent] using same
        rcases kind with rfl | closer
        · rw [isWithin, if_pos rfl]
        · have less : above.length < n :=
            size ▸ length_lt_of_mem_namesAbove (List.mem_of_find?_eq_some parent)
          exact ih _ less closer rfl

end CompilerFeedback.Journal
