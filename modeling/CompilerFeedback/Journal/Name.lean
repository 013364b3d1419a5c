/-
# CompilerFeedback.Journal.Name -- names of journals

The names of journals are dotted.  A journal belongs to the nearest one above it
that is in use: names are cut before a dot, from the right, and a dot that stands
directly before the last cut is passed over.  An empty name is none.
-/
import CompilerFeedback.Text.Basic

namespace CompilerFeedback.Journal

set_option autoImplicit false

/-- The name before the last dot, if there is a dot and anything before it. -/
def cutName? (name : Text) : Option Text :=
  match (name.reverse.dropWhile (· != '.')).drop 1 with
  | [] => none
  | c :: rest => some (c :: rest).reverse

theorem length_lt_of_cutName? {name shorter : Text} (cut : cutName? name = some shorter) :
    shorter.length < name.length := by
  unfold cutName? at cut
  split at cut
  · exact absurd cut (by simp)
  · rename_i c rest tail
    have short := congrArg List.length tail
    have bound := (name.reverse.dropWhile_sublist (· != '.')).length_le
    simp only [List.length_drop, List.length_cons, List.length_reverse] at short bound
    cases cut
    simp only [List.length_reverse, List.length_cons]
    omega

/-- The names above a name, the longest first. -/
def namesAbove (name : Text) : List Text :=
  match _ : cutName? name with
  | none => []
  | some shorter => shorter :: namesAbove shorter.dropLast
termination_by name.length
decreasing_by
  have := length_lt_of_cutName? ‹cutName? name = some shorter›
  simp only [List.length_dropLast]
  omega

theorem length_lt_of_mem_namesAbove {name above : Text} (h : above ∈ namesAbove name) :
    above.length < name.length := by
  induction name using namesAbove.induct with
  | case1 name none => unfold namesAbove at h; split at h <;> simp_all
  | case2 name shorter cut ih =>
      have short := length_lt_of_cutName? cut
      unfold namesAbove at h
      split at h
      · simp_all
      · rename_i other same
        obtain rfl : shorter = other := by simpa [cut] using same
        rcases List.mem_cons.mp h with rfl | deeper
        · exact short
        · have := ih deeper
          simp only [List.length_dropLast] at this
          omega

/-- The nearest name above that is in use. -/
def parent? (used : List Text) (name : Text) : Option Text :=
  (namesAbove name).find? (used.contains ·)

/-- Whether one climbs from `name` to `top` over names in use. -/
def isWithin (used : List Text) (top name : Text) : Bool :=
  if name = top then true
  else
    match _ : parent? used name with
    | none => false
    | some above => isWithin used top above
termination_by name.length
decreasing_by
  exact length_lt_of_mem_namesAbove (List.mem_of_find?_eq_some ‹parent? used name = some above›)

end CompilerFeedback.Journal
