/-
# CompilerFeedback.Proofs.Path.Spelling -- the spellings of one file

A file can be written in many ways: with doubled slashes, with single dots, and with
detours that `..` takes back.  What they have in common is where they lead when their
components are walked from the root (`Path.walked`): an empty component or a dot stays, `..`
goes back to the name before, and stays at the root.

A path that is resolved in a rooted directory is the names of this walk, with slashes
between them and one or two in front (`resolve_eq_render`).  So two spellings resolve to one
text if and only if their walks end at the same names (`spellings_of_one_file`).
-/
import CompilerFeedback.Proofs.Path

namespace CompilerFeedback.Path

set_option autoImplicit false

variable {base raw component : Text} {names stack : List Text} {root : Root}

/-! ## Walking components -/

/-- The names gone through after one more component. -/
def visit (names : List Text) (component : Text) : List Text :=
  if component = [] ∨ component = ['.'] then names
  else if component = up then names.dropLast
  else names ++ [component]

/-- The names gone through from the root along `base`, and along `raw` from there. -/
def walked (base raw : Text) : List Text :=
  (raw.splitOn '/').foldl visit ((base.splitOn '/').foldl visit [])

theorem visit_of_not_isName (noName : isName component = false) : visit names component = names :=
  if_pos (isName_eq_false_iff.mp noName)

theorem visit_of_isName (name : isName component = true) :
    visit names component = if component = up then names.dropLast else names ++ [component] := by
  refine if_neg fun blank => ?_
  rw [isName_eq_false_iff.mpr blank] at name
  cases name

/-- Whether names can stand in a path without `..`. -/
def IsPlain (names : List Text) : Prop :=
  ∀ name ∈ names, isName name = true ∧ '/' ∉ name ∧ name ≠ up

theorem IsPlain.visit (plain : IsPlain names) (noSlash : '/' ∉ component) :
    IsPlain (visit names component) := by
  cases name : isName component with
  | false => rwa [visit_of_not_isName name]
  | true =>
      rw [visit_of_isName name]
      split
      · exact fun other member => plain other (List.dropLast_subset _ member)
      · rename_i noUp
        intro other member
        rcases List.mem_append.mp member with before | last
        · exact plain other before
        · rw [List.mem_singleton.mp last]
          exact ⟨name, noSlash, noUp⟩

/-- A walk goes through plain names only. -/
theorem IsPlain.foldl_visit {components : List Text} (plain : IsPlain names)
    (noSlash : ∀ c ∈ components, '/' ∉ c) : IsPlain (components.foldl Path.visit names) := by
  induction components generalizing names with
  | nil => exact plain
  | cons component components ih =>
      rw [List.forall_mem_cons] at noSlash
      exact ih (plain.visit noSlash.1) noSlash.2

theorem isPlain_walked (base raw : Text) : IsPlain (walked base raw) := by
  have noSlash : ∀ t : Text, ∀ c ∈ t.splitOn '/', '/' ∉ c :=
    fun t c piece slash => (Text.of_mem_splitOn piece '/' slash).2 rfl
  have nothing : IsPlain [] := fun name member => absurd member List.not_mem_nil
  exact (nothing.foldl_visit (noSlash base)).foldl_visit (noSlash raw)

/-! ## Collapsing is walking -/

/-- From a root, one name on the stack is one component of the walk. -/
theorem reverse_push (rooted : root ≠ .relative) (noUp : up ∉ stack) (name : isName component = true) :
    (push root stack component).reverse = visit stack.reverse component := by
  rw [visit_of_isName name]
  by_cases isUp : component = up
  · cases stack with
    | nil => simp [push, isUp, rooted]
    | cons top below =>
        have isTop : top ≠ up := fun same => noUp (by simp [same])
        simp [push, isUp, isTop]
  · simp [push, isUp]

theorem up_not_mem_push (rooted : root ≠ .relative) (noUp : up ∉ stack) (component : Text) :
    up ∉ push root stack component := by
  by_cases isUp : component = up
  · cases stack with
    | nil => simp [push, isUp, rooted]
    | cons top below =>
        rw [List.mem_cons, not_or] at noUp
        simp [push, isUp, Ne.symm noUp.1, noUp.2]
  · simp [push, isUp, Ne.symm isUp, noUp]

/-- From a root, the stack of a path is its walk backwards. -/
theorem reverse_foldl_push (rooted : root ≠ .relative) (noUp : up ∉ stack) (components : List Text) :
    ((components.filter isName).foldl (push root) stack).reverse =
      components.foldl visit stack.reverse := by
  induction components generalizing stack with
  | nil => rfl
  | cons component components ih =>
      cases name : isName component with
      | false =>
          rw [List.filter_cons_of_neg (by simp [name]), ih noUp, List.foldl_cons,
            visit_of_not_isName name]
      | true =>
          rw [List.filter_cons_of_pos name, List.foldl_cons, ih (up_not_mem_push rooted noUp _),
            reverse_push rooted noUp name, List.foldl_cons]

/-! ## Resolving -/

/-- A slash behind the directory is not doubled. -/
theorem join_concat_slash (earlier : Text) (relative : isRooted raw = false) :
    join (earlier ++ ['/']) raw = earlier ++ '/' :: raw := by
  simp [join, relative]

theorem join_of_getLast?_ne {c : Char} (last : base.getLast? = some c) (noSlash : c ≠ '/')
    (relative : isRooted raw = false) : join base raw = base ++ '/' :: raw := by
  have held : base ≠ [] := by
    rintro rfl
    cases last
  simp [join, relative, held, last, noSlash]

/-- A written path behind a rooted directory keeps the root and goes through the names of both. -/
theorem ofText_join (rooted : isRooted base) (relative : isRooted raw = false) :
    ofText (join base raw) = ⟨.ofText base, (ofText base).names ++ (ofText raw).names⟩ := by
  have whole : ∀ t, ofText t = ⟨.ofText t, (ofText t).names⟩ := fun _ => rfl
  cases last : base.getLast? with
  | none =>
      rw [List.getLast?_eq_none_iff.mp last] at rooted
      cases rooted
  | some c =>
      by_cases slash : c = '/'
      · obtain ⟨earlier, rfl⟩ := List.getLast?_eq_some_iff.mp last
        have noSlash : raw.head? ≠ some '/' := by
          rw [ne_eq, ← isRooted_iff, relative]
          exact Bool.false_ne_true
        have inBase : (ofText (earlier ++ ['/'])).names = (ofText earlier).names :=
          (names_ofText_append earlier []).trans (List.append_nil _)
        have root := root_ofText_append (earlier ++ ['/']) noSlash
        rw [List.append_assoc] at root
        rw [slash, join_concat_slash earlier relative, whole, names_ofText_append, inBase, ← root]
        rfl
      · have member : c ∈ base := List.mem_of_getLast? last
        rw [join_of_getLast?_ne last slash relative, whole, names_ofText_append,
          root_ofText_append_of_mem member slash]

/-- **Resolving is walking.** -/
theorem resolve_eq_render (rooted : isRooted base) (relative : isRooted raw = false) :
    resolve base raw = render ⟨.ofText base, walked base raw⟩ := by
  have root : Root.ofText base ≠ .relative := root_of_isRooted rooted
  have names : (((ofText base).names ++ (ofText raw).names).foldl (push (.ofText base)) []).reverse =
      walked base raw := by
    rw [ofText, ofText, ← List.filter_append, reverse_foldl_push root List.not_mem_nil,
      List.foldl_append]
    rfl
  rw [resolve, relative, normalize, ofText_join rooted relative, collapse, names]
  rfl

/-- A path from a root is written with one or two slashes and then its names. -/
theorem exists_slashes (rooted : root ≠ .relative) (names : List Text) :
    ∃ slashes, (slashes = ['/'] ∨ slashes = ['/', '/']) ∧
      render ⟨root, names⟩ = slashes ++ Text.join ['/'] names := by
  cases root with
  | relative => exact absurd rfl rooted
  | absolute => exact ⟨['/'], Or.inl rfl, rfl⟩
  | doubled => exact ⟨['/', '/'], Or.inr rfl, rfl⟩

/-- **Different spellings of one file resolve to one text.**  Two relative paths resolve to
the same text in a rooted directory if and only if walking the components of the directory and
then their own from the root goes through the same names.  The resolved text is rooted: one
or two slashes and then the names of the walk, none of which is empty, a dot or `..`.
It stays as it is when it is resolved again, in any directory. -/
theorem spellings_of_one_file (base first second : Text) (rooted : isRooted base)
    (relative₁ : isRooted first = false) (relative₂ : isRooted second = false) :
    (resolve base first = resolve base second ↔ walked base first = walked base second) ∧
      isRooted (resolve base first) ∧
      (∃ slashes, (slashes = ['/'] ∨ slashes = ['/', '/']) ∧
        resolve base first = slashes ++ Text.join ['/'] (walked base first)) ∧
      (∀ name ∈ walked base first, name ≠ [] ∧ name ≠ ['.'] ∧ name ≠ up ∧ '/' ∉ name) ∧
      ∀ directory, resolve directory (resolve base first) = resolve base first := by
  have proper : ∀ raw, IsProper ⟨.ofText base, walked base raw⟩ := fun raw name member =>
    ⟨(isPlain_walked base raw name member).1, (isPlain_walked base raw name member).2.1⟩
  have written := resolve_eq_render rooted relative₁
  have root : Root.ofText base ≠ .relative := root_of_isRooted rooted
  obtain ⟨slashes, few, shape⟩ := exists_slashes root (walked base first)
  have again : isRooted (resolve base first) := by
    rw [isRooted_iff, written, shape]
    rcases few with rfl | rfl <;> rfl
  refine ⟨?_, again, ⟨slashes, few, written.trans shape⟩, ?_, fun directory => if_pos again⟩
  · rw [written, resolve_eq_render rooted relative₂, render_eq_iff (proper first) (proper second)]
    simp
  · intro name member
    obtain ⟨isName, noSlash, noUp⟩ := isPlain_walked base first name member
    refine ⟨?_, ?_, noUp, noSlash⟩
    · rintro rfl
      cases isName
    · rintro rfl
      cases isName

/-- Two ways to one file, in a directory that is written with two slashes in front and
another one behind; one of them leads above the root. -/
theorem spellings_of_one_file_detour :
    isRooted "//srv/app/".toList ∧ isRooted "./src//x/../A.hs".toList = false ∧
      isRooted "../../../srv/app/src/A.hs/.".toList = false ∧
      resolve "//srv/app/".toList "./src//x/../A.hs".toList =
        resolve "//srv/app/".toList "../../../srv/app/src/A.hs/.".toList ∧
      isRooted (resolve "//srv/app/".toList "./src//x/../A.hs".toList) ∧
      resolve "/b".toList (resolve "//srv/app/".toList "./src//x/../A.hs".toList) =
        resolve "//srv/app/".toList "./src//x/../A.hs".toList := by
  have rooted : isRooted "//srv/app/".toList := by decide
  have first : isRooted "./src//x/../A.hs".toList = false := by decide
  have second : isRooted "../../../srv/app/src/A.hs/.".toList = false := by decide
  obtain ⟨same, again, -, -, stays⟩ :=
    spellings_of_one_file "//srv/app/".toList _ _ rooted first second
  exact ⟨rooted, first, second, same.mpr (by decide), again, stays _⟩

end CompilerFeedback.Path
