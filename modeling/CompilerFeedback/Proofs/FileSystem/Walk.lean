/-
# CompilerFeedback.Proofs.FileSystem.Walk -- a path and its collapsed form

Collapsing resolves `..` on paper, the walk does so in the file system, where every
name on the way has to be there.  There are no links, so a walk from the root ends at
the place whose own names the collapsed path goes through, and they can be walked:
`OwnWay` says so of one place, `OwnWay.step` that one name keeps it, `OwnWay.walk`
that a whole walk does.

* `find_collapse`, `read_collapse`: what is found along a rooted path is found along
  its collapsed form.  The converse fails: `/gone/..` leads nowhere.
* `IsDue`: a fault is the system's, or there is a null character in the path.  No lookup
  and no reading has any other fault (`find_isDue`, `read_isDue`).
-/
import CompilerFeedback.FileSystem
import CompilerFeedback.Proofs.Text
import Mathlib.Data.List.Flatten

namespace CompilerFeedback

set_option autoImplicit false

/-! ## Collapsing -/

namespace Path

theorem push_up_cons {top : Text} (isName : top ≠ up) (below : List Text) :
    push .absolute (top :: below) up = below := by
  simp [push, isName]

theorem push_of_ne {name : Text} (isName : name ≠ up) (root : Root) (stack : List Text) :
    push root stack name = name :: stack := if_neg isName

theorem push_sublist (stack : List Text) (name : Text) :
    (push .absolute stack name).Sublist (name :: stack) := by
  by_cases isUp : name = up
  · subst isUp
    cases stack with
    | nil => exact List.nil_sublist _
    | cons top below =>
        by_cases same : top = up
        · simp [push, same]
        · rw [push_up_cons same]
          exact ((List.sublist_cons_self top below).cons up)
  · rw [push_of_ne isUp]

/-- Collapsing only leaves names out. -/
theorem foldl_push_sublist (names stack : List Text) :
    (names.foldl (push .absolute) stack).reverse.Sublist (stack.reverse ++ names) := by
  induction names generalizing stack with
  | nil => simp
  | cons name names ih =>
      have first : (push .absolute stack name).reverse.Sublist (stack.reverse ++ [name]) := by
        simpa using (push_sublist stack name).reverse
      have both := (ih (push .absolute stack name)).trans (first.append_right names)
      simpa using both

theorem join_sublist {a b : List Text} (fewer : a.Sublist b) (separator : Text) :
    (Text.join separator a).Sublist (Text.join separator b) := by
  induction fewer with
  | slnil => exact List.Sublist.refl _
  | @cons a b name fewer ih =>
      cases b with
      | nil => simp [List.sublist_nil.mp fewer, Text.join]
      | cons next b =>
          rw [Text.join_cons_cons]
          exact ih.trans ((List.sublist_append_right _ _).trans (List.sublist_append_right _ _))
  | @cons_cons a b name fewer ih =>
      cases a with
      | nil =>
          cases b with
          | nil => exact List.Sublist.refl _
          | cons next b =>
              rw [Text.join_cons_cons]
              simp [Text.join]
      | cons first a =>
          cases b with
          | nil => cases fewer
          | cons next b =>
              rw [Text.join_cons_cons, Text.join_cons_cons]
              exact (ih.append_left separator).append_left name

/-- The written form of a path from the root is its slashes and its names. -/
theorem render_of_rooted {p : Path} (rooted : p.root ≠ .relative) :
    p.render = p.root.render ++ Text.join ['/'] p.names := by
  obtain ⟨root, names⟩ := p
  cases root with
  | relative => exact absurd rfl rooted
  | absolute => rfl
  | doubled => rfl

/-- Collapsing a path from the root leaves characters of its written form out. -/
theorem render_collapse_sublist {p : Path} (rooted : p.root ≠ .relative) :
    (collapse ⟨.absolute, p.names⟩).render.Sublist p.render := by
  have absolute : (collapse ⟨.absolute, p.names⟩).root ≠ .relative := by simp [collapse]
  rw [render_of_rooted absolute, render_of_rooted rooted]
  refine List.Sublist.append ?_ (join_sublist (foldl_push_sublist p.names []) ['/'])
  cases root : p.root with
  | relative => exact absurd root rooted
  | absolute => exact List.Sublist.refl _
  | doubled => exact List.sublist_cons_self _ _

end Path

/-! ## One name, and a walk -/

namespace FileSystem

variable {fs : FileSystem} {working place next : Place} {name : Text} {names : List Text}

theorem bind_eq_ok_iff {ε α β : Type} {first : Except ε α} {rest : α → Except ε β} {b : β} :
    (first >>= rest) = .ok b ↔ ∃ a, first = .ok a ∧ rest a = .ok b := by
  cases first with
  | error fault =>
      refine iff_of_false ?_ ?_
      · intro impossible
        cases impossible
      · rintro ⟨a, impossible, -⟩
        cases impossible
  | ok a =>
      constructor
      · intro found
        exact ⟨a, rfl, found⟩
      · rintro ⟨_, ⟨⟩, found⟩
        exact found

theorem bind_eq_error_iff {ε α β : Type} {first : Except ε α} {rest : α → Except ε β} {fault : ε} :
    (first >>= rest) = .error fault ↔
      first = .error fault ∨ ∃ a, first = .ok a ∧ rest a = .error fault := by
  cases first with
  | error stop =>
      constructor
      · rintro ⟨⟩
        exact Or.inl rfl
      · rintro (⟨⟨⟩⟩ | ⟨a, impossible, -⟩)
        · rfl
        · cases impossible
  | ok a =>
      constructor
      · intro refused
        exact Or.inr ⟨a, rfl, refused⟩
      · rintro (impossible | ⟨_, ⟨⟩, refused⟩)
        · cases impossible
        · exact refused

/-! ### Paths that can be handed to the system -/

theorem accept_eq_ok_iff {p : Path} :
    accept p = .ok () ↔ hasNull p.names = false ∧ isLongPath p = false := by
  unfold accept
  cases hasNull p.names <;> cases isLongPath p <;> simp

theorem accept_of_null {p : Path} (null : hasNull p.names = true) :
    accept p = .error .nullCharacter := if_pos null

theorem accept_of_long {p : Path} (clean : hasNull p.names = false) (long : isLongPath p = true) :
    accept p = .error .nameTooLong := by
  rw [accept, if_neg (by simp [clean]), if_pos long]

theorem hasNull_eq_false_of_subset {some all : List Text} (subset : some ⊆ all)
    (clean : hasNull all = false) : hasNull some = false := by
  simp only [hasNull, List.any_eq_false] at clean ⊢
  exact fun name member => clean name (subset member)

/-! ### Steps -/

theorem enter_eq_ok_iff : fs.enter place = .ok () ↔ fs.lookup place = some .directory := by
  unfold enter
  cases fs.lookup place with
  | none => simp
  | some node => cases node <;> simp

/-- A name leads up, or down to an entry of a directory. -/
theorem child_eq_ok_iff : fs.child place name = .ok next ↔
    fs.lookup place = some .directory ∧
      (name = Path.up ∧ next = place.dropLast ∨
        name ≠ Path.up ∧ isLongName name = false ∧ next = place ++ [name]) := by
  unfold child
  rw [bind_eq_ok_iff]
  constructor
  · rintro ⟨⟨⟩, entered, found⟩
    refine ⟨enter_eq_ok_iff.mp entered, ?_⟩
    by_cases isUp : name = Path.up
    · rw [if_pos isUp] at found
      cases found
      exact Or.inl ⟨isUp, rfl⟩
    · rw [if_neg isUp] at found
      cases long : isLongName name with
      | true =>
          simp only [long, if_true] at found
          cases found
      | false =>
          simp only [long, Bool.false_eq_true, if_false] at found
          cases found
          exact Or.inr ⟨isUp, rfl, rfl⟩
  · rintro ⟨directory, ⟨isUp, rfl⟩ | ⟨isUp, long, rfl⟩⟩
    · exact ⟨(), enter_eq_ok_iff.mpr directory, by rw [if_pos isUp]; rfl⟩
    · refine ⟨(), enter_eq_ok_iff.mpr directory, ?_⟩
      simp only [if_neg isUp, long, Bool.false_eq_true, if_false]
      rfl

theorem step_eq_ok_iff : fs.step place name = .ok next ↔
    fs.child place name = .ok next ∧ (fs.lookup next).isSome := by
  unfold step
  rw [bind_eq_ok_iff]
  constructor
  · rintro ⟨there, led, found⟩
    split at found
    · rename_i isThere
      cases found
      exact ⟨led, isThere⟩
    · cases found
  · rintro ⟨led, isThere⟩
    exact ⟨next, led, by rw [if_pos isThere]; rfl⟩

theorem walk_cons_eq_ok_iff : fs.walk place (name :: names) = .ok next ↔
    ∃ there, fs.step place name = .ok there ∧ fs.walk there names = .ok next := by
  unfold walk
  rw [List.foldlM_cons, bind_eq_ok_iff]

theorem walk_append_eq_ok_iff {more : List Text} : fs.walk place (names ++ more) = .ok next ↔
    ∃ there, fs.walk place names = .ok there ∧ fs.walk there more = .ok next := by
  unfold walk
  rw [List.foldlM_append, bind_eq_ok_iff]

theorem walk_concat (fs : FileSystem) (place : Place) (names : List Text) (name : Text) :
    fs.walk place (names ++ [name]) = fs.walk place names >>= fun there => fs.step there name := by
  unfold walk
  rw [List.foldlM_append]
  exact bind_congr fun there => bind_pure (fs.step there name)

theorem walk_singleton_eq_ok_iff : fs.walk place [name] = .ok next ↔ fs.step place name = .ok next := by
  rw [walk_cons_eq_ok_iff]
  constructor
  · rintro ⟨there, led, ended⟩
    cases ended
    exact led
  · intro led
    exact ⟨next, led, rfl⟩

/-- A walk that never goes up ends where its names say. -/
theorem eq_append_of_walk (noUp : ∀ n ∈ names, n ≠ Path.up) (found : fs.walk place names = .ok next) :
    next = place ++ names := by
  induction names generalizing place with
  | nil =>
      cases found
      simp
  | cons name names ih =>
      rw [List.forall_mem_cons] at noUp
      obtain ⟨there, led, rest⟩ := walk_cons_eq_ok_iff.mp found
      obtain ⟨-, ⟨isUp, -⟩ | ⟨-, -, rfl⟩⟩ := child_eq_ok_iff.mp (step_eq_ok_iff.mp led).1
      · exact absurd isUp noUp.1
      · rw [ih noUp.2 rest]
        simp

/-! ## Places that their own names lead to -/

/-- Whether the names of a place lead to it from the root. -/
structure OwnWay (fs : FileSystem) (place : Place) : Prop where
  noUp : ∀ name ∈ place, name ≠ Path.up
  found : fs.walk [] place = .ok place

theorem OwnWay.nil : OwnWay fs [] := ⟨by simp, rfl⟩

theorem OwnWay.dropLast (own : OwnWay fs place) : OwnWay fs place.dropLast := by
  obtain rfl | ⟨above, last, rfl⟩ := place.eq_nil_or_concat
  · exact .nil
  · rw [List.concat_eq_append] at own ⊢
    rw [List.dropLast_concat]
    have noUp : ∀ n ∈ above, n ≠ Path.up := fun n member =>
      own.noUp n (List.mem_append_left _ member)
    obtain ⟨there, found, -⟩ := walk_append_eq_ok_iff.mp own.found
    obtain rfl : there = above := eq_append_of_walk noUp found
    exact ⟨noUp, found⟩

/-- One name leads from such a place to such a place, which is what collapsing makes of it. -/
theorem OwnWay.step (own : OwnWay fs place) (led : fs.step place name = .ok next) :
    OwnWay fs next ∧ next.reverse = Path.push .absolute place.reverse name := by
  obtain ⟨-, ⟨rfl, rfl⟩ | ⟨isUp, -, rfl⟩⟩ := child_eq_ok_iff.mp (step_eq_ok_iff.mp led).1
  · refine ⟨own.dropLast, ?_⟩
    obtain rfl | ⟨above, last, rfl⟩ := place.eq_nil_or_concat
    · rfl
    · have isName : last ≠ Path.up := own.noUp last (by simp)
      rw [List.concat_eq_append, List.dropLast_concat, List.reverse_append, List.reverse_singleton,
        List.singleton_append, Path.push_up_cons isName]
  · refine ⟨⟨?_, ?_⟩, ?_⟩
    · intro n member
      rcases List.mem_append.mp member with inPlace | isLast
      · exact own.noUp n inPlace
      · rwa [List.mem_singleton.mp isLast]
    · exact walk_append_eq_ok_iff.mpr ⟨place, own.found, walk_singleton_eq_ok_iff.mpr led⟩
    · rw [Path.push_of_ne isUp]
      simp

/-- A walk leads from such a place to such a place, which is what collapsing makes of it. -/
theorem OwnWay.walk (own : OwnWay fs place) (found : fs.walk place names = .ok next) :
    OwnWay fs next ∧ next = (names.foldl (Path.push .absolute) place.reverse).reverse := by
  induction names generalizing place with
  | nil =>
      cases found
      exact ⟨own, by simp⟩
  | cons name names ih =>
      obtain ⟨there, led, rest⟩ := walk_cons_eq_ok_iff.mp found
      obtain ⟨ownThere, pushed⟩ := own.step led
      obtain ⟨ownNext, ended⟩ := ih ownThere rest
      refine ⟨ownNext, ?_⟩
      rw [ended, pushed]
      rfl

/-! ## Looking up paths -/

theorem find_eq_ok_iff {p : Path} {node : Node} : fs.find working p = .ok node ↔
    accept p = .ok () ∧ ∃ place, fs.walk (origin working p) p.names = .ok place ∧
      fs.lookup place = some node := by
  unfold find
  rw [bind_eq_ok_iff]
  constructor
  · rintro ⟨⟨⟩, accepted, rest⟩
    obtain ⟨place, walked, found⟩ := bind_eq_ok_iff.mp rest
    refine ⟨accepted, place, walked, ?_⟩
    cases there : fs.lookup place with
    | none =>
        rw [there] at found
        cases found
    | some _ =>
        rw [there] at found
        cases found
        rfl
  · rintro ⟨accepted, place, walked, there⟩
    refine ⟨(), accepted, bind_eq_ok_iff.mpr ⟨place, walked, ?_⟩⟩
    rw [there]
    rfl

/-- The collapsed form of a path can be handed to the system if the path can. -/
theorem accept_collapse {p : Path} (rooted : p.root ≠ .relative) (accepted : accept p = .ok ()) :
    accept (Path.collapse ⟨.absolute, p.names⟩) = .ok () := by
  obtain ⟨clean, short⟩ := accept_eq_ok_iff.mp accepted
  have fewer := ((Path.render_collapse_sublist rooted).flatMap Text.Utf8.encodeChar).length_le
  refine accept_eq_ok_iff.mpr ⟨?_, ?_⟩
  · have names : (Path.collapse ⟨.absolute, p.names⟩).names.Sublist p.names :=
      Path.foldl_push_sublist p.names []
    exact hasNull_eq_false_of_subset names.subset clean
  · simp only [isLongPath, decide_eq_false_iff_not, Nat.not_lt] at short ⊢
    exact fewer.trans short

/-- **What a path from the root leads to, its collapsed form leads to.** -/
theorem find_collapse {p : Path} {node : Node} (rooted : p.root ≠ .relative)
    (found : fs.find working p = .ok node) :
    fs.find working (Path.collapse ⟨.absolute, p.names⟩) = .ok node := by
  obtain ⟨accepted, place, walked, there⟩ := find_eq_ok_iff.mp found
  have start : origin working p = [] := if_neg rooted
  rw [start] at walked
  obtain ⟨own, ended⟩ := OwnWay.nil.walk walked
  have names : (Path.collapse ⟨.absolute, p.names⟩).names = place := ended.symm
  refine find_eq_ok_iff.mpr ⟨accept_collapse rooted accepted, place, ?_, there⟩
  rw [names]
  exact own.found

/-! ### Reading -/

theorem contentOf_eq_ok_iff {node : Node} {content : Bytes} :
    contentOf node = .ok content ↔ node = .file content ∨ node = .device content := by
  cases node <;> simp [contentOf]

/-- What can be read is a file or a device. -/
theorem read_eq_ok_iff {p : Path} {content : Bytes} : fs.read working p = .ok content ↔
    fs.find working p = .ok (.file content) ∨ fs.find working p = .ok (.device content) := by
  unfold read
  rw [bind_eq_ok_iff]
  constructor
  · rintro ⟨node, found, opened⟩
    rcases contentOf_eq_ok_iff.mp opened with rfl | rfl
    · exact Or.inl found
    · exact Or.inr found
  · rintro (found | found)
    · exact ⟨_, found, rfl⟩
    · exact ⟨_, found, rfl⟩

/-- A path that can be read holds no null character. -/
theorem hasNull_of_read {p : Path} {content : Bytes} (held : fs.read working p = .ok content) :
    hasNull p.names = false := by
  rcases read_eq_ok_iff.mp held with found | found
  · exact (accept_eq_ok_iff.mp (find_eq_ok_iff.mp found).1).1
  · exact (accept_eq_ok_iff.mp (find_eq_ok_iff.mp found).1).1

theorem read_collapse {p : Path} {content : Bytes} (rooted : p.root ≠ .relative)
    (held : fs.read working p = .ok content) :
    fs.read working (Path.collapse ⟨.absolute, p.names⟩) = .ok content :=
  read_eq_ok_iff.mpr ((read_eq_ok_iff.mp held).imp (find_collapse rooted) (find_collapse rooted))

/-! ## Faults -/

/-- Whether a fault is one of the system, or due to a null character in the path. -/
def IsDue (p : Path) (fault : Fault) : Prop :=
  fault.isSystem = true ∨ fault = .nullCharacter ∧ hasNull p.names = true

variable {fault : Fault}

theorem IsDue.isSystem {p : Path} (due : IsDue p fault) (clean : hasNull p.names = false) :
    fault.isSystem = true := by
  rcases due with system | ⟨-, null⟩
  · exact system
  · rw [clean] at null
    cases null

theorem IsDue.of_subset {p q : Path} (due : IsDue p fault) (subset : p.names ⊆ q.names) :
    IsDue q fault := by
  rcases due with system | ⟨null, held⟩
  · exact Or.inl system
  · refine Or.inr ⟨null, ?_⟩
    by_contra clean
    rw [Bool.not_eq_true] at clean
    rw [hasNull_eq_false_of_subset subset clean] at held
    cases held

theorem isDue_of_accept {p : Path} (refused : accept p = .error fault) : IsDue p fault := by
  cases null : hasNull p.names with
  | true =>
      rw [accept_of_null null] at refused
      cases refused
      exact Or.inr ⟨rfl, null⟩
  | false =>
      cases long : isLongPath p with
      | true =>
          rw [accept_of_long null long] at refused
          cases refused
          exact Or.inl rfl
      | false =>
          rw [accept_eq_ok_iff.mpr ⟨null, long⟩] at refused
          cases refused

theorem isSystem_of_enter (refused : fs.enter place = .error fault) : fault.isSystem = true := by
  unfold enter at refused
  split at refused <;> cases refused <;> rfl

theorem isSystem_of_child (refused : fs.child place name = .error fault) :
    fault.isSystem = true := by
  rcases bind_eq_error_iff.mp refused with stopped | ⟨⟨⟩, -, rest⟩
  · exact isSystem_of_enter stopped
  · split at rest
    · cases rest
    · split at rest
      · cases rest
        rfl
      · cases rest

theorem isSystem_of_step (refused : fs.step place name = .error fault) : fault.isSystem = true := by
  rcases bind_eq_error_iff.mp refused with stopped | ⟨next, -, rest⟩
  · exact isSystem_of_child stopped
  · split at rest
    · cases rest
    · cases rest
      rfl

theorem isSystem_of_walk (refused : fs.walk place names = .error fault) : fault.isSystem = true := by
  induction names generalizing place with
  | nil => cases refused
  | cons name names ih =>
      unfold walk at refused
      rw [List.foldlM_cons] at refused
      rcases bind_eq_error_iff.mp refused with stopped | ⟨next, -, rest⟩
      · exact isSystem_of_step stopped
      · exact ih rest

theorem find_isDue {p : Path} (refused : fs.find working p = .error fault) : IsDue p fault := by
  rcases bind_eq_error_iff.mp refused with stopped | ⟨⟨⟩, -, rest⟩
  · exact isDue_of_accept stopped
  · rcases bind_eq_error_iff.mp rest with stopped | ⟨there, -, missed⟩
    · exact Or.inl (isSystem_of_walk stopped)
    · split at missed
      · cases missed
      · cases missed
        exact Or.inl rfl

theorem read_isDue {p : Path} (refused : fs.read working p = .error fault) : IsDue p fault := by
  rcases bind_eq_error_iff.mp refused with stopped | ⟨node, -, closed⟩
  · exact find_isDue stopped
  · cases node <;> cases closed <;> exact Or.inl rfl

end FileSystem

end CompilerFeedback
