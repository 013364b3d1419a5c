/-
# CompilerFeedback.Proofs.Path -- the written form of a path

Writing a path puts slashes between its names and, for a root, in front.  Reading drops
every component that is no name, so a written text is not kept as it is; but a path whose
names are names that can be written is (`ofText_render`), and reading gives no other paths.
Such paths are the same if they are written alike (`render_eq_iff`).
-/
import CompilerFeedback.Path
import CompilerFeedback.Proofs.Text

namespace CompilerFeedback.Path

set_option autoImplicit false

variable {p q : Path}

theorem render_of_nil (nowhere : p.root.render ++ Text.join ['/'] p.names = []) :
    p.render = ['.'] := by
  unfold render
  rw [nowhere]

theorem render_of_ne_nil (held : p.root.render ++ Text.join ['/'] p.names ≠ []) :
    p.render = p.root.render ++ Text.join ['/'] p.names := by
  unfold render
  split
  · rename_i nowhere
    exact absurd nowhere held
  · rfl

/-! ## Paths that are read -/

theorem isRooted_iff {t : Text} : isRooted t ↔ t.head? = some '/' := by
  cases t with
  | nil => simp [isRooted, Text.startsWith]
  | cons c t =>
      have first : isRooted (c :: t) ↔ '/' = c := by simp [isRooted, Text.startsWith]
      rw [first, List.head?_cons, Option.some.injEq]
      exact eq_comm

theorem root_of_isRooted {t : Text} (rooted : isRooted t) : (ofText t).root ≠ .relative := by
  obtain ⟨rest, rfl⟩ := List.head?_eq_some_iff.mp (isRooted_iff.mp rooted)
  intro relative
  unfold ofText Root.ofText at relative
  rw [List.takeWhile_cons_of_pos (by rfl), List.length_cons] at relative
  split at relative
  · omega
  · cases relative
  · cases relative

theorem isName_eq_false_iff {word : Text} : isName word = false ↔ word = [] ∨ word = ['.'] := by
  simp only [isName, bne, Bool.and_eq_false_iff, Bool.not_eq_false', beq_iff_eq]

/-- Whether the names of a path can be written and read back. -/
def IsProper (p : Path) : Prop := ∀ name ∈ p.names, isName name = true ∧ '/' ∉ name

theorem isProper_ofText (t : Text) : (ofText t).IsProper := by
  intro name member
  obtain ⟨component, isName⟩ := List.mem_filter.mp member
  refine ⟨isName, fun slash => ?_⟩
  exact (Text.of_mem_splitOn component '/' slash).2 rfl

theorem IsProper.append (proper : p.IsProper) (more : q.IsProper) : (p.append q).IsProper := by
  unfold Path.append
  cases q.root with
  | relative =>
      intro name member
      rcases List.mem_append.mp member with first | second
      · exact proper name first
      · exact more name second
  | absolute => exact more
  | doubled => exact more

/-! ## Reading what was written -/

/-- A slash ends a name. -/
theorem names_ofText_append (a b : Text) :
    (ofText (a ++ '/' :: b)).names = (ofText a).names ++ (ofText b).names := by
  simp only [ofText, List.splitOn_append_cons_self, List.filter_append]

/-- The slashes of a root hold no name. -/
theorem names_ofText_root (root : Root) (t : Text) :
    (ofText (root.render ++ t)).names = (ofText t).names := by
  cases root with
  | relative => rfl
  | absolute => exact names_ofText_append [] t
  | doubled => exact (names_ofText_append [] ('/' :: t)).trans (names_ofText_append [] t)

/-- What does not begin with a slash does not change where a path starts. -/
theorem root_ofText_append (t : Text) {rest : Text} (noSlash : rest.head? ≠ some '/') :
    Root.ofText (t ++ rest) = Root.ofText t := by
  have nothing : rest.takeWhile (· == '/') = [] := by
    cases rest with
    | nil => rfl
    | cons c rest => exact List.takeWhile_cons_of_neg (by simpa using noSlash)
  have slashes : (t ++ rest).takeWhile (· == '/') = t.takeWhile (· == '/') := by
    rw [List.takeWhile_append, nothing, List.append_nil]
    split
    · rename_i all
      exact ((List.takeWhile_prefix _).eq_of_length all).symm
    · rfl
  rw [Root.ofText, slashes]
  rfl

/-- What stands behind something else than slashes does not change where a path starts. -/
theorem root_ofText_append_of_mem {t : Text} {c : Char} (member : c ∈ t) (noSlash : c ≠ '/')
    (rest : Text) : Root.ofText (t ++ rest) = Root.ofText t := by
  have partly : (t.takeWhile (· == '/')).length ≠ t.length := by
    intro all
    rw [← (List.takeWhile_prefix _).eq_of_length all] at member
    exact noSlash (by simpa using List.mem_takeWhile_imp member)
  rw [Root.ofText, List.takeWhile_append, if_neg partly]
  rfl

theorem root_ofText_render (root : Root) {t : Text} (noSlash : t.head? ≠ some '/') :
    Root.ofText (root.render ++ t) = root := by
  rw [root_ofText_append _ noSlash]
  cases root <;> rfl

theorem head?_join {name : Text} (held : name ≠ []) (names : List Text) :
    (Text.join ['/'] (name :: names)).head? = name.head? := by
  obtain ⟨c, rest, rfl⟩ := List.exists_cons_of_ne_nil held
  cases names with
  | nil => simp [Text.join]
  | cons next names =>
      rw [Text.join_cons_cons]
      rfl

/-- **A path with proper names is what its written form reads as.** -/
theorem ofText_render (proper : p.IsProper) : ofText p.render = p := by
  obtain ⟨root, names⟩ := p
  cases names with
  | nil => cases root <;> decide
  | cons name names =>
      obtain ⟨isName, noSlash⟩ := proper name List.mem_cons_self
      have held : name ≠ [] := by
        rintro rfl
        cases isName
      have head : (Text.join ['/'] (name :: names)).head? ≠ some '/' := by
        rw [head?_join held]
        intro slash
        exact noSlash (List.mem_of_mem_head? slash)
      have written : render ⟨root, name :: names⟩ =
          root.render ++ Text.join ['/'] (name :: names) := by
        refine render_of_ne_nil fun nothing => ?_
        have empty := (List.append_eq_nil_iff.mp nothing).2
        have starts := head?_join held names
        rw [empty] at starts
        exact held (List.head?_eq_none_iff.mp starts.symm)
      have pieces : (Text.join ['/'] (name :: names)).splitOn '/' = name :: names :=
        List.splitOn_intercalate '/' (fun piece member => (proper piece member).2) (by simp)
      have reads : (ofText (Text.join ['/'] (name :: names))).names = name :: names := by
        rw [ofText, pieces]
        exact List.filter_eq_self.mpr fun piece member => (proper piece member).1
      calc ofText (render ⟨root, name :: names⟩)
        _ = ⟨.ofText (root.render ++ Text.join ['/'] (name :: names)),
              (ofText (root.render ++ Text.join ['/'] (name :: names))).names⟩ := by rw [written]; rfl
        _ = ⟨root, name :: names⟩ := by rw [root_ofText_render root head, names_ofText_root, reads]

/-- Paths with proper names are written alike only if they are the same. -/
theorem render_eq_iff (proper : p.IsProper) (other : q.IsProper) : p.render = q.render ↔ p = q := by
  refine ⟨fun same => ?_, congrArg render⟩
  rw [← ofText_render proper, same, ofText_render other]

end CompilerFeedback.Path
