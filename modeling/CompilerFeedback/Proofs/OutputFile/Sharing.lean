/-
# CompilerFeedback.Proofs.OutputFile.Sharing -- workspaces with one output file

What stands before and behind the key in the name of an output file is free text.  It may
hold slashes, so that the name becomes a path with empty components and dots, or starts
anew at a root.  Reading such a path drops components, but never the one with the key: a
digit of base sixteen is neither a slash nor a dot.  So the path has the key in one of its
names, between two texts that are the same for all workspaces (`exists_pathIn`), and two
workspaces share an output file only through their keys (`same_file_iff_same_digest`).
-/
import CompilerFeedback.Proofs.OutputFile.Name

namespace CompilerFeedback

set_option autoImplicit false

/-! ## A word inside a written path -/

namespace Path

variable {word : Text}

theorem isName_of_mem {c : Char} (member : c ∈ word) (noDot : c ≠ '.') : isName word = true := by
  have held : word ≠ [] := List.ne_nil_of_mem member
  have other : word ≠ ['.'] := by
    rintro rfl
    exact noDot (List.mem_singleton.mp member)
  simp [isName, held, other]

theorem names_ofText_of_isName (name : isName word = true) (noSlash : '/' ∉ word) :
    (ofText word).names = [word] := by
  rw [ofText, List.splitOn_eq_singleton noSlash]
  exact List.filter_cons_of_pos name

/-- The names before the last slash of a text do not depend on what follows the text. -/
theorem exists_names_before (t : Text) : ∃ above left, '/' ∉ left ∧
    ∀ rest, (ofText (t ++ rest)).names = above ++ (ofText (left ++ rest)).names := by
  by_cases slash : '/' ∈ t
  · obtain ⟨earlier, left, rfl, noSlash⟩ := Text.exists_last_mark slash
    refine ⟨(ofText earlier).names, left, noSlash, fun rest => ?_⟩
    rw [List.append_assoc, List.cons_append, names_ofText_append]
  · exact ⟨[], t, slash, fun _ => rfl⟩

/-- The names behind the first slash of a text do not depend on what the text follows. -/
theorem exists_names_behind (t : Text) : ∃ right below, '/' ∉ right ∧
    ∀ first, (ofText (first ++ t)).names = (ofText (first ++ right)).names ++ below := by
  by_cases slash : '/' ∈ t
  · obtain ⟨right, later, rfl, noSlash⟩ := List.eq_append_cons_of_mem slash
    refine ⟨right, (ofText later).names, noSlash, fun first => ?_⟩
    rw [← List.append_assoc, names_ofText_append]
  · exact ⟨t, [], slash, fun _ => by simp⟩

/-- **A word between two texts is part of one name.**  The names around it, and what stands
beside it in its own name, are the same for every word with a character that is no dot. -/
theorem exists_ofText_around (before behind : Text) : ∃ above left right below,
    ∀ word : Text, '/' ∉ word → (∃ c ∈ word, c ≠ '.') →
      ofText (before ++ word ++ behind) =
        ⟨.ofText before, above ++ (left ++ word ++ right) :: below⟩ := by
  obtain ⟨above, left, leftFree, atLeft⟩ := exists_names_before before
  obtain ⟨right, below, rightFree, atRight⟩ := exists_names_behind behind
  refine ⟨above, left, right, below, fun word noSlash ⟨c, member, noDot⟩ => ?_⟩
  have root : Root.ofText (before ++ word ++ behind) = .ofText before := by
    obtain ⟨first, word, rfl⟩ := List.exists_cons_of_ne_nil (List.ne_nil_of_mem member)
    rw [List.append_assoc]
    refine root_ofText_append before fun slash => noSlash ?_
    rw [Option.some.inj slash]
    exact List.mem_cons_self
  have isName : isName (left ++ word ++ right) = true := isName_of_mem (by simp [member]) noDot
  have names : (ofText (before ++ word ++ behind)).names =
      above ++ (left ++ word ++ right) :: below := by
    rw [List.append_assoc, atLeft, ← List.append_assoc, atRight,
      names_ofText_of_isName isName (by simp [leftFree, noSlash, rightFree]), List.singleton_append]
  rw [← root, ← names]
  rfl

end Path

/-! ## The key inside the path of an output file -/

namespace OutputFile

variable {settings : Settings} {storage a b : Text}

/-- A key that is not empty is part of one name of the path, and the rest of the path does
not depend on the workspace. -/
theorem exists_pathIn (settings : Settings) (storage : Text) : ∃ root above left right below,
    ∀ workspace, key settings workspace ≠ [] → pathIn settings storage workspace =
      ⟨root, above ++ (left ++ key settings workspace ++ right) :: below⟩ := by
  obtain ⟨above, left, right, below, around⟩ :=
    Path.exists_ofText_around settings.outputPrefix settings.outputSuffix
  have named : ∀ workspace, key settings workspace ≠ [] → Path.ofText (nameText settings workspace) =
      ⟨.ofText settings.outputPrefix, above ++ (left ++ key settings workspace ++ right) :: below⟩ := by
    intro workspace held
    obtain ⟨c, member⟩ := List.exists_mem_of_ne_nil _ held
    refine around _ (not_mem_key (by decide)) ⟨c, member, ?_⟩
    rintro rfl
    exact not_mem_key (by decide) member
  cases root : Path.Root.ofText settings.outputPrefix with
  | relative =>
      refine ⟨(Path.ofText storage).root, (Path.ofText storage).names ++ above, left, right, below,
        fun workspace held => ?_⟩
      rw [pathIn, named workspace held, root]
      simp [Path.append]
  | absolute =>
      refine ⟨.absolute, above, left, right, below, fun workspace held => ?_⟩
      rw [pathIn, named workspace held, root]
      rfl
  | doubled =>
      refine ⟨.doubled, above, left, right, below, fun workspace held => ?_⟩
      rw [pathIn, named workspace held, root]
      rfl

theorem pathIn_eq_iff_key : pathIn settings storage a = pathIn settings storage b ↔
    key settings a = key settings b := by
  refine ⟨fun same => ?_, pathIn_eq_of_key⟩
  by_cases empty : key settings a = []
  · rw [empty, key_eq_nil_of empty]
  · have held : key settings b ≠ [] := fun none => empty (key_eq_nil_of none)
    obtain ⟨root, above, left, right, below, around⟩ := exists_pathIn settings storage
    rw [around a empty, around b held] at same
    simpa using same

/-- **Two workspaces share an output file only through their digests.**  Whatever the
storage directory and the settings are, the paths of two output files, and their written
forms, are the same if and only if the digests of the workspaces agree as far as the settings
keep them. -/
theorem same_file_iff_same_digest (settings : Settings) (storage a b : Text) :
    (pathIn settings storage a = pathIn settings storage b ↔
      Text.upTo settings.hashLength (Sha256.hexDigest a) =
        Text.upTo settings.hashLength (Sha256.hexDigest b)) ∧
    ((pathIn settings storage a).render = (pathIn settings storage b).render ↔
      Text.upTo settings.hashLength (Sha256.hexDigest a) =
        Text.upTo settings.hashLength (Sha256.hexDigest b)) := by
  have proper := isProper_pathIn settings storage
  refine ⟨pathIn_eq_iff_key, ?_⟩
  rw [Path.render_eq_iff (proper a) (proper b)]
  exact pathIn_eq_iff_key

end OutputFile

end CompilerFeedback
