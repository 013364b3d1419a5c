/-
# CompilerFeedback.Proofs.OutputFile.Name -- output files of one storage directory

The name of an output file has a key of its workspace inside, a part of a digest.  A key
is written in digits of base sixteen, and two keys have the same length.  So where the
settings hold no slash, the output files of all workspaces lie in one directory, under
names that are equal if and only if the keys are (`destination_pathIn_eq_iff`), and what
can be created for one workspace can be named for any other (`isEntry_pathIn`).

A name may be no name: without a key, a prefix and a suffix it is empty, or a single dot.
The output file of every workspace is then the storage directory itself.
-/
import CompilerFeedback.OutputFile
import CompilerFeedback.Proofs.FileSystem.Directories

namespace CompilerFeedback

set_option autoImplicit false

/-! ## Digits of base sixteen -/

/-- The digits of base sixteen. -/
def Text.hexDigits : Text := "0123456789abcdef".toList

theorem Text.mem_hex {c : Char} {width n : Nat} (member : c ∈ hex width n) : c ∈ hexDigits := by
  induction width generalizing n with
  | zero => cases member
  | succ width ih =>
      rw [hex, List.mem_append, List.mem_singleton] at member
      rcases member with upper | rfl
      · exact ih upper
      · have digits : ∀ k < 16, Nat.digitChar k ∈ hexDigits := by decide
        exact digits _ (Nat.mod_lt n (by decide))

/-- A digit is written with one byte. -/
theorem Text.length_encode_of_hexDigits {t : Text} (digits : ∀ c ∈ t, c ∈ hexDigits) :
    (Utf8.encode t).length = t.length := by
  have single : hexDigits.all (fun c => (Utf8.encodeChar c).length == 1) = true := by decide
  induction t with
  | nil => rfl
  | cons c t ih =>
      have first := beq_iff_eq.mp (List.all_eq_true.mp single c (digits c List.mem_cons_self))
      have rest := ih fun d member => digits d (List.mem_cons_of_mem c member)
      have cut : Utf8.encode (c :: t) = Utf8.encodeChar c ++ Utf8.encode t := rfl
      rw [cut, List.length_append, first, rest, List.length_cons, Nat.add_comm]

theorem Text.encode_append (a b : Text) :
    Utf8.encode (a ++ b) = Utf8.encode a ++ Utf8.encode b := List.flatMap_append

theorem Text.join_concat (separator : Text) (pieces : List Text) (last : Text) :
    join separator (pieces ++ [last]) = (pieces.flatMap (· ++ separator)) ++ last := by
  induction pieces with
  | nil => simp [join]
  | cons piece pieces ih =>
      rw [List.flatMap_cons, List.append_assoc, ← ih]
      cases pieces with
      | nil => simp [join]
      | cons next pieces =>
          rw [List.cons_append, List.cons_append, join_cons_cons, List.append_assoc]

theorem Sha256.mem_hexDigest {c : Char} {t : Text} (member : c ∈ hexDigest t) :
    c ∈ Text.hexDigits := by
  unfold hexDigest State.hex at member
  obtain ⟨word, -, inWord⟩ := List.mem_flatMap.mp member
  exact Text.mem_hex inWord

namespace OutputFile

open FileSystem (destination IsEntry follow)

variable {settings : Settings} {storage a b : Text} {fs made : FileSystem} {working : Place}

/-! ## Keys -/

theorem mem_key {c : Char} {workspace : Text} (member : c ∈ key settings workspace) :
    c ∈ Text.hexDigits := Sha256.mem_hexDigest (List.mem_of_mem_take member)

theorem not_mem_key {c : Char} {workspace : Text} (noDigit : c ∉ Text.hexDigits) :
    c ∉ key settings workspace := fun member => noDigit (mem_key member)

/-- How much of the digest is kept does not depend on the workspace. -/
theorem length_key_eq (settings : Settings) (a b : Text) :
    (key settings a).length = (key settings b).length := by
  simp only [key, Text.upTo, List.length_take, Sha256.length_hexDigest]

theorem key_eq_nil_of (empty : key settings a = []) : key settings b = [] := by
  rw [← List.length_eq_zero_iff, length_key_eq settings b a, empty]
  rfl

/-! ## Names -/

theorem nameText_eq_iff : nameText settings a = nameText settings b ↔ key settings a = key settings b := by
  simp [nameText]

theorem length_encode_nameText_eq (settings : Settings) (a b : Text) :
    (Text.Utf8.encode (nameText settings a)).length =
      (Text.Utf8.encode (nameText settings b)).length := by
  simp only [nameText, Text.encode_append, List.length_append]
  rw [Text.length_encode_of_hexDigits fun _ => mem_key,
    Text.length_encode_of_hexDigits fun _ => mem_key, length_key_eq settings a b]

/-- A name without a digit has an empty key, and all workspaces have it. -/
theorem key_eq_nil_of_nameText {word : Text} (noDigit : ∀ c ∈ word, c ∉ Text.hexDigits)
    (same : nameText settings a = word) : key settings a = [] := by
  rw [List.eq_nil_iff_forall_not_mem]
  intro c inKey
  refine noDigit c ?_ (mem_key inKey)
  rw [← same, nameText]
  simp [inKey]

theorem nameText_eq_word {word : Text} (noDigit : ∀ c ∈ word, c ∉ Text.hexDigits)
    (same : nameText settings a = word) : nameText settings b = word := by
  have empty := key_eq_nil_of_nameText noDigit same
  rw [← same, nameText_eq_iff, empty, key_eq_nil_of empty]

/-- Either the names of all workspaces are names, or all are the same and none is. -/
theorem isName_nameText (settings : Settings) :
    (∀ workspace, Path.isName (nameText settings workspace) = true) ∨
      (∀ workspace, Path.isName (nameText settings workspace) = false) ∧
        ∀ a b, nameText settings a = nameText settings b ∧ key settings a = key settings b := by
  by_cases named : ∀ workspace, Path.isName (nameText settings workspace) = true
  · exact Or.inl named
  · right
    push Not at named
    obtain ⟨workspace, noName⟩ := named
    rw [ne_eq, Bool.not_eq_true, Path.isName_eq_false_iff] at noName
    have word : ∃ word, (∀ c ∈ word, c ∉ Text.hexDigits) ∧ (word = [] ∨ word = ['.']) ∧
        nameText settings workspace = word := by
      rcases noName with empty | dot
      · exact ⟨[], by simp, Or.inl rfl, empty⟩
      · refine ⟨['.'], ?_, Or.inr rfl, dot⟩
        intro c member
        rw [List.mem_singleton.mp member]
        decide
    obtain ⟨word, noDigit, blank, same⟩ := word
    have each : ∀ other, nameText settings other = word := fun other => nameText_eq_word noDigit same
    constructor
    · intro other
      rw [each other]
      exact Path.isName_eq_false_iff.mpr blank
    · intro a b
      have names : nameText settings a = nameText settings b := by rw [each a, each b]
      exact ⟨names, nameText_eq_iff.mp names⟩

/-- The name of an output file holds the null character if the settings do. -/
theorem contains_null_nameText (settings : Settings) (a b : Text) :
    (nameText settings a).contains '\x00' = (nameText settings b).contains '\x00' := by
  have noKey : ∀ workspace, '\x00' ∉ key settings workspace := fun _ => not_mem_key (by decide)
  rw [Bool.eq_iff_iff]
  simp [nameText, noKey]

/-! ## Paths -/

theorem isProper_pathIn (settings : Settings) (storage workspace : Text) :
    (pathIn settings storage workspace).IsProper :=
  (Path.isProper_ofText storage).append (Path.isProper_ofText _)

/-- Whether the settings make no directory of their own. -/
def IsPlain (settings : Settings) : Prop :=
  '/' ∉ settings.outputPrefix ∧ '/' ∉ settings.outputSuffix

instance (settings : Settings) : Decidable (IsPlain settings) := inferInstanceAs (Decidable (_ ∧ _))

theorem ofText_nameText (plain : IsPlain settings) (workspace : Text) :
    Path.ofText (nameText settings workspace) =
      ⟨.relative, [nameText settings workspace].filter Path.isName⟩ := by
  have noSlash : '/' ∉ nameText settings workspace := by
    have inKey : '/' ∉ key settings workspace := not_mem_key (by decide)
    simp [nameText, plain.1, plain.2, inKey]
  have root : Path.Root.ofText (nameText settings workspace) = .relative :=
    Path.root_ofText_render .relative fun slash => noSlash (List.mem_of_mem_head? slash)
  rw [Path.ofText, root, List.splitOn_eq_singleton noSlash]

/-- Either every output file is an entry of the storage directory under its own name, or
the storage directory itself is the output file of all workspaces. -/
theorem pathIn_cases (plain : IsPlain settings) (storage : Text) :
    (∀ workspace, nameText settings workspace ≠ [] ∧ pathIn settings storage workspace =
        ⟨(Path.ofText storage).root, (Path.ofText storage).names ++ [nameText settings workspace]⟩) ∨
      (∀ workspace, pathIn settings storage workspace = Path.ofText storage) ∧
        ∀ a b, key settings a = key settings b := by
  have glued : ∀ workspace, pathIn settings storage workspace =
      ⟨(Path.ofText storage).root,
        (Path.ofText storage).names ++ [nameText settings workspace].filter Path.isName⟩ := by
    intro workspace
    rw [pathIn, ofText_nameText plain]
    rfl
  rcases isName_nameText settings with named | ⟨unnamed, same⟩
  · refine Or.inl fun workspace => ⟨?_, ?_⟩
    · intro empty
      have isName := named workspace
      rw [empty] at isName
      cases isName
    · rw [glued, List.filter_cons_of_pos (named workspace)]
      rfl
  · refine Or.inr ⟨fun workspace => ?_, fun a b => (same a b).2⟩
    rw [glued, List.filter_cons_of_neg (by simp [unnamed workspace])]
    simp

theorem pathIn_eq_of_key (same : key settings a = key settings b) :
    pathIn settings storage a = pathIn settings storage b := by
  rw [pathIn, pathIn, nameText_eq_iff.mpr same]

theorem parent_pathIn_eq (plain : IsPlain settings) (storage a b : Text) :
    (pathIn settings storage a).parent = (pathIn settings storage b).parent := by
  rcases pathIn_cases plain storage with own | ⟨shared, -⟩
  · rw [(own a).2, (own b).2, Path.parent, Path.parent, List.dropLast_concat, List.dropLast_concat]
  · rw [shared a, shared b]

theorem length_encode_render_concat (root : Path.Root) (names : List Text) {last : Text}
    (held : last ≠ []) :
    (Text.Utf8.encode (Path.render ⟨root, names ++ [last]⟩)).length =
      (Text.Utf8.encode (root.render ++ names.flatMap (· ++ ['/']))).length +
        (Text.Utf8.encode last).length := by
  have written : Path.render ⟨root, names ++ [last]⟩ =
      (root.render ++ names.flatMap (· ++ ['/'])) ++ last := by
    rw [Path.render_of_ne_nil, Text.join_concat, List.append_assoc]
    rw [Text.join_concat]
    simp [held]
  rw [written, Text.encode_append, List.length_append]

/-- What the system takes as the path of one workspace it takes for all. -/
theorem accept_pathIn (plain : IsPlain settings)
    (accepted : FileSystem.accept (pathIn settings storage a) = .ok ()) :
    FileSystem.accept (pathIn settings storage b) = .ok () := by
  rcases pathIn_cases plain storage with own | ⟨shared, -⟩
  · obtain ⟨clean, short⟩ := FileSystem.accept_eq_ok_iff.mp accepted
    have lengths := length_encode_nameText_eq settings a b
    refine FileSystem.accept_eq_ok_iff.mpr ⟨?_, ?_⟩
    · rw [(own a).2] at clean
      rw [(own b).2]
      simp only [FileSystem.hasNull, List.any_append, List.any_cons, List.any_nil] at clean ⊢
      rwa [contains_null_nameText settings b a]
    · rw [(own a).2] at short
      rw [(own b).2]
      unfold FileSystem.isLongPath at short ⊢
      rwa [length_encode_render_concat _ _ (own b).1, ← lengths,
        ← length_encode_render_concat _ _ (own a).1]
  · rwa [shared b, ← shared a]

/-- What is an entry for one workspace is so for all. -/
theorem isEntry_pathIn (plain : IsPlain settings) (entry : IsEntry fs working (pathIn settings storage a)) :
    IsEntry fs working (pathIn settings storage b) := by
  rcases pathIn_cases plain storage with own | ⟨shared, -⟩
  · obtain ⟨last, isLast, isName, shortName⟩ := entry.named
    have lengths := length_encode_nameText_eq settings a b
    rw [(own a).2, List.getLast?_concat, Option.some.injEq] at isLast
    refine ⟨accept_pathIn plain entry.accepted, ?_, nameText settings b, ?_, ?_, ?_⟩
    · rw [parent_pathIn_eq plain storage b a]
      exact entry.directory
    · rw [(own b).2, List.getLast?_concat]
    · intro isUp
      refine isName (isLast.symm.trans (nameText_eq_word ?_ isUp))
      intro c member
      rw [List.eq_of_mem_replicate (show c ∈ List.replicate 2 '.' from member)]
      decide
    · rw [← isLast] at shortName
      unfold FileSystem.isLongName at shortName ⊢
      rwa [← lengths]
  · rw [shared b, ← shared a]
    exact entry

theorem destination_pathIn {workspace : Text}
    (entry : IsEntry fs working (pathIn settings storage workspace))
    (own : pathIn settings storage workspace =
      ⟨(Path.ofText storage).root, (Path.ofText storage).names ++ [nameText settings workspace]⟩) :
    destination working (pathIn settings storage workspace) =
      destination working (Path.ofText storage) ++ [nameText settings workspace] := by
  obtain ⟨last, isLast, isName, -⟩ := entry.named
  rw [FileSystem.destination_of_getLast? isLast, FileSystem.follow_of_ne isName]
  rw [own, List.getLast?_concat, Option.some.injEq] at isLast
  rw [own, List.dropLast_concat, isLast]
  rfl

/-- Two output files lie at one place exactly if their workspaces have one key. -/
theorem destination_pathIn_eq_iff (plain : IsPlain settings)
    (entry : ∀ workspace, IsEntry fs working (pathIn settings storage workspace)) :
    destination working (pathIn settings storage a) = destination working (pathIn settings storage b) ↔
      key settings a = key settings b := by
  constructor
  · intro same
    rcases pathIn_cases plain storage with own | ⟨-, oneKey⟩
    · rw [destination_pathIn (entry a) (own a).2, destination_pathIn (entry b) (own b).2,
        List.append_cancel_left_eq, List.singleton_inj] at same
      exact nameText_eq_iff.mp same
    · exact oneKey a b
  · intro same
    rw [pathIn_eq_of_key same]

/-- In a vacant storage directory there is no output file, unless making its directories put
one of them in the file's place. -/
theorem lookup_destination_pathIn {allowed : Place → Prop} (plain : IsPlain settings)
    (vacant : FileSystem.IsVacant fs (destination working (Path.ofText storage)))
    (grown : FileSystem.Grown allowed fs made)
    (entry : ∀ workspace, IsEntry made working (pathIn settings storage workspace))
    (free : made.lookup (destination working (pathIn settings storage a)) ≠ some .directory) :
    fs.lookup (destination working (pathIn settings storage b)) = none := by
  rcases pathIn_cases plain storage with own | ⟨shared, -⟩
  · rw [destination_pathIn (entry b) (own b).2]
    exact vacant.below _ []
  · rw [shared a] at free
    rw [shared b]
    refine vacant.here.resolve_right fun there => free ?_
    exact grown.keepsDirectories _ there

/-! ## Creating -/

variable {levels : Nat}

/-- A file is created where its directory can be made and nothing but a file is in its
place. -/
theorem create_of_isEntry {workspace : Text}
    (ensured : fs.ensureDirectory working levels (pathIn settings storage workspace).parent =
      (made, none))
    (entry : IsEntry made working (pathIn settings storage workspace))
    (free : made.lookup (destination working (pathIn settings storage workspace)) = none ∨
      ∃ old, made.lookup (destination working (pathIn settings storage workspace)) =
        some (.file old)) :
    create fs working levels settings storage workspace =
      (made.put (destination working (pathIn settings storage workspace)) (.file []),
        .ok ⟨workspace, pathIn settings storage workspace⟩) := by
  unfold create
  dsimp only
  rw [FileSystem.writeAnywhere_of_free ensured entry free]

/-- What a file was created in, and what it was created over. -/
theorem written_of_create {workspace : Text}
    (created : (create fs working levels settings storage workspace).2.isOk = true) :
    ∃ made, fs.ensureDirectory working levels (pathIn settings storage workspace).parent =
        (made, none) ∧
      IsEntry made working (pathIn settings storage workspace) ∧
      ∃ node, FileSystem.overwrite []
          (made.lookup (destination working (pathIn settings storage workspace))) = .ok node ∧
        create fs working levels settings storage workspace =
          (made.put (destination working (pathIn settings storage workspace)) node,
            .ok ⟨workspace, pathIn settings storage workspace⟩) := by
  have outcome := created
  unfold create at outcome
  dsimp only at outcome
  cases written : fs.writeAnywhere working levels (pathIn settings storage workspace) [] with
  | mk after fault =>
      rw [written] at outcome
      cases fault with
      | some fault => cases outcome
      | none =>
          obtain ⟨made, ensured, entry, node, taken, rfl⟩ :=
            FileSystem.writeAnywhere_eq_done_iff.mp written
          refine ⟨made, ensured, entry, node, taken, ?_⟩
          unfold create
          dsimp only
          rw [written]

end OutputFile

end CompilerFeedback
