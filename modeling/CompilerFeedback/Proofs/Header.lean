/-
# CompilerFeedback.Proofs.Header -- a written header is read back

What stands behind a path is read in exactly one form (`Coordinates.read?_render`),
so the order of the forms does not matter for a header that was written.  What can
go wrong is the place of the cut: the colon in second place belongs to the path of
a drive, and ends a path of one character.  At the wrong one of the two colons no
form reads anything (`read?_eq_none_of_colon`, `read?_eq_none_of_digits`), as long
as the line goes on with a blank or ends behind the header.

* `Header.scan?_render`: a written header is read back, with what follows it.
* `Coordinates.number_eq_min`: a run of digits is read as its number, up to the
  largest coordinate.
-/
import CompilerFeedback.Header
import CompilerFeedback.Proofs.Text

namespace CompilerFeedback

set_option autoImplicit false

namespace Coordinates

/-! ## The forms -/

/-- Whether every coordinate is a run of digits. -/
def IsWritten : Coordinates → Prop
  | .point line column => Text.IsDigits line ∧ Text.IsDigits column
  | .columns line column endColumn =>
      Text.IsDigits line ∧ Text.IsDigits column ∧ Text.IsDigits endColumn
  | .region line column endLine endColumn =>
      Text.IsDigits line ∧ Text.IsDigits column ∧ Text.IsDigits endLine ∧ Text.IsDigits endColumn

/-- The form that coordinates have. -/
def form : Coordinates → Form
  | .point .. => .point
  | .columns .. => .columns
  | .region .. => .region

@[simp] theorem skip?_nil (t : Text) : skip? [] t = some t := by
  simp [skip?, Text.startsWith]

@[simp] theorem skip?_cons_cons (c : Char) (expected t : Text) :
    skip? (c :: expected) (c :: t) = skip? expected t := by
  simp [skip?, Text.startsWith, List.isPrefixOf]

theorem skip?_eq_none {c : Char} {t : Text} (differs : t.head? ≠ some c) (expected : Text) :
    skip? (c :: expected) t = none := by
  cases t with
  | nil => rfl
  | cons d t =>
      have other : c ≠ d := fun same => differs (congrArg some same.symm)
      simp [skip?, Text.startsWith, List.isPrefixOf, other]

theorem skip?_cons_of_ne {c d : Char} (differs : d ≠ c) (expected t : Text) :
    skip? (c :: expected) (d :: t) = none :=
  skip?_eq_none (by simpa using differs) expected

theorem digits?_append {digits rest : Text} (run : Text.IsDigits digits)
    (stop : Text.startsWithDigit rest = false) : digits? (digits ++ rest) = some (digits, rest) := by
  rw [digits?, if_pos (Text.startsWithDigit_append run rest), Text.takeDigits_append run.2 stop,
    Text.dropDigits_append run.2 stop]

theorem digits?_eq_none {t : Text} (stop : Text.startsWithDigit t = false) : digits? t = none := by
  simp [digits?, stop]

/-- Where no digit and no parenthesis follows the colon, there are no coordinates. -/
theorem read?_eq_none_of_colon {t : Text} (noDigit : Text.startsWithDigit t = false)
    (noRegion : t.head? ≠ some '(') (form : Form) : read? form (':' :: t) = none := by
  cases form <;> simp [read?, digits?_eq_none noDigit, skip?_eq_none noRegion]

theorem head?_append_ne {digits : Text} (run : Text.IsDigits digits) (t : Text) {c : Char}
    (noDigit : c.isDigit = false) : (digits ++ t).head? ≠ some c := by
  cases digits with
  | nil => exact absurd rfl run.1
  | cons d digits =>
      intro same
      have digit := run.2 d List.mem_cons_self
      rw [Option.some.inj same, noDigit] at digit
      cases digit

/-- Where only one number stands behind the colon, there are no coordinates. -/
theorem read?_eq_none_of_digits {digits t : Text} (run : Text.IsDigits digits)
    (stop : Text.startsWithDigit t = false)
    (single : ∀ u, t = ':' :: u → Text.startsWithDigit u = false) (form : Form) :
    read? form (':' :: (digits ++ t)) = none := by
  have noRegion : (digits ++ t).head? ≠ some '(' := head?_append_ne run t rfl
  have second : ∀ u, skip? [':'] t = some u → digits? u = none := fun u skipped =>
    digits?_eq_none (single u (append_of_skip? skipped).symm)
  cases skipped : skip? [':'] t <;>
    cases form <;> simp [read?, digits?_append run stop, skip?_eq_none noRegion, skipped, second]

/-- **The forms exclude each other.**  Written coordinates are read in their own form,
with what follows them, and in no other. -/
theorem read?_render {c : Coordinates} (written : c.IsWritten) (form : Form) (rest : Text) :
    read? form (c.render ++ rest) = if form = c.form then some (c, rest) else none := by
  cases c with
  | point line column =>
      obtain ⟨line_, column_⟩ := written
      have noRegion := head?_append_ne line_ (':' :: (column ++ ':' :: rest)) (c := '(') rfl
      cases form <;> simp [read?, render, Coordinates.form, digits?_append, skip?_eq_none noRegion,
        skip?_cons_of_ne, Text.startsWithDigit, Char.isDigit, line_, column_]
  | columns line column endColumn =>
      obtain ⟨line_, column_, endColumn_⟩ := written
      have noRegion :=
        head?_append_ne line_ (':' :: (column ++ '-' :: (endColumn ++ ':' :: rest))) (c := '(') rfl
      cases form <;> simp [read?, render, Coordinates.form, digits?_append, skip?_eq_none noRegion,
        skip?_cons_of_ne, Text.startsWithDigit, Char.isDigit, line_, column_, endColumn_]
  | region line column endLine endColumn =>
      obtain ⟨line_, column_, endLine_, endColumn_⟩ := written
      cases form <;> simp [read?, render, Coordinates.form, digits?_append, digits?_eq_none,
        Text.startsWithDigit, Char.isDigit, line_, column_, endLine_, endColumn_]

/-! ## What is read are runs of digits -/

theorem isDigits_of_digits? {t digits rest : Text} (read : digits? t = some (digits, rest)) :
    Text.IsDigits digits := by
  simp only [digits?, Option.ite_none_right_eq_some, Option.some.injEq, Prod.mk.injEq] at read
  obtain ⟨start, rfl, -⟩ := read
  exact Text.isDigits_takeDigits start

theorem isWritten_of_read? {form : Form} {t rest : Text} {c : Coordinates}
    (read : read? form t = some (c, rest)) : c.IsWritten := by
  cases form <;>
    simp only [read?, Option.bind_eq_bind, Option.bind_eq_some_iff, Option.pure_def,
      Option.some.injEq, Prod.mk.injEq, Prod.exists] at read
  case point =>
    obtain ⟨_, -, _, _, line, _, -, _, _, column, _, -, rfl, rfl⟩ := read
    exact ⟨isDigits_of_digits? line, isDigits_of_digits? column⟩
  case columns =>
    obtain ⟨_, -, _, _, line, _, -, _, _, column, _, -, _, _, endColumn, _, -, rfl, rfl⟩ := read
    exact ⟨isDigits_of_digits? line, isDigits_of_digits? column, isDigits_of_digits? endColumn⟩
  case region =>
    obtain ⟨_, -, _, _, line, _, -, _, _, column, _, -, _, _, endLine, _, -, _, _, endColumn, _, -,
      rfl, rfl⟩ := read
    exact ⟨isDigits_of_digits? line, isDigits_of_digits? column, isDigits_of_digits? endLine,
      isDigits_of_digits? endColumn⟩

/-- The characters that coordinates are written with. -/
def isMark (c : Char) : Bool := c.isDigit || [':', '-', ',', '(', ')'].contains c

theorem isMark_of_mem_render {c : Coordinates} (written : c.IsWritten) :
    ∀ x ∈ c.render, isMark x := by
  have run : ∀ {digits : Text}, Text.IsDigits digits → digits.all isMark := fun digits =>
    List.all_eq_true.mpr fun x member => by simp [isMark, digits.2 x member]
  rw [← List.all_eq_true]
  cases c with
  | point line column =>
      have line_ := run written.1
      have column_ := run written.2
      simp only [render, List.all_append, List.all_cons, line_, column_]
      decide
  | columns line column endColumn =>
      have line_ := run written.1
      have column_ := run written.2.1
      have endColumn_ := run written.2.2
      simp only [render, List.all_append, List.all_cons, line_, column_, endColumn_]
      decide
  | region line column endLine endColumn =>
      have line_ := run written.1
      have column_ := run written.2.1
      have endLine_ := run written.2.2.1
      have endColumn_ := run written.2.2.2
      simp only [render, List.all_append, List.all_cons, line_, column_, endLine_, endColumn_]
      decide

theorem unbroken_render {c : Coordinates} (written : c.IsWritten) : Text.Unbroken c.render :=
  ⟨fun feed => absurd (isMark_of_mem_render written _ feed) (by decide),
    fun ret => absurd (isMark_of_mem_render written _ ret) (by decide)⟩

/-- Coordinates, cut at their second colon: the one between the first two numbers, or the one
that ends a region. -/
def halves : Coordinates → Text × Text
  | .point line column => (':' :: line, ':' :: column ++ [':'])
  | .columns line column endColumn => (':' :: line, ':' :: column ++ '-' :: endColumn ++ [':'])
  | .region line column endLine endColumn =>
      (':' :: '(' :: line ++ ',' :: column ++ [')', '-', '('] ++ endLine ++ ',' :: endColumn ++ [')'],
        [':'])

/-! ## The numbers -/

/-- A run of digits is read as the number it denotes, up to the largest coordinate. -/
theorem number_eq_min {digits : Text} (run : ∀ c ∈ digits, c.isDigit) :
    number digits = min (Text.toNat digits) largest := by
  have runs : ∀ c ∈ digits.dropWhile (· == '0'), c.isDigit := fun c member =>
    run c ((List.dropWhile_suffix _).mem member)
  rw [number, ← Text.toNat_dropZeros digits]
  have stop := List.head?_dropWhile_not (· == '0') digits
  generalize digits.dropWhile (· == '0') = significant at runs stop
  have power : largest + 1 = 10 ^ 18 := rfl
  split
  · rename_i long
    cases significant with
    | nil => simp at long
    | cons c digits =>
        have significant : c ≠ '0' := by simpa using stop
        have lower : 10 ^ digits.length ≤ Text.toNat (c :: digits) :=
          Text.le_toNat (runs c List.mem_cons_self) significant
        have grows : 10 ^ 18 ≤ 10 ^ digits.length :=
          Nat.pow_le_pow_right (by decide) (Nat.lt_succ_iff.mp long)
        omega
  · rename_i short
    have upper := Text.toNat_lt runs
    have grows : 10 ^ significant.length ≤ 10 ^ 18 :=
      Nat.pow_le_pow_right (by decide) (Nat.not_lt.mp short)
    omega

/-- A number up to the largest coordinate is read back from its digits. -/
theorem number_ofNat {n : Nat} (bound : n ≤ largest) : number (Text.ofNat n) = n := by
  rw [number_eq_min (Text.isDigits_ofNat n).2, Text.toNat_ofNat]
  exact Nat.min_eq_left bound

end Coordinates

/-! ## The cut behind the path -/

namespace Header

/-- Whether a path has no colon but one behind a drive letter. -/
def HasDriveColonOnly (path : Text) : Prop :=
  ':' ∉ path ∨
    path.count ':' = 1 ∧ path[1]? = some ':' ∧ (path[2]? = some '/' ∨ path[2]? = some '\\')

instance (path : Text) : Decidable (HasDriveColonOnly path) :=
  inferInstanceAs (Decidable (_ ∨ _))

theorem HasDriveColonOnly.cases {path : Text} (colons : HasDriveColonOnly path) :
    ':' ∉ path ∨ ∃ drive separator rest, path = drive :: ':' :: separator :: rest ∧
      (separator = '/' ∨ separator = '\\') ∧ ':' ∉ rest := by
  refine colons.imp_right fun ⟨once, second, third⟩ => ?_
  match path with
  | [] | [_] | [_, _] => simp at second third
  | drive :: colon :: separator :: rest =>
      obtain rfl : colon = ':' := by simpa using second
      refine ⟨drive, separator, rest, rfl, by simpa using third, ?_⟩
      simp only [List.count_cons, beq_self_eq_true, if_true] at once
      exact List.count_eq_zero.mp (by omega)

theorem cutAtColon_append {path : Text} {least : Nat} (within : least ≤ path.length)
    (free : ':' ∉ path.drop least) (t : Text) :
    cutAtColon least (path ++ ':' :: t) = (path, ':' :: t) := by
  have kept : ∀ c ∈ path.drop least, (c != ':') = true := fun c member => by
    simpa using ne_of_mem_of_not_mem member free
  rw [cutAtColon, List.take_append_of_le_length within, List.drop_append_of_le_length within,
    List.takeWhile_append_of_pos kept, List.dropWhile_append_of_pos kept]
  simp

/-- Where every try gives one outcome or nothing, and some try gives it, it is the result. -/
theorem findSome?_eq_of_agree {α β : Type} {f : α → Option β} {outcome : Option β} {tries : List α}
    (agree : ∀ a ∈ tries, f a = outcome ∨ f a = none) (hit : ∃ a ∈ tries, f a = outcome) :
    tries.findSome? f = outcome := by
  cases outcome with
  | none => exact List.findSome?_eq_none_iff.mpr fun a member => (agree a member).elim id id
  | some b =>
      cases result : tries.findSome? f with
      | none =>
          obtain ⟨a, member, found⟩ := hit
          rw [List.findSome?_eq_none_iff.mp result a member] at found
          cases found
      | some other =>
          obtain ⟨a, member, found⟩ := List.exists_of_findSome?_eq_some result
          rcases agree a member with same | nothing
          · exact found.symm.trans same
          · rw [nothing] at found
            cases found

/-- If one of the two cuts leaves the path and its coordinates, and the other the same or
nothing that can be read, then the header is read. -/
theorem scan?_of_cuts {line path rest : Text} {c : Coordinates} (written : c.IsWritten)
    (start : line.head? ≠ some '\n')
    (cuts : ∀ least ∈ [1, 2], cutAtColon least line = (path, c.render ++ rest) ∨
      ∀ form, Coordinates.read? form (cutAtColon least line).2 = none)
    (hit : ∃ least ∈ [1, 2], cutAtColon least line = (path, c.render ++ rest)) :
    scan? line = some (⟨path, c⟩, rest) := by
  have scanned : ∀ form, scanForm? form line =
      if form = c.form then some (⟨path, c⟩, rest) else none := by
    intro form
    have atPath : ∀ least, cutAtColon least line = (path, c.render ++ rest) →
        ((Coordinates.read? form (cutAtColon least line).2).map fun found =>
          (Header.mk (cutAtColon least line).1 found.1, found.2)) =
            if form = c.form then some (⟨path, c⟩, rest) else none := by
      intro least cut
      rw [cut, Coordinates.read?_render written]
      split <;> rfl
    rw [scanForm?, if_neg start]
    apply findSome?_eq_of_agree
    · intro least member
      rcases cuts least member with cut | nothing
      · exact Or.inl (atPath least cut)
      · exact Or.inr (by simp [nothing])
    · obtain ⟨least, member, cut⟩ := hit
      exact ⟨least, member, atPath least cut⟩
  apply findSome?_eq_of_agree
  · intro form _
    rw [scanned]
    by_cases same : form = c.form <;> simp [same]
  · exact ⟨c.form, by cases c.form <;> decide, by rw [scanned, if_pos rfl]⟩

theorem colon_not_mem_of_isDigits {digits : Text} (run : Text.IsDigits digits) : ':' ∉ digits :=
  fun member => absurd (run.2 ':' member) (by decide)

/-- Behind a path of one character, the second colon is the one inside the coordinates. -/
theorem cutAtColon_two_render {c : Coordinates} (written : c.IsWritten) (p : Char) (rest : Text) :
    cutAtColon 2 (p :: (c.render ++ rest)) = (p :: c.halves.1, c.halves.2 ++ rest) := by
  have long : ∀ t : Text, 2 ≤ (p :: ':' :: t).length := by simp
  cases c with
  | point line column =>
      have cut := cutAtColon_append (long line) (colon_not_mem_of_isDigits written.1)
        (column ++ ':' :: rest)
      simpa [Coordinates.render, Coordinates.halves] using cut
  | columns line column endColumn =>
      have cut := cutAtColon_append (long line) (colon_not_mem_of_isDigits written.1)
        (column ++ '-' :: (endColumn ++ ':' :: rest))
      simpa [Coordinates.render, Coordinates.halves] using cut
  | region line column endLine endColumn =>
      obtain ⟨line_, column_, endLine_, endColumn_⟩ := written
      have free : ':' ∉ '(' :: (line ++ ',' :: (column ++ ')' :: '-' :: '(' ::
          (endLine ++ ',' :: (endColumn ++ [')'])))) := by
        simp [colon_not_mem_of_isDigits, line_, column_, endLine_, endColumn_]
      have cut := cutAtColon_append (long _) free rest
      simpa [Coordinates.render, Coordinates.halves] using cut

/-- Behind the second colon of a header whose path is one character, nothing is read. -/
theorem read?_eq_none_of_second_colon {c : Coordinates} (written : c.IsWritten) {rest : Text}
    (ends : rest.head?.all Text.isBlank) (p : Char) (form : Coordinates.Form) :
    Coordinates.read? form (cutAtColon 2 (p :: (c.render ++ rest))).2 = none := by
  have noDigit : Text.startsWithDigit rest = false := by
    cases rest with
    | nil => rfl
    | cons d rest => exact Text.not_isDigit_of_isBlank (by simpa using ends)
  have noRegion : rest.head? ≠ some '(' := by
    intro parenthesis
    rw [parenthesis] at ends
    exact absurd ends (by decide)
  rw [cutAtColon_two_render written]
  cases c with
  | point line column =>
      have single : ∀ u, ':' :: rest = ':' :: u → Text.startsWithDigit u = false := by
        rintro u ⟨⟩
        exact noDigit
      simpa [Coordinates.halves] using
        Coordinates.read?_eq_none_of_digits written.2 (t := ':' :: rest) rfl single form
  | columns line column endColumn =>
      simpa [Coordinates.halves] using Coordinates.read?_eq_none_of_digits written.2.1
        (t := '-' :: (endColumn ++ ':' :: rest)) rfl (by rintro u ⟨⟩) form
  | region line column endLine endColumn =>
      exact Coordinates.read?_eq_none_of_colon noDigit noRegion form

/-- The colon that ends the path. -/
theorem render_append_eq (h : Header) (rest : Text) :
    ∃ t, h.render ++ rest = h.path ++ ':' :: t ∧ h.coordinates.render ++ rest = ':' :: t := by
  obtain ⟨path, c⟩ := h
  obtain ⟨t, colon⟩ : ∃ t, c.render ++ rest = ':' :: t := by cases c <;> exact ⟨_, rfl⟩
  exact ⟨t, by rw [render, List.append_assoc, colon], colon⟩

/-- **A written header is read back**, with what follows it: a blank, or nothing. -/
theorem scan?_render {h : Header} (written : h.coordinates.IsWritten) (held : h.path ≠ [])
    (start : h.path.head? ≠ some '\n') (colons : HasDriveColonOnly h.path) {rest : Text}
    (ends : rest.head?.all Text.isBlank) : scan? (h.render ++ rest) = some (h, rest) := by
  obtain ⟨t, line, colon⟩ := render_append_eq h rest
  obtain ⟨path, c⟩ := h
  have lineStart : (path ++ (c.render ++ rest)).head? ≠ some '\n' := by
    rwa [List.head?_append_of_ne_nil _ held]
  have right : ∀ least, least ≤ path.length → ':' ∉ path.drop least →
      cutAtColon least (path ++ (c.render ++ rest)) = (path, c.render ++ rest) := by
    intro least within free
    rw [colon]
    exact cutAtColon_append within free t
  rw [render, List.append_assoc]
  rcases colons.cases with free | ⟨drive, separator, names, rfl, separated, free⟩
  · have first := right 1 (List.length_pos_iff.mpr held) fun member => free (List.mem_of_mem_drop member)
    refine scan?_of_cuts written lineStart (fun least member => ?_) ⟨1, by simp, first⟩
    obtain rfl | rfl : least = 1 ∨ least = 2 := by simpa using member
    · exact Or.inl first
    · cases path with
      | nil => exact absurd rfl held
      | cons p path =>
          cases path with
          | nil => exact Or.inr (read?_eq_none_of_second_colon written ends p)
          | cons q path =>
              exact Or.inl (right 2 (by simp) fun member => free (List.mem_of_mem_drop member))
  · have inNames : ':' ∉ separator :: names := by
      rcases separated with rfl | rfl <;> simpa using free
    have second := right 2 (by simp) inNames
    refine scan?_of_cuts written lineStart (fun least member => ?_) ⟨2, by simp, second⟩
    obtain rfl | rfl : least = 1 ∨ least = 2 := by simpa using member
    · refine Or.inr fun form => ?_
      have tail : (cutAtColon 1 (drive :: ':' :: separator :: names ++ (c.render ++ rest))).2 =
          ':' :: (separator :: (names ++ (c.render ++ rest))) := by
        simp [cutAtColon]
      rw [tail]
      exact Coordinates.read?_eq_none_of_colon (by rcases separated with rfl | rfl <;> rfl)
        (by rcases separated with rfl | rfl <;> simp) form
    · exact Or.inl second

theorem isWritten_of_scan? {line rest : Text} {h : Header}
    (found : scan? line = some (h, rest)) : h.coordinates.IsWritten := by
  obtain ⟨form, -, found⟩ := List.exists_of_findSome?_eq_some found
  simp only [scanForm?, Option.ite_none_left_eq_some] at found
  obtain ⟨least, -, read⟩ := List.exists_of_findSome?_eq_some found.2
  simp only [Option.map_eq_some_iff, Prod.mk.injEq, Prod.exists] at read
  obtain ⟨coordinates, tail, read, rfl, rfl⟩ := read
  exact Coordinates.isWritten_of_read? read

end Header

end CompilerFeedback
