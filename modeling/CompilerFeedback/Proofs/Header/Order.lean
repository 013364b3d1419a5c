/-
# CompilerFeedback.Proofs.Header.Order -- when the order of the forms matters

The forms of coordinates are tried one after the other, and the first that matches is taken.
Behind one colon at most one form reads.  Two colons are looked for, and they differ only if the
first of them is the second character of the line.  So on any other line at most one form
matches, and the order of the tries makes no difference.

Behind a colon in second place two forms can match, one behind each colon.  Then what is read
behind the first one ends behind the second one (`Coordinates.halves`), and that leaves two
kinds of lines (`Ambiguous`): a point whose column begins a span of columns, and a region whose
last colon begins a point or a span of columns.

* `form_eq_of_matches`: elsewhere no two forms match.
* `exists_ambiguous`: where two forms match, the line is of the two kinds.
* `order_matters_behind_drive_only`: both, and what is read on the lines of the two kinds.
-/
import CompilerFeedback.Proofs.Header.Patterns

namespace CompilerFeedback

set_option autoImplicit false

/-! ## What follows a run of digits -/

/-- A run of digits ends where the text goes on in another way. -/
theorem Text.digits_append_inj {a b s t : Text} {c d : Char} (first : IsDigits a)
    (second : IsDigits b) (c_ : c.isDigit = false) (d_ : d.isDigit = false)
    (same : a ++ c :: s = b ++ d :: t) : a = b ∧ c = d ∧ s = t := by
  have run : a = b := by
    have afterA : startsWithDigit (c :: s) = false := c_
    have afterB : startsWithDigit (d :: t) = false := d_
    rw [← takeDigits_append first.2 afterA, same, takeDigits_append second.2 afterB]
  subst run
  simpa using same

namespace Header

variable {line path rest : Text} {form f g : Coordinates.Form} {c : Coordinates} {least : Nat}

/-! ## One colon -/

theorem readBehind?_of_cut (written : c.IsWritten)
    (cut : cutAtColon least line = (path, c.render ++ rest)) (form : Coordinates.Form) :
    readBehind? form line least = if form = c.form then some (⟨path, c⟩, rest) else none := by
  rw [readBehind?, cut, Coordinates.read?_render written]
  split <;> rfl

theorem cut_of_readBehind? {h : Header} (read : readBehind? form line least = some (h, rest)) :
    h.coordinates.IsWritten ∧ h.coordinates.form = form ∧
      cutAtColon least line = (h.path, h.coordinates.render ++ rest) := by
  rw [readBehind?, Option.map_eq_some_iff] at read
  obtain ⟨⟨c, tail⟩, read, made⟩ := read
  obtain ⟨rfl, rfl⟩ := Prod.mk.inj made
  refine ⟨Coordinates.isWritten_of_read? read, Coordinates.form_of_read? read, ?_⟩
  rw [Coordinates.render_of_read? read]

/-- Behind one colon at most one form reads. -/
theorem form_eq_of_readBehind? {a b : Header × Text} (first : readBehind? f line least = some a)
    (second : readBehind? g line least = some b) : f = g := by
  obtain ⟨written, form, cut⟩ := cut_of_readBehind? first
  rw [readBehind?_of_cut written cut, form] at second
  by_contra other
  rw [if_neg (Ne.symm other)] at second
  cases second

/-! ## Matches -/

/-- Whether the pattern of a form matches at the start of a line. -/
def Matches (form : Coordinates.Form) (line : Text) : Prop := ((pattern form).match? line).isSome

instance (form : Coordinates.Form) (line : Text) : Decidable (Matches form line) :=
  inferInstanceAs (Decidable (_ = true))

/-- The first match where the patterns are tried in an order of one's own. -/
def searchIn? (order : List Coordinates.Form) (line : Text) : Option (List (Part × Text) × Text) :=
  order.findSome? fun form => (pattern form).match? line

theorem matches_iff_scanForm? : Matches form line ↔ ∃ found, scanForm? form line = some found := by
  rw [Matches, match?_pattern, Option.isSome_map, Option.isSome_iff_exists]

theorem matches_iff :
    Matches form line ↔ line.head? ≠ some '\n' ∧
      ∃ least ∈ [1, 2], ∃ found, readBehind? form line least = some found := by
  rw [matches_iff_scanForm?, scanForm?_eq]
  by_cases feed : line.head? = some '\n'
  · simp [feed]
  · rw [if_neg feed, ← Option.isSome_iff_exists, List.findSome?_isSome_iff]
    simp only [Option.isSome_iff_exists, ne_eq, feed, not_false_eq_true, true_and]

theorem searchIn?_eq_map (order : List Coordinates.Form) (line : Text) :
    searchIn? order line =
      (order.findSome? (scanForm? · line)).map fun found => (found.1.groups, found.2) := by
  rw [searchIn?, List.map_findSome?]
  congr 1
  funext form
  exact match?_pattern form line

/-- Where at most one form matches, every order finds the same. -/
theorem findSome?_eq_scan? (single : ∀ f g, Matches f line → Matches g line → f = g)
    {order : List Coordinates.Form} (all : ∀ form, form ∈ order) :
    order.findSome? (scanForm? · line) = scan? line := by
  have every : ∀ form, form ∈ Coordinates.Form.all := by
    intro form
    cases form <;> decide
  have agree : ∀ form, scanForm? form line = scan? line ∨ scanForm? form line = none := by
    intro form
    cases found : scanForm? form line with
    | none => exact Or.inr rfl
    | some h =>
        left
        cases result : scan? line with
        | none =>
            have nothing := List.findSome?_eq_none_iff.mp result form (every form)
            rw [found] at nothing
            cases nothing
        | some first =>
            obtain ⟨other, -, same⟩ := List.exists_of_findSome?_eq_some result
            have one := single form other (matches_iff_scanForm?.mpr ⟨h, found⟩)
              (matches_iff_scanForm?.mpr ⟨first, same⟩)
            rw [← found, one, same]
  apply findSome?_eq_of_agree
  · intro form _
    exact agree form
  · cases result : scan? line with
    | none =>
        exact ⟨.point, all _, List.findSome?_eq_none_iff.mp result _ (every _)⟩
    | some first =>
        obtain ⟨form, -, same⟩ := List.exists_of_findSome?_eq_some result
        exact ⟨form, all form, same⟩

/-! ## Lines without a colon in second place -/

theorem cutAtColon_two_eq_one (noDrive : line.tail.head? ≠ some ':') :
    cutAtColon 2 line = cutAtColon 1 line := by
  cases line with
  | nil => rfl
  | cons first line =>
      cases line with
      | nil => rfl
      | cons second line =>
          have other : second ≠ ':' := by simpa using noDrive
          simp [cutAtColon, other]

/-- Without a colon in second place at most one form matches. -/
theorem form_eq_of_matches (noDrive : line.tail.head? ≠ some ':') (first : Matches f line)
    (second : Matches g line) : f = g := by
  have one : ∀ {form}, Matches form line → ∃ found, readBehind? form line 1 = some found := by
    intro form matched
    obtain ⟨-, least, member, found, read⟩ := matches_iff.mp matched
    obtain rfl | rfl : least = 1 ∨ least = 2 := by simpa using member
    · exact ⟨found, read⟩
    · rw [readBehind?, cutAtColon_two_eq_one noDrive] at read
      exact ⟨found, read⟩
  obtain ⟨a, inFirst⟩ := one first
  obtain ⟨b, inSecond⟩ := one second
  exact form_eq_of_readBehind? inFirst inSecond

/-! ## Lines with a colon in second place -/

/-- Whether coordinates of two forms stand in a line, the `near` ones behind the first colon that
is looked for and the `far` ones behind the second. -/
structure Twofold (line : Text) (near far : Header) (nearRest farRest : Text) : Prop where
  start : line.head? ≠ some '\n'
  differ : near.coordinates.form ≠ far.coordinates.form
  nearWritten : near.coordinates.IsWritten
  farWritten : far.coordinates.IsWritten
  nearCut : cutAtColon 1 line = (near.path, near.coordinates.render ++ nearRest)
  farCut : cutAtColon 2 line = (far.path, far.coordinates.render ++ farRest)

/-- Lines in which two forms match, the header that is read from them, and what follows it.  A
point is followed by the rest of a span of columns, `p:D:D:D-D:`; or the last colon of a region
begins coordinates of another form, `p:(D,D)-(D,D):D:D:` or `p:(D,D)-(D,D):D:D-D:`, and the
region is part of the path. -/
inductive Ambiguous : Text → Header → Text → Prop where
  | point {p : Char} {line column first last rest : Text} (start : p ≠ '\n')
      (line_ : Text.IsDigits line) (column_ : Text.IsDigits column) (first_ : Text.IsDigits first)
      (last_ : Text.IsDigits last) :
      Ambiguous (p :: ':' :: line ++ ':' :: column ++ ':' :: first ++ '-' :: last ++ ':' :: rest)
        ⟨[p], .point line column⟩ (first ++ '-' :: last ++ ':' :: rest)
  | region {p : Char} {line column endLine endColumn rest : Text} {next : Coordinates}
      (start : p ≠ '\n') (line_ : Text.IsDigits line) (column_ : Text.IsDigits column)
      (endLine_ : Text.IsDigits endLine) (endColumn_ : Text.IsDigits endColumn)
      (written : next.IsWritten) (other : next.form ≠ .region) :
      Ambiguous (p :: ':' :: '(' :: line ++ ',' :: column ++ [')', '-', '('] ++ endLine ++
          ',' :: endColumn ++ [')'] ++ next.render ++ rest)
        ⟨p :: ':' :: '(' :: line ++ ',' :: column ++ [')', '-', '('] ++ endLine ++
          ',' :: endColumn ++ [')'], next⟩ rest

theorem twofold_of_matches (other : f ≠ g) (first : Matches f line) (second : Matches g line) :
    ∃ near far nearRest farRest, Twofold line near far nearRest farRest := by
  obtain ⟨start, k, kMember, ⟨a, aRest⟩, readA⟩ := matches_iff.mp first
  obtain ⟨-, l, lMember, ⟨b, bRest⟩, readB⟩ := matches_iff.mp second
  have apart : k ≠ l := by
    rintro rfl
    exact other (form_eq_of_readBehind? readA readB)
  obtain ⟨aWritten, rfl, aCut⟩ := cut_of_readBehind? readA
  obtain ⟨bWritten, rfl, bCut⟩ := cut_of_readBehind? readB
  obtain ⟨rfl, rfl⟩ | ⟨rfl, rfl⟩ : k = 1 ∧ l = 2 ∨ k = 2 ∧ l = 1 := by
    simp at kMember lMember
    omega
  · exact ⟨a, b, aRest, bRest, start, other, aWritten, bWritten, aCut, bCut⟩
  · exact ⟨b, a, bRest, aRest, start, Ne.symm other, bWritten, aWritten, bCut, aCut⟩

section Twofold

variable {near far : Header} {nearRest farRest : Text}
  (twofold : Twofold line near far nearRest farRest)
include twofold

theorem Twofold.scanForm?_eq (form : Coordinates.Form) :
    scanForm? form line =
      if form = near.coordinates.form then some (near, nearRest)
      else if form = far.coordinates.form then some (far, farRest) else none := by
  rw [Header.scanForm?_eq, if_neg twofold.start, List.findSome?_cons,
    readBehind?_of_cut twofold.nearWritten twofold.nearCut]
  by_cases atNear : form = near.coordinates.form
  · rw [if_pos atNear, if_pos atNear]
  · rw [if_neg atNear, if_neg atNear, List.findSome?_cons,
      readBehind?_of_cut twofold.farWritten twofold.farCut]
    by_cases atFar : form = far.coordinates.form
    · rw [if_pos atFar]
    · rw [if_neg atFar]
      rfl

theorem Twofold.matches :
    Matches near.coordinates.form line ∧ Matches far.coordinates.form line := by
  constructor
  · rw [Matches, match?_pattern, twofold.scanForm?_eq, if_pos rfl]
    rfl
  · rw [Matches, match?_pattern, twofold.scanForm?_eq, if_neg (Ne.symm twofold.differ), if_pos rfl]
    rfl

/-- A point behind the first colon is read before the coordinates behind the second one. -/
theorem Twofold.scan?_of_point (first : near.coordinates.form = .point) :
    scan? line = some (near, nearRest) := by
  simp [scan?, Coordinates.Form.all, twofold.scanForm?_eq, first]

/-- A region behind the first colon is read after them. -/
theorem Twofold.scan?_of_region (first : near.coordinates.form = .region) :
    scan? line = some (far, farRest) := by
  have differ := twofold.differ
  rw [first] at differ
  cases second : far.coordinates.form with
  | point => simp [scan?, Coordinates.Form.all, twofold.scanForm?_eq, first, second]
  | columns => simp [scan?, Coordinates.Form.all, twofold.scanForm?_eq, first, second]
  | region => exact absurd second.symm differ

/-- Behind a colon in second place, the line and both cuts are given by the coordinates. -/
theorem Twofold.halves (drive : line.tail.head? = some ':') :
    ∃ p, p ≠ '\n' ∧ near.path = [p] ∧ line = p :: (near.coordinates.render ++ nearRest) ∧
      far.path = p :: near.coordinates.halves.1 ∧
      near.coordinates.halves.2 ++ nearRest = far.coordinates.render ++ farRest := by
  obtain ⟨p, t, rfl⟩ : ∃ p t, line = p :: ':' :: t := by
    cases line with
    | nil => cases drive
    | cons p line =>
        cases line with
        | nil => cases drive
        | cons colon t =>
            obtain rfl : colon = ':' := by simpa using drive
            exact ⟨p, t, rfl⟩
  obtain ⟨path, text⟩ : near.path = [p] ∧ ':' :: t = near.coordinates.render ++ nearRest := by
    simpa [cutAtColon, eq_comm] using twofold.nearCut
  have cut := cutAtColon_two_render twofold.nearWritten p nearRest
  rw [← text, twofold.farCut, Prod.mk.injEq] at cut
  refine ⟨p, ?_, path, ?_, cut.1, cut.2.symm⟩
  · simpa using twofold.start
  · rw [text]

/-- What is left of the near coordinates behind their second colon begins the far ones.  So the
near ones are a point or a region. -/
theorem Twofold.ambiguous (drive : line.tail.head? = some ':') :
    near.coordinates.form = .point ∧ Ambiguous line near nearRest ∨
      near.coordinates.form = .region ∧ Ambiguous line far farRest := by
  obtain ⟨p, start, nearPath, text, farPath, shared⟩ := twofold.halves drive
  obtain ⟨path, c⟩ := near
  obtain ⟨path', d⟩ := far
  have differ : c.form ≠ d.form := twofold.differ
  have nearWritten : c.IsWritten := twofold.nearWritten
  have farWritten : d.IsWritten := twofold.farWritten
  dsimp only at nearPath text farPath shared
  have farRead := Coordinates.read?_render farWritten d.form farRest
  rw [if_pos rfl, ← shared] at farRead
  subst nearPath farPath text
  cases c with
  | point line column =>
      obtain ⟨line_, column_⟩ := nearWritten
      have begins : (Coordinates.point line column).halves.2 ++ nearRest =
          ':' :: (column ++ ':' :: nearRest) := by simp [Coordinates.halves]
      cases d with
      | point => exact absurd rfl differ
      | columns again first last =>
          obtain ⟨again_, first_, last_⟩ := farWritten
          have same : column ++ ':' :: nearRest =
              again ++ ':' :: (first ++ '-' :: (last ++ ':' :: farRest)) := by
            simpa [begins, Coordinates.render] using shared
          obtain ⟨-, -, behind⟩ := Text.digits_append_inj column_ again_ rfl rfl same
          have ambiguous : Ambiguous _ _ (first ++ '-' :: last ++ ':' :: farRest) :=
            .point start line_ column_ first_ last_
          rw [behind]
          exact Or.inl ⟨rfl, by simpa [Coordinates.render] using ambiguous⟩
      | region =>
          have noRegion := Coordinates.head?_append_ne column_ (':' :: nearRest) (c := '(') rfl
          rw [begins] at farRead
          simp [Coordinates.form, Coordinates.read?, Coordinates.skip?_eq_none noRegion] at farRead
  | columns line column endColumn =>
      have nothing := Coordinates.read?_eq_none_of_digits nearWritten.2.1
        (t := '-' :: (endColumn ++ ':' :: nearRest)) rfl (by rintro u ⟨⟩) d.form
      simp [Coordinates.halves, nothing] at farRead
  | region line column endLine endColumn =>
      obtain ⟨line_, column_, endLine_, endColumn_⟩ := nearWritten
      have behind : ':' :: nearRest = d.render ++ farRest := shared
      have ambiguous : Ambiguous _ _ farRest :=
        .region start line_ column_ endLine_ endColumn_ farWritten (Ne.symm differ)
      rw [List.append_assoc, ← behind] at ambiguous
      exact Or.inr ⟨rfl, by simpa [Coordinates.render, Coordinates.halves] using ambiguous⟩

end Twofold

/-- In the lines of the two kinds two forms match indeed. -/
theorem Ambiguous.twofold {h : Header} (ambiguous : Ambiguous line h rest) :
    ∃ near far nearRest farRest, Twofold line near far nearRest farRest ∧
      (near.coordinates.form = .point ∧ (near, nearRest) = (h, rest) ∨
        near.coordinates.form = .region ∧ (far, farRest) = (h, rest)) := by
  cases ambiguous with
  | @point p line column first last rest start line_ column_ first_ last_ =>
      have written : (Coordinates.point line column).IsWritten := ⟨line_, column_⟩
      refine ⟨⟨[p], .point line column⟩, ⟨p :: ':' :: line, .columns column first last⟩, _, rest,
        ⟨?_, ?_, written, ⟨column_, first_, last_⟩, ?_, ?_⟩, Or.inl ⟨rfl, rfl⟩⟩
      · simpa using start
      · simp [Coordinates.form]
      · simp [cutAtColon, Coordinates.render]
      · have cut := cutAtColon_two_render written p (first ++ '-' :: last ++ ':' :: rest)
        simpa [Coordinates.render, Coordinates.halves] using cut
  | @region p line column endLine endColumn rest next start line_ column_ endLine_ endColumn_ next_
      other =>
      have written : (Coordinates.region line column endLine endColumn).IsWritten :=
        ⟨line_, column_, endLine_, endColumn_⟩
      obtain ⟨t, colon⟩ : ∃ t, next.render ++ rest = ':' :: t := by cases next <;> exact ⟨_, rfl⟩
      rw [List.append_assoc, colon]
      refine ⟨⟨[p], .region line column endLine endColumn⟩, ⟨_, next⟩, t, rest,
        ⟨?_, Ne.symm other, written, next_, ?_, ?_⟩, Or.inr ⟨rfl, rfl⟩⟩
      · simpa using start
      · simp [cutAtColon, Coordinates.render]
      · have cut := cutAtColon_two_render written p t
        show _ = (_, next.render ++ rest)
        rw [colon]
        simpa [Coordinates.render, Coordinates.halves] using cut

/-! ## The order of the forms -/

/-- **The order of the forms matters only behind a colon in second place.**  On a line without
one at most one pattern matches, so the patterns can be tried in any order: the groups and what
follows the match are those of the header that is scanned.  On a line with one, patterns of two
forms match exactly if the line is of one of the two kinds, and then the header that is scanned
is the one that is told there. -/
theorem order_matters_behind_drive_only (line : Text) :
    (line.tail.head? ≠ some ':' →
      (∀ f g, Matches f line → Matches g line → f = g) ∧
        ∀ order : List Coordinates.Form, (∀ form, form ∈ order) →
          searchIn? order line = (scan? line).map fun found => (found.1.groups, found.2)) ∧
      (line.tail.head? = some ':' →
        ((∃ f g, f ≠ g ∧ Matches f line ∧ Matches g line) ↔ ∃ h rest, Ambiguous line h rest)) ∧
      ∀ h rest, Ambiguous line h rest → scan? line = some (h, rest) := by
  refine ⟨fun noDrive => ?_, fun drive => ⟨?_, ?_⟩, fun h rest ambiguous => ?_⟩
  · have single : ∀ f g, Matches f line → Matches g line → f = g := fun f g =>
      form_eq_of_matches noDrive
    refine ⟨single, fun order all => ?_⟩
    rw [searchIn?_eq_map, findSome?_eq_scan? single all]
  · rintro ⟨f, g, other, first, second⟩
    obtain ⟨near, far, nearRest, farRest, twofold⟩ := twofold_of_matches other first second
    rcases twofold.ambiguous drive with ⟨-, ambiguous⟩ | ⟨-, ambiguous⟩
    · exact ⟨near, nearRest, ambiguous⟩
    · exact ⟨far, farRest, ambiguous⟩
  · rintro ⟨h, rest, ambiguous⟩
    obtain ⟨near, far, nearRest, farRest, twofold, -⟩ := ambiguous.twofold
    exact ⟨_, _, twofold.differ, twofold.matches⟩
  · obtain ⟨near, far, nearRest, farRest, twofold, kind⟩ := ambiguous.twofold
    rcases kind with ⟨point, same⟩ | ⟨region, same⟩
    · rw [← same]
      exact twofold.scan?_of_point point
    · rw [← same]
      exact twofold.scan?_of_region region

/-- A span of columns that is looked for last but one, and a drive letter before what may be a
point or a span of columns. -/
theorem order_matters_behind_drive_only_spans :
    ("A.hs:1:2-3: x".toList.tail.head? ≠ some ':' ∧
      (∀ form, form ∈ [Coordinates.Form.region, .columns, .point]) ∧
      searchIn? [.region, .columns, .point] "A.hs:1:2-3: x".toList =
        (scan? "A.hs:1:2-3: x".toList).map fun found => (found.1.groups, found.2)) ∧
      "C:1:2:3-4: x".toList.tail.head? = some ':' ∧
        Matches .point "C:1:2:3-4: x".toList ∧ Matches .columns "C:1:2:3-4: x".toList ∧
        ∃ h rest, Ambiguous "C:1:2:3-4: x".toList h rest ∧
          scan? "C:1:2:3-4: x".toList = some (h, rest) := by
  have noDrive : "A.hs:1:2-3: x".toList.tail.head? ≠ some ':' := by decide
  have all : ∀ form, form ∈ [Coordinates.Form.region, .columns, .point] := by
    intro form
    cases form <;> decide
  have drive : "C:1:2:3-4: x".toList.tail.head? = some ':' := by decide
  have point : Matches .point "C:1:2:3-4: x".toList := by decide
  have columns : Matches .columns "C:1:2:3-4: x".toList := by decide
  obtain ⟨-, ambiguous, read⟩ := order_matters_behind_drive_only "C:1:2:3-4: x".toList
  obtain ⟨h, rest, kind⟩ := (ambiguous drive).mp ⟨.point, .columns, by decide, point, columns⟩
  exact ⟨⟨noDrive, all, ((order_matters_behind_drive_only _).1 noDrive).2 _ all⟩, drive, point,
    columns, h, rest, kind, read h rest kind⟩

/-- On such a line the order does matter. -/
example : searchIn? [.columns, .point, .region] "C:1:2:3-4: x".toList =
    some ([(.path, "C:1".toList), (.line, ['2']), (.column, ['3']), (.endColumn, ['4'])],
      " x".toList) := by decide

end Header

end CompilerFeedback
