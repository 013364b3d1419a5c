/-
# CompilerFeedback.Proofs.Corpus -- made-up output is read as it was meant

A made-up case lists the paths that a reader must find in its text.  Every case that
can be drawn at all agrees with the reader (`Case.Agrees`), whatever is drawn: the
files of the entries are the listed ones, no message holds a bar or names a context,
and the groups are the files in the order of their first occurrence.

No draw of a case is from an empty range (`sound_oneCase`), so what a seed gives is a
case that can be drawn.
-/
import CompilerFeedback.Proofs.Corpus.Items
import CompilerFeedback.Proofs.Feedback
import CompilerFeedback.Proofs.Group

namespace CompilerFeedback.Corpus

set_option autoImplicit false

open Draw (Yields Sound)

/-! ## Cases -/

/-- Whether a reader in the directory `base` finds in the text of a case what it lists. -/
structure Case.Agrees (base : Text) (case : Case) : Prop where
  files : (Feedback.entries base case.text).map (·.location) = case.files.map (fileIn base)
  quiet : ∀ entry ∈ Feedback.entries base case.text, IsQuiet entry.diagnostic.message
  groups : Group.locations (Feedback.groups base case.text) =
    (case.files.map (fileIn base)).eraseDups

theorem agrees_of_reads (base : Text) {items : List (List Line × List (Option Text))}
    (reads : ∀ item ∈ items, Reads item.1 item.2) {newline : Text}
    (breaks : Text.AllBreaks newline) (feed : '\n' ∈ newline) :
    Case.Agrees base ⟨Text.join newline (items.flatMap (·.1)) ++ newline, items.flatMap (·.2)⟩ := by
  have entries : Feedback.entries base (Text.join newline (items.flatMap (·.1)) ++ newline) =
      items.filterMap fun item => Entry.ofBlock? base (Block.clean item.1) := by
    have separable : ∀ block ∈ items.map (·.1), Block.Separable block := by
      intro block member
      obtain ⟨item, inItems, rfl⟩ := List.mem_map.mp member
      exact (reads item inItems).separable
    rw [List.flatMap_def, Feedback.entries_join base separable breaks feed breaks, List.filterMap_map]
    rfl
  have files : (Feedback.entries base
      (Text.join newline (items.flatMap (·.1)) ++ newline)).map (·.location) =
        (items.flatMap (·.2)).map (fileIn base) := by
    rw [entries, List.filterMap_eq_flatMap_toList, List.map_flatMap, List.map_flatMap]
    exact List.flatMap_congr fun item member => (reads item member).located base
  refine ⟨files, fun entry member => ?_, ?_⟩
  · rw [entries, List.mem_filterMap] at member
    obtain ⟨item, inItems, made⟩ := member
    exact (reads item inItems).quiet base entry made
  · rw [Feedback.groups, Group.locations_aggregate, ← files, Group.locations, List.map_map]
    rfl

theorem oneCase_agrees (base : Text) {case : Case} (drawn : Yields oneCase case) :
    case.Agrees base := by
  simp only [oneCase, Draw.yields_bind_iff, Draw.yields_replicate_iff, Draw.yields_pure_iff] at drawn
  obtain ⟨moduleCount, -, modules, ⟨-, paths⟩, itemCount, -, items, ⟨-, each⟩, windows, -, rfl⟩ := drawn
  have areModules : ∀ path ∈ modules, IsModulePath path := fun path member =>
    modulePath_isModulePath (paths path member)
  apply agrees_of_reads base fun item member => item_reads areModules (each item member)
  · cases windows <;> decide
  · cases windows <;> decide

/-! ## Every draw of a case has something to draw -/

theorem sound_sentence : Sound sentence := by
  simp [sentence, vocabulary]

theorem sound_modulePath : Sound modulePath := by
  simp [modulePath, moduleName, directories]

theorem sound_coordinates (line column : Nat) : Sound (coordinates line column) := by
  rw [coordinates, Draw.sound_fraction_iff]
  intro k _
  split
  · exact Draw.sound_pure _
  · split
    · simp
    · simp

theorem sound_contextLines : Sound contextLines := by
  rw [contextLines, Draw.sound_bind_iff]
  refine ⟨Draw.sound_chance _, fun present _ => ?_⟩
  split
  · simp [sound_sentence]
  · exact Draw.sound_pure _

theorem sound_citation (line : Nat) : Sound (citation line) := by
  rw [citation, Draw.sound_bind_iff]
  refine ⟨Draw.sound_chance _, fun present _ => ?_⟩
  split
  · simp [sound_sentence]
  · exact Draw.sound_pure _

theorem sound_located (path : Text) : Sound (located path) := by
  simp [located, bodyLine, marks, sound_sentence, sound_coordinates, sound_contextLines,
    sound_citation]

theorem sound_item {modules : List Text} (held : modules ≠ []) : Sound (item modules) := by
  rw [item, Draw.sound_fraction_iff]
  intro k _
  split
  · simp [held, sound_located]
  · split
    · simp [unlocated, statusWords, sound_sentence]
    · simp [success, clock]

theorem sound_oneCase : Sound oneCase := by
  rw [oneCase, Draw.sound_bind_iff]
  refine ⟨by simp, fun moduleCount counted => ?_⟩
  rw [Draw.sound_bind_iff]
  refine ⟨Draw.sound_replicate sound_modulePath _, fun modules drawn => ?_⟩
  have held : modules ≠ [] := by
    rintro rfl
    have none := (Draw.yields_replicate_iff.mp drawn).1
    have some := (Draw.yields_between_iff.mp counted).1
    rw [List.length_nil] at none
    omega
  simp [sound_item held]

theorem yields_of_mem_casesFrom {g : MersenneTwister.Generator} {count : Nat} {case : Case}
    (member : case ∈ casesFrom g count) : Yields oneCase case := by
  induction count generalizing g with
  | zero => cases member
  | succ count ih =>
      rcases List.mem_cons.mp member with rfl | later
      · exact Draw.yields_run sound_oneCase g
      · exact ih later

/-! ## Agreement -/

/-- **Made-up output is read as it was meant**: whatever numbers are drawn, and so for every
seed. -/
theorem cases_agree (base : Text) :
    (∀ (count : Nat) (drawn : List Case), Yields (oneCase.replicate count) drawn →
      ∀ case ∈ drawn, case.Agrees base) ∧
      ∀ (seed count : Int), ∀ case ∈ cases seed count, case.Agrees base := by
  constructor
  · intro count drawn yielded case member
    exact oneCase_agrees base ((Draw.yields_replicate_iff.mp yielded).2 case member)
  · intro seed count case member
    exact oneCase_agrees base (yields_of_mem_casesFrom member)

/-- A warning in a text with the line breaks of Windows. -/
def oneWarning : Case :=
  ⟨"src/Ab.hs:3:5-7: warning:\r\n    • unused\r\n".toList, [some "src/Ab.hs".toList]⟩

theorem yields_oneWarning : Yields oneCase oneWarning := by
  have words : Yields sentence "unused".toList := by
    simp only [sentence, Draw.yields_bind_iff, Draw.yields_replicate_iff, Draw.yields_choose_iff,
      Draw.yields_pure_iff]
    exact ⟨1, by simp, ["unused".toList], ⟨rfl, by decide⟩, rfl⟩
  have path : Yields modulePath "src/Ab.hs".toList := by
    simp only [modulePath, moduleName, Draw.yields_bind_iff, Draw.yields_replicate_iff,
      Draw.yields_choose_iff, Draw.yields_pure_iff]
    refine ⟨1, by simp, [['A', 'b']], ⟨rfl, ?_⟩, "src/".toList, by decide, by decide⟩
    rw [List.forall_mem_singleton]
    exact ⟨'A', by decide, 1, by simp, ['b'], ⟨rfl, by simp⟩, rfl⟩
  have place : Yields (coordinates 3 5) ":3:5-7:".toList := by
    rw [coordinates, Draw.yields_fraction_iff]
    refine ⟨4503599627370496, by decide, ?_⟩
    rw [if_neg (by decide), if_pos (by decide)]
    simp only [Draw.yields_bind_iff, Draw.yields_pure_iff]
    exact ⟨2, by simp, by decide⟩
  have message : Yields (located "src/Ab.hs".toList)
      ["src/Ab.hs:3:5-7: warning:".toList, "    • unused".toList] := by
    simp only [located, bodyLine, contextLines, citation, Draw.yields_bind_iff,
      Draw.yields_replicate_iff, Draw.yields_choose_iff, Draw.yields_pure_iff,
      Draw.yields_chance_iff]
    refine ⟨3, by simp, 5, by simp, _, place, " warning:".toList, by decide, 1, by simp,
      ["    • unused".toList], ⟨rfl, ?_⟩, [], ?_, [], ?_, by decide⟩
    · rw [List.forall_mem_singleton]
      exact ⟨"• ".toList, by decide, _, words, by decide⟩
    · exact ⟨false, by decide, .done []⟩
    · exact ⟨false, by decide, .done []⟩
  have only : Yields (item ["src/Ab.hs".toList])
      (["src/Ab.hs:3:5-7: warning:".toList, "    • unused".toList], [some "src/Ab.hs".toList]) := by
    rw [item, Draw.yields_fraction_iff]
    refine ⟨0, by decide, ?_⟩
    rw [if_pos (by decide)]
    simp only [Draw.yields_bind_iff, Draw.yields_choose_iff, Draw.yields_pure_iff]
    exact ⟨_, List.mem_singleton_self _, _, message, rfl⟩
  simp only [oneCase, Draw.yields_bind_iff, Draw.yields_replicate_iff, Draw.yields_pure_iff,
    Draw.yields_chance_iff]
  refine ⟨1, by simp, ["src/Ab.hs".toList], ⟨rfl, by simpa using path⟩, 1, by simp, [_],
    ⟨rfl, by simpa using only⟩, true, by decide, by decide⟩

theorem cases_agree_oneWarning :
    Yields (oneCase.replicate 1) [oneWarning] ∧ oneWarning.Agrees "/w".toList ∧
      (oneCase.run (.ofSeed 7)).1 ∈ cases 7 1 ∧ (oneCase.run (.ofSeed 7)).1.Agrees "/w".toList :=
  have drawn : Yields (oneCase.replicate 1) [oneWarning] :=
    Draw.yields_replicate_iff.mpr ⟨rfl, by simpa using yields_oneWarning⟩
  have seeded : (oneCase.run (.ofSeed 7)).1 ∈ cases 7 1 := by
    rw [cases, Int.toNat_one, casesFrom]
    exact List.mem_cons_self
  ⟨drawn, (cases_agree _).1 1 [oneWarning] drawn _ List.mem_cons_self, seeded,
    (cases_agree _).2 7 1 _ seeded⟩

end CompilerFeedback.Corpus
