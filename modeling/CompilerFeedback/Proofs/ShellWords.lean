/-
# CompilerFeedback.Proofs.ShellWords -- quoted words are read back

A word can be quoted in two ways.  Between double quotes a backslash stands before every
backslash and every double quote.  Between single quotes nothing can be escaped: for a single
quote of the word the quotes are closed, the mark follows between double quotes, and the quotes
are opened again.  Either way the piece is read as the word, and what stands directly behind it
goes on with the same word (`read_quote`); a gap ends the word (`split_quote_gap`).  So quoted
words with gaps between them are read back one by one (`split_of_spells`), whatever the words
hold, and the feedback tool gets them as they are (`Invocation.feedback_keeps_words`).

* `Pass.run_eq_split`: the words can be collected in one pass from the left, with a state for
  each kind of surroundings.
-/
import CompilerFeedback.Invocation

namespace CompilerFeedback

set_option autoImplicit false

namespace ShellWords

/-! ## Words that are put together -/

namespace Words

@[simp] theorem glue_glue (a b : Text) (w : Words) : (w.glue b).glue a = w.glue (a ++ b) := by
  simp [glue]

@[simp] theorem separate_separate (w : Words) : w.separate.separate = w.separate := rfl

theorem toList_glue_separate (word : Text) (w : Words) :
    (w.separate.glue word).toList = word :: w.toList := by
  simp [toList, glue, separate]

end Words

/-- What is done to the words of a rest one after the other is done at once. -/
theorem map_map {α β γ : Type} (f : α → β) (g : β → γ) (result : Except Fault α) :
    (result.map f).map g = result.map (g ∘ f) := by
  cases result <;> rfl

theorem map_glue_glue (a b : Text) (result : Except Fault Words) :
    (result.map (Words.glue b)).map (Words.glue a) = result.map (Words.glue (a ++ b)) := by
  rw [map_map]
  congr 1
  funext w
  exact Words.glue_glue a b w

/-! ## Quoted words -/

/-- The two kinds of quotes. -/
inductive Quotes where
  | single
  | double
  deriving DecidableEq, Repr

namespace Quotes

/-- The mark before and behind the word. -/
def mark : Quotes → Char
  | single => '\''
  | double => '"'

/-- How a character of the word is written between the quotes. -/
def write : Quotes → Char → Text
  | single, c => if c = '\'' then ['\'', '"', '\'', '"', '\''] else [c]
  | double, c => if c = '\\' ∨ c = '"' then ['\\', c] else [c]

/-- A word between quotes. -/
def quote (quotes : Quotes) (word : Text) : Text :=
  quotes.mark :: (word.flatMap quotes.write ++ [quotes.mark])

/-- What surrounds the characters between the quotes. -/
def mode : Quotes → Mode
  | single => .single
  | double => .double

variable (quotes : Quotes)

theorem read_open (rest : Text) :
    read .plain (quotes.mark :: rest) = (read quotes.mode rest).map (.glue []) := by
  cases quotes <;> simp [read, mark, mode, isSeparator]

theorem read_close (rest : Text) :
    read quotes.mode (quotes.mark :: rest) = (read .plain rest).map (.glue []) := by
  cases quotes <;> simp [read, mark, mode]

/-- A character is read back from the way it is written. -/
theorem read_write (c : Char) (rest : Text) :
    read quotes.mode (quotes.write c ++ rest) = (read quotes.mode rest).map (.glue [c]) := by
  cases quotes with
  | single =>
      by_cases own : c = '\''
      · simp [read, write, mode, isSeparator, own, map_glue_glue]
      · simp [read, write, mode, own]
  | double =>
      by_cases escaped : c = '\\' ∨ c = '"'
      · rcases escaped with rfl | rfl <;> simp [read, write, mode]
      · rw [not_or] at escaped
        simp [read, write, mode, escaped]

theorem read_written (word rest : Text) :
    read quotes.mode (word.flatMap quotes.write ++ quotes.mark :: rest) =
      (read .plain rest).map (.glue word) := by
  induction word with
  | nil => exact quotes.read_close rest
  | cons c word ih =>
      rw [List.flatMap_cons, List.append_assoc, quotes.read_write, ih, map_glue_glue]
      rfl

/-- **A quoted word is read back**, whatever it holds; what stands directly behind it goes on
with the same word. -/
theorem read_quote (word rest : Text) :
    read .plain (quotes.quote word ++ rest) = (read .plain rest).map (.glue word) := by
  have shape : quotes.quote word ++ rest =
      quotes.mark :: (word.flatMap quotes.write ++ quotes.mark :: rest) := by simp [quote]
  rw [shape, quotes.read_open, quotes.read_written, map_glue_glue]
  rfl

end Quotes

/-! ## Gaps -/

/-- Whether a text can stand between two words: separators, at least one. -/
def IsGap (gap : Text) : Prop := gap ≠ [] ∧ ∀ c ∈ gap, isSeparator c

theorem read_gap {gap : Text} (between : IsGap gap) (rest : Text) :
    read .plain (gap ++ rest) = (read .plain rest).map .separate := by
  obtain ⟨held, separators⟩ := between
  induction gap with
  | nil => exact absurd rfl held
  | cons c gap ih =>
      rw [List.forall_mem_cons] at separators
      rw [List.cons_append, read, if_pos separators.1]
      by_cases last : gap = []
      · rw [last, List.nil_append]
      · rw [ih last separators.2, map_map]
        rfl

/-- A quoted word before a gap is the first word; the words behind the gap, or what is wrong
there, stay as they are. -/
theorem split_quote_gap (quotes : Quotes) (word : Text) {gap : Text} (between : IsGap gap)
    (rest : Text) :
    split (quotes.quote word ++ (gap ++ rest)) = (split rest).map (word :: ·) := by
  rw [split, quotes.read_quote, read_gap between, map_map, map_map, split, map_map]
  congr 1
  funext w
  exact w.toList_glue_separate word

/-! ## Command lines of quoted words -/

/-- Whether a command line is made of some words in their order, each of them quoted in one of
the two ways, with a gap between every two neighbours. -/
inductive Spells : Text → List Text → Prop where
  | none : Spells [] []
  | last (quotes : Quotes) (word : Text) : Spells (quotes.quote word) [word]
  | next (quotes : Quotes) (word : Text) {gap line : Text} {words : List Text}
      (between : IsGap gap) (later : Spells line words) :
      Spells (quotes.quote word ++ (gap ++ line)) (word :: words)

/-- A command line of quoted words has those words. -/
theorem split_of_spells {line : Text} {words : List Text} (spells : Spells line words) :
    split line = .ok words := by
  induction spells with
  | none => rfl
  | last quotes word =>
      rw [split, ← List.append_nil (quotes.quote word), quotes.read_quote, map_map]
      simp [read, Except.map, Words.toList, Words.glue]
  | next quotes word between later ih =>
      rw [split_quote_gap quotes word between, ih]
      rfl

/-! ## One pass from the left -/

/-- How far a command line has been read. -/
structure Pass where
  mode : Mode
  finished : List Text
  /-- The word at hand, if there is one. -/
  current : Option Text
  deriving DecidableEq, Repr

namespace Pass

/-- A pass before the first character. -/
def start : Pass := ⟨.plain, [], none⟩

/-- More of the word at hand, and what surrounds the next character. -/
def add (s : Pass) (mode : Mode) (more : Text) : Pass :=
  ⟨mode, s.finished, some (s.current.getD [] ++ more)⟩

/-- One character more. -/
def take (s : Pass) (c : Char) : Pass :=
  match s.mode with
  | .plain =>
      if isSeparator c then ⟨.plain, s.finished ++ s.current.toList, none⟩
      else if c = '\'' then s.add .single []
      else if c = '"' then s.add .double []
      else if c = '\\' then { s with mode := .escaped }
      else s.add .plain [c]
  | .single => if c = '\'' then s.add .plain [] else s.add .single [c]
  | .double =>
      if c = '"' then s.add .plain []
      else if c = '\\' then { s with mode := .escapedInDouble }
      else s.add .double [c]
  | .escaped => s.add .plain [c]
  | .escapedInDouble => s.add .double (if c = '"' ∨ c = '\\' then [c] else ['\\', c])

/-- The words at the end of the line. -/
def finish (s : Pass) : Except Fault (List Text) :=
  match s.mode with
  | .plain => .ok (s.finished ++ s.current.toList)
  | .single | .double => .error .openQuote
  | .escaped | .escapedInDouble => .error .openEscape

/-- The words of a command line, collected in one pass. -/
def run (line : Text) : Except Fault (List Text) := (line.foldl take start).finish

/-- The words that were read, and those of the rest of the line. -/
def join (s : Pass) (rest : Words) : List Text :=
  s.finished ++ (match s.current with
    | none => rest.toList
    | some text => (rest.glue text).toList)

theorem join_add (s : Pass) (mode : Mode) (more : Text) (rest : Words) :
    (s.add mode more).join rest = s.join (rest.glue more) := by
  cases current : s.current <;> simp [join, add, current]

theorem join_separate (s : Pass) (rest : Words) :
    join ⟨.plain, s.finished ++ s.current.toList, none⟩ rest = s.join rest.separate := by
  cases current : s.current <;> simp [join, current, Words.toList, Words.glue, Words.separate]

/-- More of the word at hand is more before the first word that is read. -/
theorem map_join_add (s : Pass) (mode : Mode) (more rest : Text) :
    (read (s.add mode more).mode rest).map (s.add mode more).join =
      ((read mode rest).map (.glue more)).map s.join := by
  rw [map_map]
  congr 1
  funext w
  exact s.join_add mode more w

/-- One character more moves it from what is left to read into the pass. -/
theorem map_join_take (s : Pass) (c : Char) (rest : Text) :
    (read (s.take c).mode rest).map (s.take c).join = (read s.mode (c :: rest)).map s.join := by
  have added := s.map_join_add
  obtain ⟨mode, finished, current⟩ := s
  cases mode with
  | plain =>
      simp only [take, read]
      split
      · rw [map_map]
        congr 1
        funext w
        exact join_separate ⟨.plain, finished, current⟩ w
      · split
        · exact added .single [] rest
        · split
          · exact added .double [] rest
          · split
            · rfl
            · exact added .plain [c] rest
  | single =>
      simp only [take, read]
      split
      · exact added .plain [] rest
      · exact added .single [c] rest
  | double =>
      simp only [take, read]
      split
      · exact added .plain [] rest
      · split
        · rfl
        · exact added .double [c] rest
  | escaped => exact added .plain [c] rest
  | escapedInDouble => exact added .double _ rest

/-- What a pass finds in the rest of a line is what is read there. -/
theorem finish_foldl (s : Pass) (rest : Text) :
    (rest.foldl take s).finish = (read s.mode rest).map s.join := by
  induction rest generalizing s with
  | nil =>
      obtain ⟨mode, finished, current⟩ := s
      cases mode <;> cases current <;>
        simp [finish, read, Except.map, join, Words.toList, Words.glue]
  | cons c rest ih => rw [List.foldl_cons, ih, map_join_take]

/-- **One pass from the left reads the same words**, and finds the same faults. -/
theorem run_eq_split (line : Text) : run line = split line := by
  rw [run, finish_foldl]
  rfl

end Pass

end ShellWords

/-! ## The feedback tool -/

namespace Invocation

/-- **The feedback tool gets the words as they are.**  Where a command is made of quoted words,
whatever characters the words hold, the arguments are those words and the one that names the
output file; it makes no difference whether the command is given or is that of the settings.
The words are also what one pass over the command collects. -/
theorem feedback_keeps_words {command : Text} {words : List Text}
    (spells : ShellWords.Spells command words) (settings : Settings) (outputPath : Text) :
    feedback settings (some command) .posix outputPath =
        .ok (words ++ ["--outputfile=".toList ++ outputPath]) ∧
      feedback { settings with command := command } none .posix outputPath =
        .ok (words ++ ["--outputfile=".toList ++ outputPath]) ∧
      ShellWords.Pass.run command = .ok words := by
  have words_ := ShellWords.split_of_spells spells
  have arguments_ : arguments .posix command outputPath =
      .ok (words ++ ["--outputfile=".toList ++ outputPath]) := by
    rw [arguments, words_]
    rfl
  exact ⟨arguments_, arguments_, (ShellWords.Pass.run_eq_split command).trans words_⟩

/-- An empty word, the marks of both kinds of quotes, and a backslash before a line feed. -/
theorem feedback_keeps_words_quoted :
    ShellWords.Spells "'' \t'it'\"'\"'s \"x\"'\r\n\"\\\\\n it's \\\"\"".toList
        [[], "it's \"x\"".toList, "\\\n it's \"".toList] ∧
      feedback .standard
          (some "'' \t'it'\"'\"'s \"x\"'\r\n\"\\\\\n it's \\\"\"".toList) .posix "/o".toList =
        .ok ([[], "it's \"x\"".toList, "\\\n it's \"".toList] ++
          ["--outputfile=".toList ++ "/o".toList]) :=
  have first : ShellWords.IsGap " \t".toList := by
    unfold ShellWords.IsGap
    simp
    decide
  have second : ShellWords.IsGap "\r\n".toList := by
    unfold ShellWords.IsGap
    simp
    decide
  have spells := ShellWords.Spells.next .single [] first
    (.next .single "it's \"x\"".toList second (.last .double "\\\n it's \"".toList))
  ⟨spells, (feedback_keeps_words spells .standard "/o".toList).1⟩

end Invocation

end CompilerFeedback
