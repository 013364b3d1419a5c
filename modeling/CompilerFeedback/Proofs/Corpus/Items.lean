/-
# CompilerFeedback.Proofs.Corpus.Items -- a made-up item is one message

The lines of one item are one message, and a reader finds in it the path that the item
lists, or none (`Reads`).  That its parts cannot be mistaken rests on the characters
that they are made of: message text (`isProse`) has no character that the reader looks
for, a path (`isPathCharacter`) none that ends it.

There are three kinds of items, each put together from parts that the lemmas
`reads_render`, `reads_status` and `reads_success` ask for; the rest takes the programs
apart that draw them.
-/
import CompilerFeedback.Corpus
import CompilerFeedback.Proofs.Draw
import CompilerFeedback.Proofs.Entry

namespace CompilerFeedback.Corpus

set_option autoImplicit false

open Draw (Yields)

/-! ## The characters of the parts -/

/-- Whether message text may hold a character. -/
def isProse (c : Char) : Bool := !(['\n', '\r', '|', ':', 'I'].contains c)

/-- Whether a module path may hold a character. -/
def isPathCharacter (c : Char) : Bool := !Text.isBlank c && c != '|' && c != ':'

/-- Whether a time of day may hold a character. -/
def isClockCharacter (c : Char) : Bool := c.isDigit || c == ':'

theorem sentence_prose {t : Text} (drawn : Yields sentence t) : t.all isProse := by
  simp only [sentence, Draw.yields_bind_iff, Draw.yields_replicate_iff, Draw.yields_choose_iff,
    Draw.yields_pure_iff] at drawn
  obtain ⟨count, -, words, ⟨-, each⟩, rfl⟩ := drawn
  have known : ∀ word ∈ vocabulary, word.all isProse := by decide
  exact Text.all_join (by decide) fun word member => known word (each word member)

/-- Whether a path can stand before coordinates. -/
def IsModulePath (path : Text) : Prop := path ≠ [] ∧ path.all isPathCharacter

theorem moduleName_path {name : Text} (drawn : Yields moduleName name) :
    name.all isPathCharacter := by
  simp only [moduleName, Draw.yields_bind_iff, Draw.yields_replicate_iff, Draw.yields_choose_iff,
    Draw.yields_pure_iff] at drawn
  obtain ⟨capital, isCapital, count, -, letters, ⟨-, areLetters⟩, rfl⟩ := drawn
  have capitals : "ABCDEFGHIJKLMNOPQRSTUVWXYZ".toList.all isPathCharacter := by decide
  have smalls : "abcdefghijklmnopqrstuvwxyz".toList.all isPathCharacter := by decide
  rw [List.all_eq_true] at capitals smalls ⊢
  rw [List.forall_mem_cons]
  exact ⟨capitals capital isCapital, fun c member => smalls c (areLetters c member)⟩

theorem modulePath_isModulePath {path : Text} (drawn : Yields modulePath path) :
    IsModulePath path := by
  simp only [modulePath, Draw.yields_bind_iff, Draw.yields_replicate_iff, Draw.yields_choose_iff,
    Draw.yields_pure_iff] at drawn
  obtain ⟨count, -, names, ⟨-, each⟩, directory, known, rfl⟩ := drawn
  have plain : ∀ d ∈ directories, d.all isPathCharacter := by decide
  have joined : (Text.join ['/'] names).all isPathCharacter :=
    Text.all_join (by decide) fun name member => moduleName_path (each name member)
  refine ⟨by simp, ?_⟩
  rw [List.all_append, List.all_append, plain directory known, joined]
  decide

theorem coordinates_written {line column : Nat} {t : Text}
    (drawn : Yields (coordinates line column) t) :
    ∃ c : Coordinates, c.IsWritten ∧ t = c.render := by
  rw [coordinates, Draw.yields_fraction_iff] at drawn
  obtain ⟨k, -, drawn⟩ := drawn
  split at drawn
  · rw [Draw.yields_pure_iff] at drawn
    exact ⟨.point (Text.ofNat line) (Text.ofNat column),
      ⟨Text.isDigits_ofNat _, Text.isDigits_ofNat _⟩, drawn⟩
  · split at drawn
    · simp only [Draw.yields_bind_iff, Draw.yields_pure_iff] at drawn
      obtain ⟨width, -, rfl⟩ := drawn
      exact ⟨.columns (Text.ofNat line) (Text.ofNat column) (Text.ofNat (column + width)),
        ⟨Text.isDigits_ofNat _, Text.isDigits_ofNat _, Text.isDigits_ofNat _⟩, rfl⟩
    · simp only [Draw.yields_bind_iff, Draw.yields_pure_iff] at drawn
      obtain ⟨height, -, endColumn, -, rfl⟩ := drawn
      exact ⟨.region (Text.ofNat line) (Text.ofNat column) (Text.ofNat (line + height))
        (Text.ofNat endColumn), ⟨Text.isDigits_ofNat _, Text.isDigits_ofNat _,
          Text.isDigits_ofNat _, Text.isDigits_ofNat _⟩, rfl⟩

/-! ## What follows the message text -/

/-- Whether lines are indented message text. -/
def IsBody (body : List Line) : Prop :=
  ∀ line ∈ body, line.head?.any Text.isBlank ∧ line.all isProse

theorem IsBody.follow {body : List Line} (isBody : IsBody body) : Block.Follow body := by
  intro line member
  obtain ⟨indented, prose⟩ := isBody line member
  exact ⟨Text.unbroken_of_all prose rfl rfl, Line.isContinuation_of_blank indented⟩

theorem IsBody.quiet {body : List Line} (isBody : IsBody body) :
    ∀ line ∈ body, Line.isNoise line = false := by
  intro line member
  have prose := (isBody line member).2
  apply Line.not_isNoise_of_not_mem
  · rw [Line.isContext, Bool.eq_false_iff, ne_eq, Text.hasPart_iff]
    intro part
    have capital : 'I' ∈ line := part.subset (by decide)
    exact Text.not_mem_of_all prose rfl capital
  · exact Text.not_mem_of_all prose rfl

theorem bodyLine_indented {line : Line} (drawn : Yields bodyLine line) :
    line.head?.any Text.isBlank ∧ line.all isProse := by
  simp only [bodyLine, Draw.yields_bind_iff, Draw.yields_choose_iff, Draw.yields_pure_iff] at drawn
  obtain ⟨bullet, known, words, prose, rfl⟩ := drawn
  have plain : ∀ b ∈ ["".toList, "• ".toList], b.all isProse := by decide
  refine ⟨rfl, ?_⟩
  rw [List.all_append, List.all_append, plain bullet known, sentence_prose prose]
  decide

/-- Whether lines are left out by a reader, and belong to the message before them. -/
structure IsEcho (tail : List Line) : Prop where
  noise : tail.head?.all Line.isNoise
  follow : Block.Follow tail

theorem isEcho_nil : IsEcho [] := ⟨rfl, by simp [Block.Follow]⟩

theorem IsEcho.append {a b : List Line} (first : IsEcho a) (second : IsEcho b) : IsEcho (a ++ b) := by
  refine ⟨?_, first.follow.append second.follow⟩
  cases a with
  | nil => exact second.noise
  | cons line a => exact first.noise

theorem contextLines_echo {tail : List Line} (drawn : Yields contextLines tail) : IsEcho tail := by
  simp only [contextLines, Draw.yields_bind_iff] at drawn
  obtain ⟨chance, -, drawn⟩ := drawn
  split at drawn
  · simp only [Draw.yields_bind_iff, Draw.yields_pure_iff] at drawn
    obtain ⟨words, prose, rfl⟩ := drawn
    have context : Line.isContext ("    • In the expression: ".toList ++ words) := by
      rw [Line.isContext, Text.hasPart_iff]
      have named : Line.contextMarker <:+: "    • In the expression: ".toList :=
        ⟨"    • ".toList, " expression: ".toList, by decide⟩
      exact List.infix_append_of_infix_left named
    have unbroken : Text.Unbroken ("    • In the expression: ".toList ++ words) :=
      Text.unbroken_append.mpr ⟨by decide, Text.unbroken_of_all (sentence_prose prose) rfl rfl⟩
    have noise : Line.isNoise ("    • In the expression: ".toList ++ words) := by
      simp only [Line.isNoise, context, Bool.true_or]
    refine ⟨by rw [List.head?_cons, Option.all_some, noise], fun line member => ?_⟩
    obtain rfl := List.mem_singleton.mp member
    exact ⟨unbroken, Line.isContinuation_of_blank rfl⟩
  · rw [Draw.yields_pure_iff] at drawn
    exact drawn ▸ isEcho_nil

theorem citation_echo {line : Nat} {tail : List Line} (drawn : Yields (citation line) tail) :
    IsEcho tail := by
  simp only [citation, Draw.yields_bind_iff] at drawn
  obtain ⟨chance, -, drawn⟩ := drawn
  split at drawn
  · simp only [Draw.yields_bind_iff, Draw.yields_pure_iff] at drawn
    obtain ⟨words, prose, rfl⟩ := drawn
    have digits := Text.isDigits_ofNat line
    have cited : Line.isContinuation (Text.ofNat line ++ " | ".toList ++ words) := by
      have blank : ∀ c ∈ [' '], Text.isBlank c := List.forall_mem_singleton.mpr rfl
      have numbered := Line.isContinuation_of_citation digits blank (' ' :: words)
      have bar : " | ".toList = [' ', '|', ' '] := by decide
      rw [bar]
      simpa using numbered
    have unbroken : Text.Unbroken (Text.ofNat line ++ " | ".toList ++ words) := by
      simp only [Text.unbroken_append]
      exact ⟨⟨Text.unbroken_of_all (List.all_eq_true.mpr digits.2) rfl rfl, by decide⟩,
        Text.unbroken_of_all (sentence_prose prose) rfl rfl⟩
    have divider : Line.isNoise "  |".toList := by decide
    refine ⟨by rw [List.head?_cons, Option.all_some, divider], ?_⟩
    simp only [Block.Follow, List.forall_mem_cons]
    exact ⟨by decide, ⟨unbroken, cited⟩, by decide, by simp⟩
  · rw [Draw.yields_pure_iff] at drawn
    exact drawn ▸ isEcho_nil

/-! ## Items -/

/-- The path that a reader in the directory `base` files a message under: the directory
itself for a message without header. -/
def fileIn (base : Text) : Option Text → Text
  | none => base
  | some raw => Path.resolve base raw

/-- Whether a message shows nothing of what the compiler echoes. -/
def IsQuiet (message : Text) : Prop := ¬ Line.contextMarker <:+: message ∧ '|' ∉ message

theorem isQuiet_of_not_mem {message : Text} (noCapital : 'I' ∉ message) (noBar : '|' ∉ message) :
    IsQuiet message :=
  ⟨fun part => noCapital (part.subset (by decide)), noBar⟩

/-- The only capital may stand in the first place, if the message starts otherwise. -/
theorem isQuiet_cons {c : Char} {rest : Text} (starts : ¬ Line.contextMarker <+: c :: rest)
    (noCapital : 'I' ∉ rest) (noBar : '|' ∉ c :: rest) : IsQuiet (c :: rest) := by
  refine ⟨?_, noBar⟩
  rw [List.infix_cons_iff]
  rintro (first | later)
  · exact starts first
  · exact noCapital (later.subset (by decide))

/-- Whether some lines are one message in which a reader finds the given paths, at most
one, and nothing that should have been left out. -/
structure Reads (lines : Block) (files : List (Option Text)) : Prop where
  separable : Block.Separable lines
  located : ∀ base, (Entry.ofBlock? base (Block.clean lines)).toList.map (·.location) =
    files.map (fileIn base)
  quiet : ∀ base entry, Entry.ofBlock? base (Block.clean lines) = some entry →
    IsQuiet entry.diagnostic.message

/-- Module paths, with any coordinates behind them, open a message. -/
theorem IsModulePath.opensMessage {path : Text} (isPath : IsModulePath path) {c : Coordinates}
    (written : c.IsWritten) : (Header.mk path c).OpensMessage where
  written := written
  held := isPath.1
  start := by
    cases path with
    | nil => rfl
    | cons first rest =>
        have known : isPathCharacter first := List.all_eq_true.mp isPath.2 _ List.mem_cons_self
        simp only [isPathCharacter, Bool.and_eq_true, Bool.not_eq_true'] at known
        exact known.1.1
  noBar := Text.not_mem_of_all isPath.2 rfl
  colons := Or.inl (Text.not_mem_of_all isPath.2 rfl)
  noSuccess := by
    rw [Text.startsWith_eq_false_iff]
    intro marked
    have space : ' ' ∈ path := marked.subset (by decide)
    exact Text.not_mem_of_all isPath.2 rfl space

/-- Neither the mark nor the body of a message shows anything of what is echoed. -/
theorem isQuiet_located (base : Text) (header : Header) {mark : Text} (noCapital : 'I' ∉ mark)
    (noBar : '|' ∉ mark) {body : List Line} (isBody : IsBody body) :
    IsQuiet (Entry.located base header mark body).diagnostic.message := by
  obtain ⟨count, -, message⟩ := Entry.message_located base header mark body
  have out : ∀ c, c ∉ mark → isProse c = false → ∀ line ∈
      Entry.messageLines (Entry.contribution mark) (body.map (·.drop count)), c ∉ line := by
    intro c noMark noProse line inLines inLine
    rcases Entry.mem_messageLines inLines with rfl | inBody
    · exact noMark (Entry.mem_of_mem_contribution inLine)
    · obtain ⟨whole, held, rfl⟩ := List.mem_map.mp inBody
      exact Text.not_mem_of_all (isBody whole held).2 noProse (List.mem_of_mem_drop inLine)
  rw [message]
  apply isQuiet_of_not_mem
  · exact Text.not_mem_unlines (by decide) (out 'I' noCapital rfl)
  · exact Text.not_mem_unlines (by decide) (out '|' noBar rfl)

/-- A message about a path, put together from parts that cannot be mistaken. -/
theorem reads_render {path : Text} (isPath : IsModulePath path) {c : Coordinates}
    (written : c.IsWritten) {mark : Text} (known : mark ∈ marks) {body tail : List Line}
    (isBody : IsBody body) (isEcho : IsEcho tail) :
    Reads (((Header.mk path c).render ++ mark) :: (body ++ tail)) [some path] := by
  have plain : ∀ m ∈ marks, m.head?.all Text.isBlank ∧ Text.Unbroken m ∧ 'I' ∉ m ∧ '|' ∉ m := by
    decide
  obtain ⟨ends, markUnbroken, noCapital, noBar⟩ := plain mark known
  have opens := isPath.opensMessage written
  have unbroken : Text.Unbroken ((Header.mk path c).render ++ mark) := by
    simp only [Header.render, Text.unbroken_append]
    exact ⟨⟨Text.unbroken_of_all isPath.2 rfl rfl, Coordinates.unbroken_render written⟩, markUnbroken⟩
  have made := fun base => Entry.ofBlock?_clean_render base opens ends isBody.quiet isEcho.noise
  refine ⟨Block.separable_cons unbroken (opens.ne_nil mark) (opens.not_isContinuation mark)
    (isBody.follow.append isEcho.follow), fun base => ?_, fun base entry found => ?_⟩
  · rw [made]
    rfl
  · rw [made, Option.some.injEq] at found
    exact found ▸ isQuiet_located base ⟨path, c⟩ noCapital noBar isBody

theorem located_reads {path : Text} (isPath : IsModulePath path) {lines : List Line}
    (drawn : Yields (located path) lines) : Reads lines [some path] := by
  simp only [located, Draw.yields_bind_iff, Draw.yields_replicate_iff, Draw.yields_choose_iff,
    Draw.yields_pure_iff] at drawn
  obtain ⟨line, -, column, -, place, placed, mark, known, count, -, body, ⟨-, each⟩, context, named,
    cited, sources, rfl⟩ := drawn
  obtain ⟨c, written, rfl⟩ := coordinates_written placed
  have shape : (path ++ c.render ++ mark) :: body ++ context ++ cited =
      ((Header.mk path c).render ++ mark) :: (body ++ (context ++ cited)) := by
    simp [Header.render]
  rw [shape]
  exact reads_render isPath written known (fun l member => bodyLine_indented (each l member))
    ((contextLines_echo named).append (citation_echo sources))

/-- The words that begin a message without location neither open a report of success nor
name a context. -/
theorem statusWords_plain : ∀ word ∈ statusWords,
    Text.Unbroken word ∧ word.head?.any Text.isBlank = false ∧ '|' ∉ word ∧ ':' ∉ word ∧
      'I' ∉ word.tail ∧ ∀ marker ∈ [Opening.successMarker, Line.contextMarker],
        ¬ marker <+: word ∧ ¬ word <+: marker := by
  decide

theorem not_prefix_append {marker word : List Char} (apart : ¬ marker <+: word ∧ ¬ word <+: marker)
    (rest : List Char) : ¬ marker <+: word ++ rest := fun marked =>
  (List.prefix_or_prefix_of_prefix marked (List.prefix_append word rest)).elim apart.1 apart.2

/-- Behind a status word, message text and a body show nothing of what is echoed. -/
theorem isQuiet_unlocated {word : Text} (known : word ∈ statusWords) {text : Text}
    (prose : text.all isProse) {body : List Line} (isBody : IsBody body) :
    IsQuiet (Text.unlines ((word ++ text) :: body)) := by
  obtain ⟨-, -, noBar, -, noCapital, apart⟩ := statusWords_plain word known
  have starts := not_prefix_append (apart Line.contextMarker (by simp))
  have out : ∀ c, isProse c = false → ∀ line ∈ text :: body, c ∉ line := by
    intro c noProse
    rw [List.forall_mem_cons]
    exact ⟨Text.not_mem_of_all prose noProse, fun line member =>
      Text.not_mem_of_all (isBody line member).2 noProse⟩
  have laterNoCapital := Text.not_mem_unlines (by decide) (out 'I' rfl)
  have laterNoBar := Text.not_mem_unlines (by decide) (out '|' rfl)
  rw [Text.unlines_append_cons]
  cases word with
  | nil => exact isQuiet_of_not_mem laterNoCapital laterNoBar
  | cons first word =>
      refine isQuiet_cons (starts _) ?_ ?_
      · exact fun member => (List.mem_append.mp member).elim noCapital laterNoCapital
      · exact fun member => (List.mem_append.mp member).elim noBar laterNoBar

/-- A message without header: a word that a reader expects nothing of, and message text. -/
theorem reads_status {word : Text} (known : word ∈ statusWords) {text : Text}
    (prose : text.all isProse) {body : List Line} (isBody : IsBody body) :
    Reads ((word ++ text) :: body) [none] := by
  obtain ⟨unbroken, start, noBar, noColon, -, apart⟩ := statusWords_plain word known
  have held : word ≠ [] := by
    rintro rfl
    exact (apart Opening.successMarker (by simp)).2 List.nil_prefix
  have opening : (word ++ text).head?.any Text.isBlank = false := by
    rw [List.head?_append_of_ne_nil _ held]
    exact start
  have out : ∀ c, isProse c = false → c ∉ word → c ∉ word ++ text := by
    intro c noProse noWord member
    exact (List.mem_append.mp member).elim noWord (Text.not_mem_of_all prose noProse)
  have noSuccess : Text.startsWith Opening.successMarker (word ++ text) = false :=
    Text.startsWith_eq_false_iff.mpr (not_prefix_append (apart _ (by simp)) text)
  have whole : Text.Unbroken (word ++ text) :=
    Text.unbroken_append.mpr ⟨unbroken, Text.unbroken_of_all prose rfl rfl⟩
  have lineHeld : word ++ text ≠ [] := by simp [held]
  have made : ∀ base, Entry.ofBlock? base (Block.clean ((word ++ text) :: body)) =
      some (Entry.unlocated base ((word ++ text) :: body)) := by
    intro base
    have noTail : ([] : Block).head?.all Line.isNoise := rfl
    have clean := Block.clean_cons_append (word ++ text) isBody.quiet noTail
    rw [List.append_nil] at clean
    rw [clean, Entry.ofBlock?_cons base lineHeld opening,
      Opening.ofLine_of_no_colon noSuccess (out ':' rfl noColon)]
  have opens := Line.not_isContinuation_of_no_bar opening (out '|' rfl noBar)
  refine ⟨Block.separable_cons whole lineHeld opens isBody.follow, fun base => ?_,
    fun base entry found => ?_⟩
  · rw [made]
    rfl
  · rw [made, Option.some.injEq] at found
    exact found ▸ isQuiet_unlocated known prose isBody

theorem unlocated_reads {lines : List Line} (drawn : Yields unlocated lines) :
    Reads lines [none] := by
  simp only [unlocated, Draw.yields_bind_iff, Draw.yields_replicate_iff, Draw.yields_choose_iff,
    Draw.yields_pure_iff] at drawn
  obtain ⟨status, known, words, prose, count, -, body, ⟨-, each⟩, rfl⟩ := drawn
  refine reads_status known (by simpa [isProse] using sentence_prose prose) fun line member => ?_
  obtain ⟨text, inBody, rfl⟩ := List.mem_map.mp member
  refine ⟨rfl, ?_⟩
  rw [List.all_append, sentence_prose (each text inBody)]
  decide

theorem clock_characters {time : Text} (drawn : Yields clock time) : time.all isClockCharacter := by
  simp only [clock, Draw.yields_bind_iff, Draw.yields_pure_iff] at drawn
  obtain ⟨hours, -, minutes, -, seconds, -, rfl⟩ := drawn
  refine Text.all_join (by decide) fun piece member => ?_
  obtain ⟨n, -, rfl⟩ := List.mem_map.mp member
  rw [List.all_eq_true]
  intro c inPiece
  rcases List.mem_append.mp inPiece with zero | inNumber
  · rw [List.eq_of_mem_replicate zero]
    rfl
  · simp [isClockCharacter, (Text.isDigits_ofNat n).2 c inNumber]

/-- A report of success, whatever it says. -/
theorem reads_success {rest : Text} (unbroken : Text.Unbroken rest) (noBar : '|' ∉ rest) :
    Reads ["All good (".toList ++ rest] [] := by
  have opening : ("All good (".toList ++ rest).head?.any Text.isBlank = false := rfl
  have marked : Text.startsWith Opening.successMarker ("All good (".toList ++ rest) := by
    have whole : Opening.successMarker <+: "All good (".toList := by decide
    rw [Text.startsWith_iff]
    exact whole.trans (List.prefix_append _ rest)
  have bars : '|' ∉ "All good (".toList ++ rest := by
    rw [List.mem_append]
    exact fun member => member.elim (by decide) noBar
  have made : ∀ base, Entry.ofBlock? base (Block.clean ["All good (".toList ++ rest]) = none := by
    intro base
    rw [Block.clean, List.takeWhile_nil, Entry.ofBlock?_cons base (by simp) opening, Opening.ofLine,
      if_pos marked]
  have whole : Text.Unbroken ("All good (".toList ++ rest) :=
    Text.unbroken_append.mpr ⟨by decide, unbroken⟩
  have opens := Line.not_isContinuation_of_no_bar opening bars
  refine ⟨Block.separable_cons whole (by simp) opens (by simp [Block.Follow]), fun base => ?_,
    fun base entry found => ?_⟩
  · rw [made]
    rfl
  · rw [made] at found
    cases found

theorem success_reads {lines : List Line} (drawn : Yields success lines) : Reads lines [] := by
  simp only [success, Draw.yields_bind_iff, Draw.yields_pure_iff] at drawn
  obtain ⟨count, -, time, clocked, rfl⟩ := drawn
  have timely := clock_characters clocked
  have digits := List.all_eq_true.mpr (Text.isDigits_ofNat count).2
  have shape : "All good (".toList ++ Text.ofNat count ++ " modules, at ".toList ++ time ++ [')'] =
      "All good (".toList ++ (Text.ofNat count ++ (" modules, at ".toList ++ (time ++ [')']))) := by
    simp only [List.append_assoc]
  rw [shape]
  apply reads_success
  · simp only [Text.unbroken_append]
    exact ⟨Text.unbroken_of_all digits rfl rfl, by decide, Text.unbroken_of_all timely rfl rfl, by decide⟩
  · simp only [List.mem_append, not_or]
    exact ⟨Text.not_mem_of_all digits rfl, by decide, Text.not_mem_of_all timely rfl, by decide⟩

theorem item_reads {modules : List Text} (paths : ∀ path ∈ modules, IsModulePath path)
    {outcome : List Line × List (Option Text)} (drawn : Yields (item modules) outcome) :
    Reads outcome.1 outcome.2 := by
  rw [item, Draw.yields_fraction_iff] at drawn
  obtain ⟨k, -, drawn⟩ := drawn
  split at drawn
  · simp only [Draw.yields_bind_iff, Draw.yields_choose_iff, Draw.yields_pure_iff] at drawn
    obtain ⟨path, member, lines, drawn, rfl⟩ := drawn
    exact located_reads (paths path member) drawn
  · split at drawn
    · simp only [Draw.yields_bind_iff, Draw.yields_pure_iff] at drawn
      obtain ⟨lines, drawn, rfl⟩ := drawn
      exact unlocated_reads drawn
    · simp only [Draw.yields_bind_iff, Draw.yields_pure_iff] at drawn
      obtain ⟨lines, drawn, rfl⟩ := drawn
      exact success_reads drawn

end CompilerFeedback.Corpus
