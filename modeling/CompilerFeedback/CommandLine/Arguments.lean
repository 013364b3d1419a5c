/-
# CompilerFeedback.CommandLine.Arguments -- reading the arguments

The program takes one output file and a few options.  An option is known by one
dash and a letter or by two dashes and a word, which may be cut short as long as
it stays unambiguous.  Its value is the next argument or follows in the same one,
after an equals sign or, for a letter, directly.  The argument `--` ends the
options; the first one after or before it still counts as the output file.

Arguments are first sorted one by one (`Item.ofArgument`), so an ambiguous option
is refused wherever it stands.  Then they are taken in order (`collect`): the
first free one is the output file, what has no place is left over.

The rules have two editions, which part in corners only (`Edition`): where the value of
an option is `--`, and where letters without a value share their dash.

* `Usage` lists what is refused; a missing output file is reported before
  arguments that are left over.
-/
import CompilerFeedback.Text.DecimalDigit
import CompilerFeedback.Text.Quoted

namespace CompilerFeedback.CommandLine

set_option autoImplicit false

/-- The edition of the rules.  In the earlier one a value `--` is dropped, even if it is
written in one argument with its option, and what stands behind a letter without value has
to be letters of options.  In the current one the value is kept; letters that are no options
are left over, and only what follows an equals sign or a dash is refused. -/
inductive Edition where
  | earlier
  | current
  deriving DecidableEq, Repr

/-! ## Options -/

/-- The options. -/
inductive Switch where
  | help
  | baseDirectory
  | json
  | debug
  deriving DecidableEq, Repr

namespace Switch

/-- All spellings, in the order in which they are declared. -/
def spellings : List (Text × Switch) :=
  [("-h".toList, .help), ("--help".toList, .help), ("-b".toList, .baseDirectory),
    ("--base-dir".toList, .baseDirectory), ("--json".toList, .json), ("--debug".toList, .debug)]

/-- The option with this very spelling. -/
def ofSpelling? (t : Text) : Option Switch := spellings.lookup t

/-- The name of an option in messages: all its spellings. -/
def label (s : Switch) : Text :=
  Text.join ['/'] ((spellings.filter (·.2 == s)).map (·.1))

/-- Whether the option has a value. -/
def takesValue (s : Switch) : Bool := s == baseDirectory

end Switch

/-- What is refused. -/
inductive Usage where
  | ambiguous (argument : Text) (candidates : List Text)
  | missingValue (switch : Switch)
  | unwantedValue (switch : Switch) (value : Text)
  | missingOutput
  | leftOver (arguments : List Text)
  deriving DecidableEq, Repr

/-- The wording of a refusal. -/
def Usage.message : Usage → Text
  | .ambiguous argument candidates =>
      "ambiguous option: ".toList ++ argument ++ " could match ".toList ++
        Text.join ", ".toList candidates
  | .missingValue switch => "argument ".toList ++ switch.label ++ ": expected one argument".toList
  | .unwantedValue switch value =>
      "argument ".toList ++ switch.label ++ ": ignored explicit argument ".toList ++
        Text.quoted value
  | .missingOutput => "the following arguments are required: output".toList
  | .leftOver arguments => "unrecognized arguments: ".toList ++ Text.join [' '] arguments

/-! ## Sorting arguments -/

/-- An option as it was found: its spelling, and a value in the same argument, with or
without an equals sign before it. -/
structure Found where
  switch : Switch
  spelling : Text
  value : Option Text
  behindEquals : Bool
  deriving DecidableEq, Repr

/-- An argument by its kind. -/
inductive Item where
  /-- An argument that is no option. -/
  | free (argument : Text)
  /-- The end of the options. -/
  | endOfOptions
  | option (found : Found)
  /-- It looks like an option, but there is none of that name. -/
  | unknown (argument : Text)
  deriving DecidableEq, Repr

/-- The argument that ends the options. -/
def endMarker : Text := ['-', '-']

/-- The options that `argument` may mean: of a letter and a value, that letter's;
of two dashes and part of a word, all those whose word begins with it. -/
def candidates (argument : Text) : List Found :=
  if Text.startsWith ['-', '-'] argument then
    (Switch.spellings.filter fun s => Text.startsWith (Text.before '=' argument) s.1).map
      fun s => ⟨s.2, s.1, Text.after? '=' argument, true⟩
  else
    (Switch.spellings.filter fun s => s.1 == argument.take 2).map
      fun s => ⟨s.2, s.1, some (argument.drop 2), false⟩

/-- Whether the text is a negative number: a minus sign and digits, perhaps with a
point before some of them.  One line feed at the end is allowed. -/
def isNegativeNumber (t : Text) : Bool :=
  match if t.getLast? = some '\n' then t.dropLast else t with
  | '-' :: digits =>
      match digits.dropWhile Text.isDecimalDigit with
      | [] => digits != []
      | c :: fraction => c == '.' && fraction != [] && fraction.all Text.isDecimalDigit
  | _ => false

/-- The option that begins an argument with an equals sign, spelled in full. -/
def beforeEquals? (argument : Text) : Option Found := do
  let value ← Text.after? '=' argument
  let switch ← Switch.ofSpelling? (Text.before '=' argument)
  return ⟨switch, Text.before '=' argument, some value, true⟩

/-- An argument before the end of the options, by its kind. -/
def Item.ofArgument (argument : Text) : Except Usage Item :=
  if !Text.startsWith ['-'] argument ∨ argument = ['-'] then .ok (.free argument)
  else
    match Switch.ofSpelling? argument with
    | some switch => .ok (.option ⟨switch, argument, none, false⟩)
    | none =>
        match beforeEquals? argument with
        | some found => .ok (.option found)
        | none =>
            match candidates argument with
            | [found] => .ok (.option found)
            | [] =>
                if isNegativeNumber argument ∨ argument.contains ' ' then .ok (.free argument)
                else .ok (.unknown argument)
            | several => .error (.ambiguous argument (several.map (·.spelling)))

/-- The arguments by their kinds. -/
def sort : List Text → Except Usage (List Item)
  | [] => .ok []
  | argument :: arguments =>
      if argument = endMarker then .ok (.endOfOptions :: arguments.map .free)
      else do
        let item ← Item.ofArgument argument
        return item :: (← sort arguments)

/-! ## Letters that share a dash -/

/-- Options that one argument names: those without a value, and then perhaps one with
a value, which may still be missing, or letters that are left over. -/
structure Bundle where
  plain : List Switch
  valued : Option (Option Text)
  leftOver : Option Text
  deriving DecidableEq, Repr

/-- The options of a letter without value and the letters written behind it, or behind it
and an equals sign. -/
def unbundle (edition : Edition) (switch : Switch) (behindEquals : Bool) :
    Text → Except Usage Bundle
  | [] => .error (.unwantedValue switch [])
  | c :: rest =>
      if edition = .current ∧ (behindEquals ∨ c = '-') then
        .error (.unwantedValue switch (c :: rest))
      else
        match Switch.ofSpelling? ['-', c], rest with
        | none, _ =>
            match edition with
            | .earlier => .error (.unwantedValue switch (c :: rest))
            | .current => .ok ⟨[switch], none, some ('-' :: c :: rest)⟩
        | some next, [] =>
            .ok (if next.takesValue then ⟨[switch], some none, none⟩ else ⟨[switch, next], none, none⟩)
        | some next, d :: value =>
            if edition = .current ∧ d = '=' then
              if next.takesValue then .ok ⟨[switch], some (some value), none⟩
              else (unbundle edition next true value).map fun b => { b with plain := switch :: b.plain }
            else
              if next.takesValue then .ok ⟨[switch], some (some (d :: value)), none⟩
              else (unbundle edition next false (d :: value)).map
                fun b => { b with plain := switch :: b.plain }
termination_by t => t.length

/-- The options that an argument names. -/
def Found.bundle (edition : Edition) (found : Found) : Except Usage Bundle :=
  if found.switch.takesValue then .ok ⟨[], some found.value, none⟩
  else
    match found.value with
    | none => .ok ⟨[found.switch], none, none⟩
    | some value =>
        if Text.startsWith ['-', '-'] found.spelling then
          .error (.unwantedValue found.switch value)
        else unbundle edition found.switch found.behindEquals value

/-! ## Taking arguments in order -/

/-- Where relative paths are read. -/
inductive Base where
  /-- In the directory of the output file. -/
  | beside
  | directory (path : Text)
  /-- Nowhere: the value of the option was dropped. -/
  | nowhere
  deriving DecidableEq, Repr

/-- What was asked for so far. -/
structure Request where
  output : Option Text
  base : Base
  json : Bool
  debug : Bool
  help : Bool
  leftOver : List Text
  deriving DecidableEq, Repr

/-- The request of no arguments. -/
def Request.start : Request := ⟨none, .beside, false, false, false, []⟩

/-- The directory that a value names. -/
def Base.ofValue (edition : Edition) (value : Text) : Base :=
  if edition = .earlier ∧ value = endMarker then .nowhere else .directory value

/-- The request with an option without value. -/
def Request.turnOn (r : Request) : Switch → Request
  | .help => { r with help := true }
  | .json => { r with json := true }
  | .debug => { r with debug := true }
  | .baseDirectory => r

/-- The request with a free argument: the output file if it is the first one. -/
def Request.takeFree (r : Request) (argument : Text) : Request :=
  match r.output with
  | none => { r with output := some argument }
  | some _ => { r with leftOver := r.leftOver ++ [argument] }

/-- The request with an argument that has no place. -/
def Request.leave (r : Request) (argument : Text) : Request :=
  { r with leftOver := r.leftOver ++ [argument] }

/-- The request with the options that one argument names, but for a value. -/
def Request.takeBundle (r : Request) (bundle : Bundle) : Request :=
  let r := bundle.plain.foldl Request.turnOn r
  match bundle.leftOver with
  | none => r
  | some argument => r.leave argument

/-- The request that the items make.  Help is given at once, whatever follows.  The
end marker goes with the output file if it stands directly before or behind it, and
is left over otherwise. -/
def collect (edition : Edition) (r : Request) : List Item → Except Usage Request
  | [] => .ok r
  | .unknown argument :: items => collect edition (r.leave argument) items
  | .endOfOptions :: .free argument :: items =>
      match r.output with
      | none => collect edition (r.takeFree argument) items
      | some _ => collect edition ((r.leave endMarker).takeFree argument) items
  | .endOfOptions :: items => collect edition (r.leave endMarker) items
  | .free argument :: .endOfOptions :: items =>
      match r.output with
      | none => collect edition (r.takeFree argument) items
      | some _ => collect edition (r.takeFree argument) (.endOfOptions :: items)
  | .free argument :: items => collect edition (r.takeFree argument) items
  | .option found :: items => do
      let bundle ← found.bundle edition
      let r' := r.takeBundle bundle
      match bundle.valued, items with
      | none, items => if r'.help then return r' else collect edition r' items
      | some (some value), items =>
          if r'.help then return r' else collect edition { r' with base := .ofValue edition value } items
      | some none, .free value :: items =>
          if r'.help then return r' else collect edition { r' with base := .ofValue edition value } items
      | some none, _ => throw (.missingValue .baseDirectory)
termination_by items => items.length

/-- What the arguments ask for. -/
inductive Order where
  | help
  | report (output : Text) (base : Base) (json debug : Bool)
  deriving DecidableEq, Repr

/-- The reading of all arguments. -/
def interpret (edition : Edition) (arguments : List Text) : Except Usage Order := do
  let items ← sort arguments
  let r ← collect edition .start items
  if r.help then return .help
  match r.output, r.leftOver with
  | none, _ => throw .missingOutput
  | some output, [] => return .report output r.base r.json r.debug
  | some _, arguments => throw (.leftOver arguments)

end CompilerFeedback.CommandLine
