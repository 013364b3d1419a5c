/-
# CompilerFeedback.Proofs.Report -- the JSON report loses nothing

The JSON report leaves out the file of every diagnostic, for its group has it.  So groups can
be read back from the report if each diagnostic is in the group of its own file, as it is in
the groups of a text; and what can be read back can be told apart, and written again.

* `ofValue?_value`: groups are read back from the value of their report.
* `json_loses_nothing`: two reports of the program are equal exactly if the groups are, and
  a plain report follows from the JSON report on the same file.

All this is about texts.  A string that holds the two halves of a character apart is none, and
it is written as the character is (`same_report_of_different_groups`).
-/
import CompilerFeedback.Proofs.CommandLine
import CompilerFeedback.Proofs.Feedback.Groups
import CompilerFeedback.Proofs.Json

namespace CompilerFeedback

set_option autoImplicit false

/-! ## Members of objects -/

namespace Json.Value

def member? (key : Text) : Value → Option Value
  | .object members => members.lookup key
  | _ => none

def text? : Value → Option Text
  | .string text => some text
  | _ => none

def int? : Value → Option Int
  | .number value => some value
  | _ => none

def items? : Value → Option (List Value)
  | .array items => some items
  | _ => none

/-- What a reader makes of the member of an object. -/
def read? {α : Type} (key : String) (reader : Value → Option α) (value : Value) : Option α :=
  (value.member? key.toList).bind reader

end Json.Value

namespace Report

open Json (Value)

/-! ## The value of a report -/

def positionValue (p : Position) : Value :=
  .object [("column".toList, .number p.column), ("line".toList, .number p.line)]

def diagnosticValue (d : Diagnostic) : Value :=
  .object [("end".toList, positionValue d.span.stop), ("message".toList, .string d.message),
    ("severity".toList, .string d.severity.name), ("start".toList, positionValue d.span.start)]

def groupValue (g : Group) : Value :=
  .object [("diagnostics".toList, .array (g.diagnostics.map diagnosticValue)),
    ("file".toList, .string g.location)]

/-- The value of the JSON report. -/
def value (groups : List Group) : Value := .array (groups.map groupValue)

theorem writes_position (p : Position) : Json.Writes (position p) (positionValue p) :=
  Json.writes_object (.cons ⟨rfl, Json.writes_number _⟩ (.cons ⟨rfl, Json.writes_number _⟩ .nil))

theorem writes_diagnostic (d : Diagnostic) : Json.Writes (diagnostic d) (diagnosticValue d) :=
  Json.writes_object (.cons ⟨rfl, writes_position _⟩ (.cons ⟨rfl, Json.writes_string _⟩
    (.cons ⟨rfl, Json.writes_string _⟩ (.cons ⟨rfl, writes_position _⟩ .nil))))

theorem writes_map {α : Type} {layout : α → Json.Layout} {value : α → Value}
    (writes : ∀ a, Json.Writes (layout a) (value a)) (as : List α) :
    Json.Writes (Json.array (as.map layout)) (.array (as.map value)) := by
  apply Json.writes_array
  rw [List.forall₂_map_left_iff, List.forall₂_map_right_iff, List.forall₂_same]
  exact fun a _ => writes a

theorem writes_group (g : Group) : Json.Writes (group g) (groupValue g) :=
  Json.writes_object (.cons ⟨rfl, writes_map writes_diagnostic g.diagnostics⟩
    (.cons ⟨rfl, Json.writes_string _⟩ .nil))

theorem decode?_json (groups : List Group) : Json.decode? (json groups) = some (value groups) :=
  (writes_map writes_group groups).decode?_eq

/-! ## Reading a report -/

def positionOf? (v : Value) : Option Position := do
  return ⟨← v.read? "line" Value.int?, ← v.read? "column" Value.int?⟩

def severityOf? (v : Value) : Option Severity := v.text?.bind Severity.ofName?

/-- A diagnostic, in the file of the group around it. -/
def diagnosticOf? (file : Text) (v : Value) : Option Diagnostic := do
  let start ← v.read? "start" positionOf?
  let stop ← v.read? "end" positionOf?
  return ⟨⟨file, start, stop⟩, ← v.read? "severity" severityOf?, ← v.read? "message" Value.text?⟩

def groupOf? (v : Value) : Option Group := do
  let file ← v.read? "file" Value.text?
  let diagnostics ← v.read? "diagnostics" Value.items?
  return ⟨file, ← diagnostics.mapM (diagnosticOf? file)⟩

/-- The groups of a report. -/
def ofValue? (v : Value) : Option (List Group) := v.items?.bind fun groups => groups.mapM groupOf?

theorem positionOf?_value (p : Position) : positionOf? (positionValue p) = some p := rfl

theorem diagnosticOf?_value (d : Diagnostic) :
    diagnosticOf? d.span.file (diagnosticValue d) = some d := by
  have start : (diagnosticValue d).read? "start" positionOf? = some d.span.start :=
    positionOf?_value _
  have stop : (diagnosticValue d).read? "end" positionOf? = some d.span.stop :=
    positionOf?_value _
  have severity : (diagnosticValue d).read? "severity" severityOf? = some d.severity :=
    Severity.ofName?_name _
  have message : (diagnosticValue d).read? "message" Value.text? = some d.message := rfl
  rw [diagnosticOf?, start, stop, severity, message]
  rfl

theorem mapM_map_eq_some {α β : Type} {write : α → β} {read : β → Option α} {as : List α}
    (back : ∀ a ∈ as, read (write a) = some a) : (as.map write).mapM read = some as := by
  induction as with
  | nil => rfl
  | cons a as ih =>
      rw [List.map_cons, List.mapM_cons, back a List.mem_cons_self,
        ih fun b member => back b (List.mem_cons_of_mem a member)]
      rfl

/-- Whether a group holds diagnostics of its own file only. -/
def OwnFile (g : Group) : Prop := ∀ d ∈ g.diagnostics, d.span.file = g.location

theorem groupOf?_value {g : Group} (own : OwnFile g) : groupOf? (groupValue g) = some g := by
  have file : (groupValue g).read? "file" Value.text? = some g.location := rfl
  have items : (groupValue g).read? "diagnostics" Value.items? =
      some (g.diagnostics.map diagnosticValue) := rfl
  have diagnostics : (g.diagnostics.map diagnosticValue).mapM (diagnosticOf? g.location) =
      some g.diagnostics := by
    refine mapM_map_eq_some fun d member => ?_
    rw [← own d member]
    exact diagnosticOf?_value d
  rw [groupOf?, file, items]
  dsimp only [Option.bind_eq_bind, Option.bind_some]
  rw [diagnostics]
  rfl

theorem ofValue?_value {groups : List Group} (own : ∀ g ∈ groups, OwnFile g) :
    ofValue? (value groups) = some groups :=
  mapM_map_eq_some fun g member => groupOf?_value (own g member)

/-- Groups are read back from their JSON report. -/
theorem read_json {groups : List Group} (own : ∀ g ∈ groups, OwnFile g) :
    (Json.decode? (json groups)).bind ofValue? = some groups := by
  rw [decode?_json, Option.bind_some, ofValue?_value own]

theorem json_inj {first second : List Group} (firstOwn : ∀ g ∈ first, OwnFile g)
    (secondOwn : ∀ g ∈ second, OwnFile g) : json first = json second ↔ first = second := by
  constructor
  · intro same
    have read : some first = some second := by
      rw [← read_json firstOwn, same, read_json secondOwn]
    exact Option.some.inj read
  · exact congrArg json

/-- The lines of the groups of a report: of every diagnostic the file of the group around it,
where it starts, counted from one, its severity and its message. -/
def restate (groups : List Group) : Text :=
  groups.flatMap fun g => g.diagnostics.flatMap fun d =>
    g.location ++ ':' :: Text.ofInt (d.span.start.line + 1) ++
      ':' :: Text.ofInt (d.span.start.column + 1) ++ ": ".toList ++ d.severity.name ++
      ": ".toList ++ d.message ++ ['\n']

theorem restate_eq_plain {groups : List Group} (own : ∀ g ∈ groups, OwnFile g) :
    restate groups = plain groups := by
  refine List.flatMap_congr fun g inGroups => List.flatMap_congr fun d inGroup => ?_
  rw [← own g inGroups d inGroup]
  rfl

end Report

/-! ## Strings that are no texts -/

/-- One code point of a string: a character, or half of a surrogate pair. -/
def Json.escapePoint (n : Nat) : Text :=
  if n.isValidChar then escape (Char.ofNat n) else units n

/-- A string that is given by its code points. -/
def Json.stringOfPoints (points : List Nat) : Json.Layout := fun _ =>
  '"' :: points.flatMap escapePoint ++ ['"']

theorem Json.escapePoint_toNat (c : Char) : escapePoint c.toNat = escape c := by
  have valid : c.toNat.isValidChar := c.valid
  rw [escapePoint, if_pos valid, Char.ofNat_toNat]

theorem Json.stringOfPoints_toNat (t : Text) : stringOfPoints (t.map Char.toNat) = string t := by
  funext depth
  rw [stringOfPoints, List.flatMap_map]
  simp only [escapePoint_toNat]
  rfl

/-- The two halves of a surrogate pair. -/
def Json.halves (c : Char) : List Nat :=
  [0xD800 + (c.toNat - 0x10000) / 0x400, 0xDC00 + (c.toNat - 0x10000) % 0x400]

theorem Json.escape_of_large {c : Char} (large : 0x10000 ≤ c.toNat) : escape c = units c.toNat := by
  have differs : ∀ d : Char, d.toNat < 0x10000 → c ≠ d := by
    rintro d small rfl
    omega
  unfold escape
  rw [if_neg (differs _ (by decide)), if_neg (differs _ (by decide)),
    if_neg (differs _ (by decide)), if_neg (differs _ (by decide)),
    if_neg (differs _ (by decide)), if_neg (differs _ (by decide)),
    if_neg (differs _ (by decide)), if_neg (by omega)]

/-- Half of a surrogate pair is written by its number. -/
theorem Json.escapePoint_half {n : Nat} (lower : 0xD800 ≤ n) (upper : n < 0xE000) :
    escapePoint n = unit n := by
  have noChar : ¬ n.isValidChar := by
    unfold Nat.isValidChar
    omega
  rw [escapePoint, if_neg noChar, units, if_pos (by omega)]

/-- **Two halves that stand apart are written as the character that they make.** -/
theorem Json.stringOfPoints_halves (before after : List Nat) {c : Char}
    (large : 0x10000 ≤ c.toNat) : stringOfPoints (before ++ halves c ++ after) =
      stringOfPoints (before ++ c.toNat :: after) := by
  have bound : c.toNat < 0x110000 := by
    have valid : c.toNat < 0xD800 ∨ 0xDFFF < c.toNat ∧ c.toNat < 0x110000 := c.valid
    omega
  have whole : (halves c).flatMap escapePoint = escapePoint c.toNat := by
    rw [escapePoint_toNat, escape_of_large large, units, if_neg (by omega), halves]
    rw [List.flatMap_cons, List.flatMap_cons, List.flatMap_nil, List.append_nil,
      escapePoint_half (by omega) (by omega), escapePoint_half (by omega) (by omega)]
  funext depth
  unfold stringOfPoints
  rw [List.flatMap_append, List.flatMap_append, List.flatMap_append, List.flatMap_cons, whole,
    List.append_assoc]

/-- The report on diagnostics of one file, whose path is given by its code points. -/
def Report.jsonOfPoints (file : List Nat) (diagnostics : List Diagnostic) : Text :=
  Json.array [Json.object [("diagnostics".toList, Json.array (diagnostics.map diagnostic)),
    ("file".toList, Json.stringOfPoints file)]] 0 ++ ['\n']

theorem Report.jsonOfPoints_toNat (g : Group) :
    jsonOfPoints (g.location.map Char.toNat) g.diagnostics = json [g] := by
  rw [jsonOfPoints, Json.stringOfPoints_toNat]
  rfl

/-! ## The program -/

namespace CommandLine

/-- A file that can be read, and where its relative paths are read. -/
structure Source where
  fs : FileSystem
  host : Host
  output : Text
  base : Base
  file : OutputFile.Loaded
  loaded : OutputFile.load host (fs.read host.working) output = .ok file
  serves : base.Serves file.text

namespace Source

/-- What parsing the file gives. -/
def parsed (s : Source) : Except OutputFile.LoadFault (List Group) :=
  OutputFile.parse s.fs s.host s.output s.base.given

/-- Whether a run that is asked for the report on the file has this output. -/
def Prints (s : Source) (json : Bool) (text : Text) : Prop :=
  ∃ edition arguments debug time,
    interpret edition arguments = .ok (.report s.output s.base json debug) ∧
      (run edition s.host (s.fs.read s.host.working) time arguments).output = text

def groups (s : Source) : List Group := s.file.groups s.base.given

theorem parsed_eq (s : Source) : s.parsed = .ok s.groups := by
  rw [parsed, OutputFile.parse, s.loaded]
  rfl

theorem ownFile (s : Source) : ∀ g ∈ s.groups, Report.OwnFile g := fun _ member =>
  Feedback.file_of_mem_groups member

theorem Prints.eq {s : Source} {json : Bool} {text : Text} (prints : s.Prints json text) :
    text = if json then Report.json s.groups else Report.plain s.groups := by
  obtain ⟨edition, arguments, debug, time, asked, rfl⟩ := prints
  rw [run, asked]
  dsimp only
  rw [s.loaded]
  exact (reportIn_reports s.serves time json debug).2

end Source

/-- **The JSON report loses nothing.**  The reports on two files that can be read are equal
exactly if parsing the files gives equal groups, with the file, the span, the severity and
the message of every diagnostic.  And the plain report on a file is made of nothing but the
value of its JSON report: of the groups that are read from there, each diagnostic in the file
of the group around it. -/
theorem json_loses_nothing :
    (∀ {a b : Source} {x y : Text}, a.Prints true x → b.Prints true y →
      (x = y ↔ a.parsed = b.parsed)) ∧
      ∀ {a : Source} {x y : Text}, a.Prints true x → a.Prints false y →
        ((Json.decode? x).bind Report.ofValue?).map Report.restate = some y := by
  constructor
  · intro a b x y first second
    rw [first.eq, second.eq, a.parsed_eq, b.parsed_eq, Except.ok.injEq]
    exact Report.json_inj a.ownFile b.ownFile
  · intro a x y json plain
    rw [json.eq, plain.eq, if_pos rfl, if_neg Bool.false_ne_true, Report.read_json a.ownFile,
      Option.map_some, Report.restate_eq_plain a.ownFile]

/-- Two output files at home: one whose message is escaped in many ways, and one that is no
text. -/
def reportFiles : FileSystem :=
  ⟨[(["h".toList], .directory),
    (["h".toList, ['a']], .file (Text.Utf8.encode "A.hs:1:2: warning: \"\\\x01é😀".toList)),
    (["h".toList, ['b']], .file [0xFF, 0x3A, 0x0D])]⟩

def sourceAtHome (name : Text) {content : Bytes}
    (located : OutputFile.locate homeHost (['~', '/'] ++ name) =
      .ok ⟨.absolute, ["h".toList, name]⟩)
    (held : reportFiles.read homeHost.working ⟨.absolute, ["h".toList, name]⟩ = .ok content) :
    Source where
  fs := reportFiles
  host := homeHost
  output := ['~', '/'] ++ name
  base := .beside
  file := ⟨⟨.absolute, ["h".toList, name]⟩, OutputFile.textOf content⟩
  loaded := OutputFile.load_of_read located held
  serves := Base.noConfusion

def escapedSource : Source := sourceAtHome ['a'] (by decide) rfl

def straySource : Source := sourceAtHome ['b'] (by decide) rfl

theorem json_loses_nothing_escaped :
    ∃ x y z : Text, escapedSource.Prints true x ∧ straySource.Prints true y ∧
      (x = y ↔ escapedSource.parsed = straySource.parsed) ∧ escapedSource.Prints false z ∧
      ((Json.decode? x).bind Report.ofValue?).map Report.restate = some z := by
  have escaped : escapedSource.Prints true _ :=
    ⟨.current, _, _, [], interpret_json .current rfl, rfl⟩
  have stray : straySource.Prints true _ :=
    ⟨.current, _, _, [], interpret_json .current rfl, rfl⟩
  have plain : escapedSource.Prints false _ :=
    ⟨.current, _, _, [], interpret_singleton .current rfl, rfl⟩
  exact ⟨_, _, _, escaped, stray, json_loses_nothing.1 escaped stray, plain,
    json_loses_nothing.2 escaped plain⟩

/-- In the earlier edition of the rules, the value `--` is no base directory. -/
theorem interpret_dropped {output : Text} (free : Text.startsWith ['-'] output = false) :
    interpret .earlier ["--json".toList, "--base-dir=--".toList, output] =
      .ok (.report output .nowhere true false) := by
  have sorted : sort ["--json".toList, "--base-dir=--".toList, output] =
      .ok [.option ⟨.json, "--json".toList, none, false⟩,
        .option ⟨.baseDirectory, "--base-dir".toList, some endMarker, true⟩, .free output] :=
    sort_cons (by decide) rfl (sort_cons (by decide) rfl (sort_free free))
  have collected : collect .earlier .start
      [.option ⟨.json, "--json".toList, none, false⟩,
        .option ⟨.baseDirectory, "--base-dir".toList, some endMarker, true⟩, .free output] =
      .ok (Request.takeFree ⟨none, .nowhere, true, false, false, []⟩ output) := by
    rw [collect_switch rfl rfl, collect_value rfl rfl, collect_free]
    rfl
  exact interpret_of_collect sorted collected rfl rfl rfl

/-- The report on a file with the one line `e`, in a base directory that is given by its code
points. -/
def lineReport (base : List Nat) : Text :=
  Report.jsonOfPoints base [⟨.top [], .error, ['e']⟩]

/-- Where strings are no texts, two base directories have one report; and where the value `--`
is dropped, two files have none, though they can be parsed in the base directory `--`. -/
theorem same_report_of_different_groups :
    ((∀ base : Text, Report.json (Feedback.groups base ['e']) = lineReport (base.map Char.toNat)) ∧
      lineReport [0x2F, 0xD83D, 0xDE00] = lineReport [0x2F, 0x1F600]) ∧
    (∀ name ∈ [['a'], ['b']],
      (run .earlier homeHost (reportFiles.read homeHost.working) []
        ["--json".toList, "--base-dir=--".toList, ['~', '/'] ++ name]).output = []) ∧
    OutputFile.parse reportFiles homeHost "~/a".toList (some "--".toList) ≠
      OutputFile.parse reportFiles homeHost "~/b".toList (some "--".toList) := by
  refine ⟨⟨fun base => ?_, ?_⟩, ?_, by decide⟩
  · have groups : Feedback.groups base ['e'] = [⟨base, [⟨.top base, .error, ['e']⟩]⟩] := rfl
    rw [groups, ← Report.jsonOfPoints_toNat]
    rfl
  · have strings : Json.stringOfPoints [0x2F, 0xD83D, 0xDE00] = Json.stringOfPoints [0x2F, 0x1F600] :=
      Json.stringOfPoints_halves [0x2F] [] (show 0x10000 ≤ '😀'.toNat by decide)
    rw [lineReport, lineReport, Report.jsonOfPoints, Report.jsonOfPoints, strings]
  · intro name member
    obtain ⟨content, located, gives, needs⟩ : ∃ content,
        OutputFile.locate homeHost (['~', '/'] ++ name) = .ok ⟨.absolute, ["h".toList, name]⟩ ∧
        reportFiles.Gives homeHost.working ⟨.absolute, ["h".toList, name]⟩ content ∧
        Feedback.needsBase (OutputFile.textOf content) = true := by
      rcases List.mem_pair.mp member with rfl | rfl
      · exact ⟨_, by decide, Or.inl rfl, by decide⟩
      · exact ⟨_, by decide, Or.inl rfl, by decide⟩
    have free : Text.startsWith ['-'] (['~', '/'] ++ name) = false := rfl
    have asked := interpret_dropped free
    have serves : ¬ Base.nowhere.Serves (OutputFile.textOf content) := fun free => by
      rw [free rfl] at needs
      cases needs
    exact ((run_of_file asked located gives []).2 serves).2

end CommandLine

end CompilerFeedback
