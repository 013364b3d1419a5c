/-
# CompilerFeedback.Journal -- what the program notes about its work

All notes of the program go to journals below one *package* journal.  That one has
a level, its threshold, and handlers, which lay the notes out by a template and have
a threshold of their own.  Level zero means that nothing was said: then the threshold
of the root counts.  Setting the journal up attaches a handler; it is done once, until
the journal is reset.

Whether a level passes the threshold of a name is decided when a record of it is
logged, and the decision holds until some level is set.  A note that reaches no
handler is written as its bare message if it is a warning or worse.

* `Journal.setUp`, `obtain`, `setLevel`, `reset` change the state;
  `Journal.write` is the text that a record gives.
-/
import CompilerFeedback.Journal.Layout
import CompilerFeedback.Journal.Name

namespace CompilerFeedback

set_option autoImplicit false

/-- A handler of the package journal. -/
structure Journal.Handler where
  level : Int
  template : Text
  deriving DecidableEq, Repr

/-- What a handler makes of a record: a line, or a report where the record cannot be laid out. -/
def Journal.Handler.line (handler : Journal.Handler) (context : Template.Context)
    (record : Record) : Text :=
  match Template.fill? context record handler.template with
  | some line => line ++ ['\n']
  | none => context.report record handler.template

/-- What a handler writes of a record. -/
def Journal.Handler.write (handler : Journal.Handler) (context : Template.Context)
    (record : Record) : Text :=
  if handler.level ≤ record.level then handler.line context record else []

/-- The state of the journals.  Only the root and the package journal have levels. -/
structure Journal where
  rootLevel : Int
  level : Int
  handlers : List Journal.Handler
  /-- Whether it was set up since the last reset. -/
  ready : Bool
  /-- The names in use. -/
  used : List Text
  /-- Which levels pass under which names, as far as that was decided since a level was set. -/
  decided : List ((Text × Int) × Bool)
  deriving DecidableEq, Repr

namespace Journal

/-! ## Names and levels -/

/-- The package journal. -/
def packageName : Text := "ghcidlog".toList

/-- The journal of the parser. -/
def parserName : Text := "ghcidlog.parser".toList

/-- The journal of the output files. -/
def outputFileName : Text := "ghcidlog.outputfile".toList

/-- The journal above all others. -/
def rootName : Text := "root".toList

def debugLevel : Int := 10

def infoLevel : Int := 20

def warningLevel : Int := 30

/-- The layout of lines where nothing else is said. -/
def standardTemplate : Text := "%(asctime)s - %(name)s - %(levelname)s - %(message)s".toList

/-- The state at the start. -/
def initial : Journal :=
  ⟨warningLevel, 0, [], false, [packageName, parserName, outputFileName], []⟩

/-! ## Changes of the state -/

/-- A text that is no template because it has no field. -/
structure NoField where
  text : Text
  deriving DecidableEq, Repr

/-- The wording of the refusal. -/
def NoField.message (refused : NoField) : Text :=
  "Invalid format '".toList ++ refused.text ++ "' for '%' style".toList

/-- The template that is meant: the standard one, unless another one is given. -/
def templateOf (given : Option Text) : Text :=
  match given.getD [] with
  | [] => standardTemplate
  | template => template

/-- The package journal with another level and without handlers. -/
def cleared (j : Journal) (level : Int) : Journal :=
  { j with level := level, handlers := [], decided := [] }

/-- Sets the package journal up, unless that was done: its level, and a handler that
passes everything.  A text that is no template is refused when the level is set and
the old handlers gone. -/
def setUp (j : Journal) (level : Int) (template : Option Text) : Journal × Option NoField :=
  if j.ready then (j, none)
  else
    let bare := j.cleared level
    if Template.hasField (templateOf template) then
      ({ bare with handlers := bare.handlers ++ [⟨0, templateOf template⟩], ready := true }, none)
    else (bare, some ⟨templateOf template⟩)

/-- The journal set up in the standard way, unless that was done. -/
def ensure (j : Journal) : Journal := (j.setUp infoLevel none).1

/-- The name is in use from now on. -/
def use (j : Journal) (name : Text) : Journal :=
  if j.used.contains name then j else { j with used := name :: j.used }

/-- Whether a name is one of the root. -/
def isRootName (name : Text) : Bool := name.isEmpty || name == rootName

/-- Obtains a journal by name and takes its own level away. -/
def obtain (j : Journal) (name : Text) : Journal :=
  if isRootName name then { j.ensure with rootLevel := 0, decided := [] }
  else if name = packageName then { j.ensure with level := 0, decided := [] }
  else { j.ensure.use name with decided := [] }

/-- Sets the thresholds of the package journal and of its handlers. -/
def setLevel (j : Journal) (level : Int) : Journal :=
  { j.ensure with
    level := level
    handlers := j.ensure.handlers.map fun handler => { handler with level := level }
    decided := [] }

/-- Lets everything from debugging notes on pass. -/
def enableDebug (j : Journal) : Journal := j.setLevel debugLevel

/-- Takes handlers and level away; the next use sets the journal up anew. -/
def reset (j : Journal) : Journal := { j.cleared 0 with ready := false }

/-! ## Writing -/

/-- Whether the journal of this name passes its records on to the package journal. -/
def isInPackage (j : Journal) (name : Text) : Bool :=
  !isRootName name && isWithin j.used packageName name

/-- The threshold of the journal of this name. -/
def threshold (j : Journal) (name : Text) : Int :=
  if j.isInPackage name ∧ j.level ≠ 0 then j.level else j.rootLevel

/-- Whether a level passes the threshold of the journal of this name. -/
def passes (j : Journal) (name : Text) (level : Int) : Bool :=
  decide (0 < level ∧ j.threshold name ≤ level)

/-- Whether records of this level are let through, as it was decided before or is now. -/
def letsThrough (j : Journal) (name : Text) (level : Int) : Bool :=
  (j.decided.lookup (name, level)).getD (j.passes name level)

/-- The handlers that a record under this name reaches. -/
def handlersFor (j : Journal) (name : Text) : List Handler :=
  if j.isInPackage name then j.handlers else []

/-- What a record adds to the output. -/
def write (j : Journal) (context : Template.Context) (record : Record) : Text :=
  if j.letsThrough record.name record.level then
    match j.handlersFor record.name with
    | [] => if warningLevel ≤ record.level then record.message ++ ['\n'] else []
    | handlers => handlers.flatMap (·.write context record)
  else []

/-- Keeps the decision about a name and a level. -/
def settle (j : Journal) (name : Text) (level : Int) : Journal :=
  { j with decided := ((name, level), j.letsThrough name level) :: j.decided }

/-- Logs a record: the name is in use from now on. -/
def log (j : Journal) (context : Template.Context) (record : Record) : Journal × Text :=
  let j := if isRootName record.name then j else j.use record.name
  (j.settle record.name record.level, j.write context record)

/-- What debugging notes under one name add to the output. -/
def writeNotes (j : Journal) (context : Template.Context) (name : Text) (notes : List Text) :
    Text :=
  notes.flatMap fun note => j.write context ⟨name, debugLevel, note⟩

/-! ## Runs -/

/-- What can be done with the journals. -/
inductive Step where
  | setUp (level : Int) (template : Option Text)
  | obtain (name : Text)
  | setLevel (level : Int)
  | enableDebug
  | reset
  | log (record : Record)
  /-- Notes of the parser. -/
  | notes (messages : List Text)
  deriving DecidableEq, Repr

/-- What a step shows. -/
structure Outcome where
  written : Text
  refused : Option NoField
  deriving DecidableEq, Repr

/-- One step. -/
def step (context : Template.Context) (j : Journal) : Step → Journal × Outcome
  | .setUp level template => ((j.setUp level template).1, ⟨[], (j.setUp level template).2⟩)
  | .obtain name => (j.obtain name, ⟨[], none⟩)
  | .setLevel level => (j.setLevel level, ⟨[], none⟩)
  | .enableDebug => (j.enableDebug, ⟨[], none⟩)
  | .reset => (j.reset, ⟨[], none⟩)
  | .log record => ((j.log context record).1, ⟨(j.log context record).2, none⟩)
  | .notes messages => (j, ⟨j.writeNotes context parserName messages, none⟩)

/-- The state after some steps. -/
def run (context : Template.Context) (j : Journal) (steps : List Step) : Journal :=
  steps.foldl (fun j s => (j.step context s).1) j

end Journal

end CompilerFeedback
