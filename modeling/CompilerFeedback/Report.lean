/-
# CompilerFeedback.Report -- grouped diagnostics for the reader

A report lists groups in order.  The plain report has the written form of every
diagnostic.  The JSON report has an array of objects, one for each file, with the
members of every object sorted by key; a diagnostic does not repeat its file.
-/
import CompilerFeedback.Group
import CompilerFeedback.Json

namespace CompilerFeedback.Report

set_option autoImplicit false

/-- The plain report. -/
def plain (groups : List Group) : Text :=
  groups.flatMap fun group => group.diagnostics.flatMap fun d => d.render ++ ['\n']

/-- A position. -/
def position (p : Position) : Json.Layout :=
  Json.object [("column".toList, Json.number p.column), ("line".toList, Json.number p.line)]

/-- A diagnostic without its file. -/
def diagnostic (d : Diagnostic) : Json.Layout :=
  Json.object [("end".toList, position d.span.stop), ("message".toList, Json.string d.message),
    ("severity".toList, Json.string d.severity.name), ("start".toList, position d.span.start)]

/-- A file with its diagnostics. -/
def group (g : Group) : Json.Layout :=
  Json.object [("diagnostics".toList, Json.array (g.diagnostics.map diagnostic)),
    ("file".toList, Json.string g.location)]

/-- The JSON report. -/
def json (groups : List Group) : Text := Json.array (groups.map group) 0 ++ ['\n']

end CompilerFeedback.Report
