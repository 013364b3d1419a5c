/-
# CompilerFeedback.Group -- diagnostics by file

Diagnostics are grouped by the file they are filed under.  Files stand in the
order in which they were first seen, the diagnostics of a file in the order in
which they came.  A file that was seen without a diagnostic has its group.

* `Group.aggregate` groups; `Group.locations` and `Group.gather` are the two
  views of a list of groups that determine the result.
-/
import CompilerFeedback.Diagnostic

namespace CompilerFeedback

set_option autoImplicit false

/-- Diagnostics that are filed under one path. -/
structure Group where
  location : Text
  diagnostics : List Diagnostic
  deriving DecidableEq, Repr

namespace Group

/-- The paths of the groups, in order. -/
def locations (groups : List Group) : List Text := groups.map (·.location)

/-- All diagnostics that are filed under `location`, in order. -/
def gather (location : Text) (groups : List Group) : List Diagnostic :=
  (groups.filter (·.location == location)).flatMap (·.diagnostics)

/-- One group more: its diagnostics go to the end of the group of the same path,
or, where there is none, it becomes the last group. -/
def insert (new : Group) : List Group → List Group
  | [] => [new]
  | group :: groups =>
      if group.location = new.location then
        ⟨group.location, group.diagnostics ++ new.diagnostics⟩ :: groups
      else group :: insert new groups

/-- The groups with one group for each path. -/
def aggregate (groups : List Group) : List Group :=
  groups.foldl (fun done group => insert group done) []

end Group

end CompilerFeedback
