/-
# CompilerFeedback.Path -- file paths

A path is where it starts and the names it goes through.  It starts at the
working directory, at the root, or at a root that is written with exactly two
slashes, which is kept apart from the plain root.  Empty components and `.` are
no names; `..` is a name until the path is collapsed.

* `Path.collapse` resolves `..` against the name before it.  A rooted path drops
  a `..` at its root; a relative path keeps those it begins with.
* `Path.resolve` is the text of the file that a written path means when it is
  read in some directory.
-/
import CompilerFeedback.Text.Basic

namespace CompilerFeedback

set_option autoImplicit false

/-- Where a path starts. -/
inductive Path.Root where
  | relative
  | absolute
  | doubled
  deriving DecidableEq, Repr

/-- A start and the names gone through from there. -/
structure Path where
  root : Path.Root
  names : List Text
  deriving DecidableEq, Repr

namespace Path

/-! ## Reading and writing -/

/-- Two leading slashes are a root of their own, one or more than two the root. -/
def Root.ofText (t : Text) : Root :=
  match (t.takeWhile (· == '/')).length with
  | 0 => .relative
  | 2 => .doubled
  | _ => .absolute

/-- The leading slashes of a start. -/
def Root.render : Root → Text
  | .relative => []
  | .absolute => ['/']
  | .doubled => ['/', '/']

/-- Whether a component between two slashes is a name. -/
def isName (component : Text) : Bool := component != [] && component != ['.']

/-- The name of the directory above. -/
def up : Text := ['.', '.']

/-- The path that is written as `t`. -/
def ofText (t : Text) : Path := ⟨.ofText t, (t.splitOn '/').filter isName⟩

/-- The written form of a path; `.` for the path that goes nowhere. -/
def render (p : Path) : Text :=
  match p.root.render ++ Text.join ['/'] p.names with
  | [] => ['.']
  | t => t

/-- Whether a written path starts at a root. -/
def isRooted (t : Text) : Bool := Text.startsWith ['/'] t

/-! ## Going on from a path -/

/-- The path `q` read from `p`: a rooted one starts anew. -/
def append (p q : Path) : Path :=
  match q.root with
  | .relative => ⟨p.root, p.names ++ q.names⟩
  | _ => q

/-- The last name; empty where there is none. -/
def name (p : Path) : Text := p.names.getLast?.getD []

/-- The path without its last name. -/
def parent (p : Path) : Path := ⟨p.root, p.names.dropLast⟩

/-! ## Going up -/

/-- One name more on a stack of names, the last one on top. -/
def push (root : Root) (stack : List Text) (name : Text) : List Text :=
  if name = up then
    match stack with
    | [] => if root = .relative then [up] else []
    | top :: below => if top = up then up :: top :: below else below
  else name :: stack

/-- The path with every `..` resolved against the name before it. -/
def collapse (p : Path) : Path := ⟨p.root, (p.names.foldl (push p.root) []).reverse⟩

/-- The written form of the collapsed path. -/
def normalize (t : Text) : Text := (ofText t).collapse.render

/-- The written path `raw` behind the written path `base`. -/
def join (base raw : Text) : Text :=
  if isRooted raw then raw
  else if base = [] ∨ base.getLast? = some '/' then base ++ raw
  else base ++ '/' :: raw

/-- The file that `raw` means in the directory `base`.  A rooted path is the file's
name as it stands; any other is joined to the directory and collapsed. -/
def resolve (base raw : Text) : Text := if isRooted raw then raw else normalize (join base raw)

end Path

end CompilerFeedback
