/-
# CompilerFeedback.FileSystem -- directories and files

A file system is a table from places to nodes.  A place is the list of names that
lead to it from the root, which is always a directory.  A node is a directory, a file
with its content, or a special file: a device, which gives the same bytes to all who
read it and keeps nothing, or a socket, which cannot be opened.

All that is said of file systems is said of such a table.  So it holds where there are
no symbolic links, where the user may do everything, and where neither space nor memory
runs out; pipes, whose readers wait, are left out.  A relative path is followed from a
working directory that is there.

A path is walked from the root or from the working directory, one name at a time:
every name is looked up in a directory, and `..` leads to the directory above.
The last name of a path may be a new one where something is created; a path that
ends at the root, at the working directory or in `..` names no entry.

Two faults come up before the system is asked: no path with the null character can be
handed to it, and only so many directories can be made at once, one inside the other.

* `FileSystem.read`, `makeDirectory`, `write` and `remove` are the operations.
* `FileSystem.ensureDirectory` makes a directory and those above it.
* `lookup_put` and `lookup_erase` say what the two changes of the table change.
-/
import CompilerFeedback.Path
import CompilerFeedback.Text.Utf8

namespace CompilerFeedback

set_option autoImplicit false

/-- The names that lead from the root to a directory or file. -/
abbrev Place := List Text

/-- What can be found at a place. -/
inductive Node where
  | directory
  | file (content : Bytes)
  /-- A special file that gives `content` whatever is written to it. -/
  | device (content : Bytes)
  /-- A special file that cannot be opened. -/
  | socket
  deriving DecidableEq, Repr

/-- A table of places; an earlier entry hides a later one of the same place. -/
structure FileSystem where
  entries : List (Place × Node)
  deriving Repr

/-- Why an operation is refused. -/
inductive FileSystem.Fault where
  | notFound
  | notDirectory
  | isDirectory
  | alreadyExists
  | nameTooLong
  | noSuchDevice
  /-- A cause of the host that this library does not tell apart. -/
  | other (description : Text)
  /-- The path holds the null character, so the system was not asked. -/
  | nullCharacter
  /-- More directories are missing than can be made at once, so none was made. -/
  | tooDeep
  deriving DecidableEq, Repr

namespace FileSystem

/-- The wording of a fault. -/
def Fault.message : Fault → Text
  | .notFound => "No such file or directory".toList
  | .notDirectory => "Not a directory".toList
  | .isDirectory => "Is a directory".toList
  | .alreadyExists => "File exists".toList
  | .nameTooLong => "File name too long".toList
  | .noSuchDevice => "No such device or address".toList
  | .other description => description
  | .nullCharacter => "embedded null byte".toList
  | .tooDeep => "maximum recursion depth exceeded".toList

/-- Whether it was the system that refused. -/
def Fault.isSystem : Fault → Bool
  | .nullCharacter | .tooDeep => false
  | _ => true

/-! ## The table -/

/-- What is at a place; the root is always there. -/
def lookup (fs : FileSystem) (place : Place) : Option Node :=
  if place = [] then some .directory else fs.entries.lookup place

/-- The file system without an entry for `place`. -/
def erase (fs : FileSystem) (place : Place) : FileSystem :=
  ⟨fs.entries.filter fun entry => entry.1 != place⟩

/-- The file system with `node` at `place`. -/
def put (fs : FileSystem) (place : Place) (node : Node) : FileSystem :=
  ⟨(place, node) :: (fs.erase place).entries⟩

theorem lookup_filter_ne (entries : List (Place × Node)) (place other : Place) :
    (entries.filter fun entry => entry.1 != place).lookup other =
      if other = place then none else entries.lookup other := by
  induction entries with
  | nil => simp
  | cons entry entries ih =>
      obtain ⟨here, node⟩ := entry
      by_cases gone : here = place
      · subst gone
        rw [List.filter_cons_of_neg (by simp), ih]
        by_cases same : other = here
        · simp [same]
        · simp [List.lookup_cons, same, beq_eq_false_iff_ne.mpr same]
      · rw [List.filter_cons_of_pos (by simpa using gone), List.lookup_cons, List.lookup_cons, ih]
        by_cases same : other = here
        · simp [same, gone]
        · simp [beq_eq_false_iff_ne.mpr same]

/-- Erasing an entry leaves every other place alone. -/
theorem lookup_erase (fs : FileSystem) (place other : Place) (below : place ≠ []) :
    (fs.erase place).lookup other = if other = place then none else fs.lookup other := by
  simp only [lookup, erase, lookup_filter_ne]
  split
  · rename_i root; subst root; rw [if_neg (Ne.symm below)]
  · rfl

/-- Putting a node leaves every other place alone. -/
theorem lookup_put (fs : FileSystem) (place other : Place) (node : Node) (below : place ≠ []) :
    (fs.put place node).lookup other = if other = place then some node else fs.lookup other := by
  by_cases same : other = place
  · subst same; simp [lookup, put, below]
  · rw [if_neg same, ← (lookup_erase fs place other below).trans (if_neg same)]
    simp [lookup, put, List.lookup_cons, beq_eq_false_iff_ne.mpr same]

/-! ## Walking -/

/-- Whether something in the file system refuses a name for its length: names have at
most 255 bytes. -/
def isLongName (name : Text) : Bool := 255 < (Text.Utf8.encode name).length

/-- Whether a path is refused for its length: written paths have at most 4095 bytes. -/
def isLongPath (p : Path) : Bool := 4095 < (Text.Utf8.encode p.render).length

/-- Whether some name holds the null character. -/
def hasNull (names : List Text) : Bool := names.any (·.contains '\x00')

/-- Refuses a path as it is written. -/
def accept (p : Path) : Except Fault Unit :=
  if hasNull p.names then .error .nullCharacter
  else if isLongPath p then .error .nameTooLong
  else .ok ()

/-- Where the walk along a path begins. -/
def origin (working : Place) (p : Path) : Place :=
  if p.root = .relative then working else []

/-- Refuses a place that is no directory. -/
def enter (fs : FileSystem) (place : Place) : Except Fault Unit :=
  match fs.lookup place with
  | some .directory => .ok ()
  | some _ => .error .notDirectory
  | none => .error .notFound

/-- The place that a name leads to from a directory; it need not be there. -/
def child (fs : FileSystem) (place : Place) (name : Text) : Except Fault Place := do
  fs.enter place
  if name = Path.up then return place.dropLast
  if isLongName name then throw .nameTooLong
  return place ++ [name]

/-- The place that a name leads to, which must be there. -/
def step (fs : FileSystem) (place : Place) (name : Text) : Except Fault Place := do
  let next ← fs.child place name
  if (fs.lookup next).isSome then return next else throw .notFound

/-- The place that names lead to, one after the other. -/
def walk (fs : FileSystem) (place : Place) (names : List Text) : Except Fault Place :=
  names.foldlM fs.step place

/-- The node that a path leads to. -/
def find (fs : FileSystem) (working : Place) (p : Path) : Except Fault Node := do
  accept p
  let place ← fs.walk (origin working p) p.names
  match fs.lookup place with
  | some node => return node
  | none => throw .notFound

/-- The place that a path names in its directory; `none` for a path without a last
name of its own.  What the path names need not be there, its directory must. -/
def target (fs : FileSystem) (working : Place) (p : Path) : Except Fault (Option Place) := do
  accept p
  match p.names.getLast? with
  | none => return none
  | some last =>
      let directory ← fs.walk (origin working p) p.names.dropLast
      let place ← fs.child directory last
      return if last = Path.up then none else some place

/-! ## Operations -/

/-- Whether a path leads to a directory. -/
def isDirectory (fs : FileSystem) (working : Place) (p : Path) : Bool :=
  match fs.find working p with
  | .ok .directory => true
  | _ => false

/-- What is read from a node. -/
def contentOf : Node → Except Fault Bytes
  | .file content | .device content => .ok content
  | .directory => .error .isDirectory
  | .socket => .error .noSuchDevice

/-- The content of the file that a path leads to. -/
def read (fs : FileSystem) (working : Place) (p : Path) : Except Fault Bytes := do
  contentOf (← fs.find working p)

/-- Makes a directory in a directory that is there. -/
def makeDirectory (fs : FileSystem) (working : Place) (p : Path) : Except Fault FileSystem := do
  match ← fs.target working p with
  | none => throw .alreadyExists
  | some place =>
      if (fs.lookup place).isSome then throw .alreadyExists
      return fs.put place .directory

/-- What stands where `content` was written: a file with it, whether or not there was one
before; a device stays as it is. -/
def overwrite (content : Bytes) : Option Node → Except Fault Node
  | none | some (.file _) => .ok (.file content)
  | some (.device given) => .ok (.device given)
  | some .directory => .error .isDirectory
  | some .socket => .error .noSuchDevice

/-- Gives a file its content; a file that is not there is created. -/
def write (fs : FileSystem) (working : Place) (p : Path) (content : Bytes) :
    Except Fault FileSystem := do
  match ← fs.target working p with
  | none => throw .isDirectory
  | some place => return fs.put place (← overwrite content (fs.lookup place))

/-- Removes a file of any kind. -/
def remove (fs : FileSystem) (working : Place) (p : Path) : Except Fault FileSystem := do
  match ← fs.target working p with
  | none => throw .isDirectory
  | some place =>
      match fs.lookup place with
      | none => throw .notFound
      | some .directory => throw .isDirectory
      | some _ => return fs.erase place

/-- Makes a directory unless it is there. -/
def allowDirectory (fs : FileSystem) (working : Place) (p : Path) : Except Fault FileSystem :=
  match fs.makeDirectory working p with
  | .ok made => .ok made
  | .error .notFound => .error .notFound
  | .error fault => if fs.isDirectory working p then .ok fs else .error fault

/-- Makes the directory with the given names, the last one first, and those above it, at
most `levels` of them.  A directory that was made stays even if a later one is refused. -/
def ensureNames (fs : FileSystem) (working : Place) (root : Path.Root) (levels : Nat) :
    List Text → FileSystem × Option Fault
  | [] =>
      match fs.allowDirectory working ⟨root, []⟩ with
      | .ok made => (made, none)
      | .error fault => (fs, some fault)
  | name :: above =>
      let path : Path := ⟨root, (name :: above).reverse⟩
      match fs.allowDirectory working path with
      | .ok made => (made, none)
      | .error .notFound =>
          if levels = 0 then (fs, some .tooDeep)
          else
            match ensureNames fs working root (levels - 1) above with
            | (made, some fault) => (made, some fault)
            | (made, none) =>
                match made.allowDirectory working path with
                | .ok made => (made, none)
                | .error fault => (made, some fault)
      | .error fault => (fs, some fault)

/-- Makes a directory and those above it, as far as they are not there, at most `levels`
of those above. -/
def ensureDirectory (fs : FileSystem) (working : Place) (levels : Nat) (p : Path) :
    FileSystem × Option Fault :=
  fs.ensureNames working p.root levels p.names.reverse

/-- Gives a file its content, in a directory that is made for it if need be. -/
def writeAnywhere (fs : FileSystem) (working : Place) (levels : Nat) (p : Path) (content : Bytes) :
    FileSystem × Option Fault :=
  match fs.ensureDirectory working levels p.parent with
  | (made, some fault) => (made, some fault)
  | (made, none) =>
      match made.write working p content with
      | .ok written => (written, none)
      | .error fault => (made, some fault)

end FileSystem

end CompilerFeedback
