/-
# CompilerFeedback.Host -- paths as the user writes them

A path that the user gives may begin at a home directory: `~` is the user's own,
`~name` the one of the account `name`.  It is then read from the working
directory and collapsed, so that it names a file from the root.

* `Host.expand` writes the home directory out, `Host.absolute` the working directory.
* `Host.Obstacle` lists why that can fail.
-/
import CompilerFeedback.FileSystem

namespace CompilerFeedback

set_option autoImplicit false

/-- What is known about the surroundings of the program. -/
structure Host where
  /-- The working directory. -/
  working : Place
  /-- Whether the working directory was removed since it was entered. -/
  workingGone : Bool
  /-- The home directory of the user. -/
  home : Option Text
  /-- The home directories of the accounts, by name. -/
  accounts : List (Text × Text)
  /-- How many missing directories can be made above the one that is asked for. -/
  levels : Nat
  deriving Repr

namespace Host

/-- Why a path that is written stands for no path from the root. -/
inductive Obstacle where
  /-- The path begins at a home directory that is not known. -/
  | unknownHome
  /-- The path is relative, and the working directory was removed. -/
  | noWorkingDirectory
  /-- The path holds the null character. -/
  | nullCharacter
  deriving DecidableEq, Repr

/-- The wording of an obstacle. -/
def Obstacle.message : Obstacle → Text
  | .unknownHome => "Could not determine home directory.".toList
  | .noWorkingDirectory => FileSystem.Fault.notFound.message
  | .nullCharacter => FileSystem.Fault.nullCharacter.message

/-- The home directory that a first name stands for; `none` if it stands for none, also
because its home directory begins with `~` once more. -/
def homeOf? (host : Host) (account : Text) : Option Text :=
  (if account = [] then host.home else host.accounts.lookup account).filter (·.head? != some '~')

/-- A home directory as a path; nothing but slashes is the root. -/
def homePath (home : Text) : Path :=
  if home.all (· == '/') then ⟨.absolute, []⟩ else Path.ofText home

/-- The path with its home directory written out. -/
def expand (host : Host) (p : Path) : Except Obstacle Path :=
  match p.root, p.names with
  | .relative, ('~' :: account) :: names =>
      if account.contains '\x00' then .error .nullCharacter
      else
        match host.homeOf? account with
        | some home => .ok ((homePath home).append ⟨.relative, names⟩)
        | none => .error .unknownHome
  | _, _ => .ok p

/-- The names that lead from the root to what a path leads to. -/
def namesFromRoot (host : Host) (p : Path) : List Text :=
  if p.root = .relative then host.working ++ p.names else p.names

/-- The path from the root, without `..`. -/
def absolute (host : Host) (p : Path) : Except Obstacle Path :=
  if FileSystem.hasNull (host.namesFromRoot p) then .error .nullCharacter
  else if p.root = .relative ∧ host.workingGone then .error .noWorkingDirectory
  else .ok (Path.collapse ⟨.absolute, host.namesFromRoot p⟩)

end Host

end CompilerFeedback
