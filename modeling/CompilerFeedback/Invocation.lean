/-
# CompilerFeedback.Invocation -- running the feedback tool

The feedback tool is run with one argument more, which names its output file.
On Windows the whole command goes to the command interpreter, told to keep its
window open; elsewhere the command is cut into words.
-/
import CompilerFeedback.Settings
import CompilerFeedback.ShellWords

namespace CompilerFeedback.Invocation

set_option autoImplicit false

/-- The kinds of hosts. -/
inductive Platform where
  | posix
  | windows
  deriving DecidableEq, Repr

/-- The argument that names the output file. -/
def outputFlag (outputPath : Text) : Text := "--outputfile=".toList ++ outputPath

/-- The arguments that run `command` with its output going to `outputPath`; the first
names the program. -/
def arguments (platform : Platform) (command outputPath : Text) :
    Except ShellWords.Fault (List Text) :=
  match platform with
  | .windows =>
      .ok ["cmd.exe".toList, "/k".toList, command ++ ' ' :: outputFlag outputPath]
  | .posix => (ShellWords.split command).map (· ++ [outputFlag outputPath])

/-- The arguments that run the feedback tool of the settings, unless another command
is given. -/
def feedback (settings : Settings) (command : Option Text) (platform : Platform)
    (outputPath : Text) : Except ShellWords.Fault (List Text) :=
  arguments platform (command.getD settings.command) outputPath

end CompilerFeedback.Invocation
