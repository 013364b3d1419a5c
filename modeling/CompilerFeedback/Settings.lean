/-
# CompilerFeedback.Settings -- how the feedback tool is run and where it writes

The settings name the command of the feedback tool and the parts of the name of
its output file: what stands before and behind the digest of the workspace, and
how much of the digest is kept.
-/
import CompilerFeedback.Text.Basic

namespace CompilerFeedback

set_option autoImplicit false

/-- The part of a text up to a length; a negative length counts from the end. -/
def Text.upTo (length : Int) (t : Text) : Text :=
  t.take (if 0 ≤ length then length else t.length + length).toNat

/-- The settings. -/
structure Settings where
  /-- The feedback tool; arguments may follow its name. -/
  command : Text
  outputPrefix : Text
  outputSuffix : Text
  /-- How many digits of the digest are kept; negative: how many are left out. -/
  hashLength : Int
  deriving DecidableEq, Repr

/-- The settings where nothing else is said. -/
def Settings.standard : Settings := ⟨"ghcid".toList, "ghcid-".toList, ".txt".toList, 20⟩

end CompilerFeedback
