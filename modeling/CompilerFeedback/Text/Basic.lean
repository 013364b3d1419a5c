/-
# CompilerFeedback.Text.Basic -- text as a list of characters

Every length, offset and indentation of this library counts characters, so text
is the list of its characters and all operations on it are list operations.  A
character is a Unicode scalar value.  A text can always be written in UTF-8, and
half of a surrogate pair is no part of any text.

* `Text.before` and `Text.after?` are the two sides of the first occurrence of a
  character; `before_append_after` puts them back together.
* `Text.hasPart` and `Text.startsWith` ask for a contiguous part.
-/
namespace CompilerFeedback

set_option autoImplicit false

/-- Text is the list of its characters. -/
abbrev Text := List Char

namespace Text

/-! ## Parts of a text -/

/-- The text up to the first `mark`, or all of it where there is none. -/
def before (mark : Char) (t : Text) : Text := t.takeWhile (· != mark)

/-- The text after the first `mark`; `none` where there is none. -/
def after? (mark : Char) (t : Text) : Option Text :=
  match t.dropWhile (· != mark) with
  | [] => none
  | _ :: rest => some rest

/-- Whether `part` occurs in `t` as contiguous characters. -/
def hasPart (part : Text) : Text → Bool
  | [] => part.isEmpty
  | c :: t => part.isPrefixOf (c :: t) || hasPart part t

/-- Whether `t` begins with `opening`. -/
def startsWith (opening t : Text) : Bool := opening.isPrefixOf t

/-- ASCII capitals become small letters; every other character stays. -/
def lower (t : Text) : Text := t.map Char.toLower

theorem head_dropWhile_ne {mark c : Char} {t rest : Text}
    (cut : t.dropWhile (· != mark) = c :: rest) : c = mark := by
  induction t with
  | nil => simp at cut
  | cons d t ih =>
      simp only [List.dropWhile_cons] at cut
      split at cut
      · exact ih cut
      · rename_i same
        simp only [List.cons.injEq] at cut
        simpa [cut.1] using same

/-- A text that holds `mark` is what precedes it, the mark, and what follows it. -/
theorem before_append_after {mark : Char} {t rest : Text} (found : after? mark t = some rest) :
    before mark t ++ mark :: rest = t := by
  unfold after? at found
  split at found
  · exact absurd found (by simp)
  · rename_i c tail cut
    have glue := List.takeWhile_append_dropWhile (p := (· != mark)) (l := t)
    rw [cut, head_dropWhile_ne cut] at glue
    cases found
    exact glue

/-! ## Joining -/

/-- The pieces in order, `separator` between every two neighbours. -/
def join (separator : Text) (pieces : List Text) : Text := separator.intercalate pieces

end Text

end CompilerFeedback
