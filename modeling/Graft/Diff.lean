import Graft.Diff.Slide
import Graft.Text

/-!
Comparisons of texts line by line.

Every line is shown with a mark that says which of the texts it is in.
-/

namespace Graft.Diff

open Text

/-- Whether a character ends a line. -/
def isLineEnd (c : Char) : Bool := c = '\n' || c = '\r'

/-- The lines of a text with their ends: a line feed, a carriage return, or both in the order in
which the latter comes first. -/
def linesOf : Text → List Text
  | [] => []
  | '\r' :: '\n' :: rest => ['\r', '\n'] :: linesOf rest
  | c :: rest =>
    if isLineEnd c then [c] :: linesOf rest
    else
      match linesOf rest with
      | [] => [[c]]
      | line :: lines => (c :: line) :: lines

/-- Nothing is lost in the lines of a text. -/
theorem flatten_linesOf (t : Text) : (linesOf t).flatten = t := by
  fun_induction linesOf t <;> simp_all

/-- The mark of lines of a kind. -/
def mark : ChangeKind → Char
  | .kept => ' '
  | .removed => '-'
  | .added => '+'

/-- A line with its end, also where the text ends without one. -/
def ended (line : Text) : Text := if line.getLast?.any isLineEnd then line else line ++ ['\n']

/-- The lines of changes with their marks. -/
def render (changes : List (Change Text)) : Text :=
  changes.flatMap fun c => c.lines.flatMap fun line => mark c.kind :: ended line

/-- The comparison of two texts. -/
def ofTexts (old new : Text) : Text := render (between (linesOf old) (linesOf new))

end Graft.Diff
