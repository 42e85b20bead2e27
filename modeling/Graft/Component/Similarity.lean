import Graft.Text.Uppercase

/-!
How alike two names are, and the most alike of a list.

Two names are compared by the number of characters to insert, delete or replace to get from one to
the other, in proportion to the length of the longer one.
-/

namespace Graft

open Text

/-- The row of distances that follows a row when one more character is taken of the first text: the
entries are the distances to the beginnings of the second text. -/
def nextDistances (c : Char) : Nat → List Nat → Text → List Nat
  | left, above :: rest, d :: ds =>
    match rest with
    | [] => []
    | next :: _ =>
      let here := min (min (left + 1) (next + 1)) (above + if c = d then 0 else 1)
      here :: nextDistances c here rest ds
  | _, _, _ => []

/-- The least number of insertions, deletions and replacements that turn one text into another. -/
def editDistance (s t : Text) : Nat :=
  let step (row : List Nat) (c : Char) : List Nat :=
    let first := row.headD 0 + 1
    first :: nextDistances c first row t
  (s.foldl step (List.range (t.length + 1))).getLastD 0

/-- How much two texts differ: a distance in proportion to a length. -/
structure Difference where
  distance : Nat
  length : Nat
  deriving DecidableEq, Repr

namespace Difference

def between (s t : Text) : Difference := ⟨editDistance s t, max (max s.length t.length) 1⟩

/-- Whether a difference is at most as great as another. -/
def le (a b : Difference) : Bool := a.distance * b.length ≤ b.distance * a.length

/-- Whether two names are alike enough for one to be suggested for the other: at most two fifths of
the longer one differ. -/
def isClose (a : Difference) : Bool := 5 * a.distance ≤ 2 * a.length

end Difference

/-- The difference of a candidate from a name, as it stands or in its other spelling. -/
def nameDifference (name candidate : Text) : Difference :=
  let asWritten := Difference.between name candidate
  let respelled := Difference.between (pascalCase name) candidate
  if asWritten.le respelled then asWritten else respelled

/-- The candidate that differs least from a name, if it is alike enough; of several, the last. -/
def closestName? (name : Text) (candidates : List Text) : Option Text :=
  let best := candidates.foldl (fun best candidate =>
    let difference := nameDifference name candidate
    match best with
    | none => if difference.isClose then some (difference, candidate) else none
    | some (least, _) => if difference.le least then some (difference, candidate) else best) none
  best.map (·.2)

end Graft
