/-!
Changes between two lists of lines.

A list of changes tells both lists apart: `Change.old` keeps what the first list holds and
`Change.new` what the second one does.
-/

namespace Graft

/-- Whether lines are in both lists, in the old one only, or in the new one only. -/
inductive ChangeKind
  | kept
  | removed
  | added
  deriving DecidableEq, Repr

/-- Lines that follow one another and are all of one kind. -/
structure Change (α : Type) where
  kind : ChangeKind
  lines : List α
  deriving DecidableEq, Repr

namespace Change

variable {α : Type}

/-- A change with its lines from last to first. -/
def flip (c : Change α) : Change α := { c with lines := c.lines.reverse }

@[simp] theorem flip_flip (c : Change α) : c.flip.flip = c := by
  cases c
  simp [flip]

/-- The change of lines, none where there are no lines. -/
def ofLines (kind : ChangeKind) (lines : List α) : List (Change α) :=
  if lines.isEmpty then [] else [⟨kind, lines⟩]

/-- The number of all lines and of the changes they are in. -/
def weight : List (Change α) → Nat
  | [] => 0
  | c :: changes => c.lines.length + 1 + weight changes

theorem weight_ofLines_le (kind : ChangeKind) (lines : List α) (changes : List (Change α)) :
    weight (ofLines kind lines ++ changes) ≤ lines.length + 1 + weight changes := by
  unfold ofLines
  split
  · simp only [List.nil_append]
    omega
  · simp [weight]

/-- The lines of the old list. -/
def old (changes : List (Change α)) : List α :=
  changes.flatMap fun c => if c.kind = .added then [] else c.lines

/-- The lines of the new list. -/
def new (changes : List (Change α)) : List α :=
  changes.flatMap fun c => if c.kind = .removed then [] else c.lines

end Change

end Graft
