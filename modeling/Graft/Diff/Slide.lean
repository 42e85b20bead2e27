import Graft.Diff.Shortest

/-!
The sliding of changes to where they join others.

Lines that are added before or after lines that repeat them can as well be added further up or down.
Each added block goes up as far as it can and then down as far as it can, and on its way it takes in
the added blocks it meets. A removed block only passes added blocks.
-/

namespace Graft.Diff

variable {α : Type} [DecidableEq α]

/-- A block with the changes on either side of it, the nearest first. Those behind it are flipped,
so that their nearest lines come first too. -/
structure Spot (α : Type) where
  behind : List (Change α)
  block : List α
  ahead : List (Change α)

namespace Spot

/-- The same block looked at from the other side. -/
def turn (s : Spot α) : Spot α := ⟨s.ahead, s.block.reverse, s.behind⟩

end Spot

/-- Lines in front of changes, as a part of the first of these when they are of one kind. -/
def push (kind : ChangeKind) (lines : List α) : List (Change α) → List (Change α)
  | [] => Change.ofLines kind lines
  | c :: rest =>
    if c.kind = kind then ⟨kind, lines ++ c.lines⟩ :: rest
    else Change.ofLines kind lines ++ c :: rest

/-- How far a block of a kind slides along kept lines. -/
def slack (kind : ChangeKind) (block kept : List α) : Nat :=
  if kind = .added then commonStart kept block else 0

/-- A block of a kind as far ahead as it goes. -/
def slide (kind : ChangeKind) (behind : List (Change α)) (block : List α) :
    List (Change α) → Spot α
  | [] => ⟨behind, block, []⟩
  | c :: ahead =>
    if c.kind = kind then slide kind behind (block ++ c.lines) ahead
    else if c.kind = .kept then
      let n := slack kind block c.lines
      if 0 < n ∧ n ≤ c.lines.length then
        slide kind (push .kept (block.take n).reverse behind) (block.drop n ++ block.take n)
          (Change.ofLines .kept (c.lines.drop n) ++ ahead)
      else ⟨behind, block, c :: ahead⟩
    else slide kind (c.flip :: behind) block ahead
termination_by ahead => Change.weight ahead
decreasing_by
  · simp only [Change.weight]
    omega
  · have := Change.weight_ofLines_le .kept (c.lines.drop (slack kind block c.lines)) ahead
    simp only [Change.weight, List.length_drop] at *
    omega
  · simp only [Change.weight]
    omega

/-- A block of a kind after it went up and then down. -/
def rest (kind : ChangeKind) (s : Spot α) : Spot α :=
  let up := (slide kind s.ahead s.block.reverse s.behind).turn
  slide kind up.behind up.block up.ahead

/-- Changes from a place on, after each block of a kind came to rest. The number bounds the blocks
and changes that are looked at. -/
def settle (kind : ChangeKind) : Nat → List (Change α) → List (Change α) → List (Change α)
  | 0, before, after => before.reverse.map Change.flip ++ after
  | _, before, [] => before.reverse.map Change.flip
  | rounds + 1, before, c :: after =>
    if c.kind = kind then
      let s := rest kind ⟨before, c.lines, after⟩
      settle kind rounds (⟨kind, s.block.reverse⟩ :: s.behind) s.ahead
    else settle kind rounds (c.flip :: before) after

/-- More than the number of changes that are looked at while all blocks of a kind come to rest: less
than twice the weight of all changes between two blocks that join, of which there are fewer than the
changes. -/
def roundsFor (changes : List (Change α)) : Nat :=
  (changes.length + 1) * (2 * Change.weight changes + 1)

/-- Changes after all removed blocks came to rest, and then all added blocks. -/
def settleAll (changes : List (Change α)) : List (Change α) :=
  let removed := settle .removed (roundsFor changes) [] changes
  settle .added (roundsFor removed) [] removed

/-- Changes with the lines that are removed between two kept lines before those that are added
there. -/
def arrange (removed added : List α) : List (Change α) → List (Change α)
  | [] => Change.ofLines .removed removed ++ Change.ofLines .added added
  | c :: changes =>
    match c.kind with
    | .removed => arrange (removed ++ c.lines) added changes
    | .added => arrange removed (added ++ c.lines) changes
    | .kept =>
      Change.ofLines .removed removed ++ Change.ofLines .added added ++ c :: arrange [] [] changes

/-- The changes between two lists as they are shown. -/
def between (old new : List α) : List (Change α) := arrange [] [] (settleAll (shortest old new))

end Graft.Diff
