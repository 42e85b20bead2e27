import Graft.Diff.Change

/-!
Shortest lists of changes between two lists.

Points pair a place in the old list with one in the new list; a path from the start to the end goes
by single removals, single additions and stretches that both lists have in common. The points that
are reached furthest by a given number of removals and additions, one on each diagonal, make up a
frontier. Frontiers grow from both ends in turn until they meet, and the paths up to the meeting
and on from it are found in the same way.
-/

namespace Graft.Diff

variable {α : Type} [DecidableEq α]

/-- How many items two lists have in common at their start. -/
def commonStart : List α → List α → Nat
  | a :: as, b :: bs => if a = b then commonStart as bs + 1 else 0
  | _, _ => 0

theorem commonStart_le_left (s t : List α) : commonStart s t ≤ s.length := by
  fun_induction commonStart s t <;> simp_all

theorem commonStart_le_right (s t : List α) : commonStart s t ≤ t.length := by
  fun_induction commonStart s t <;> simp_all

/-- What two lists have in common at their start is the same text. -/
theorem take_commonStart (s t : List α) :
    s.take (commonStart s t) = t.take (commonStart s t) := by
  fun_induction commonStart s t <;> simp_all

/-- The places in the old list that `d` changes reach, by diagonals from `d` down to `-d` in steps
of two. On diagonal `k` the place in the new list is less by `k`. -/
abbrev Frontier := List Nat

namespace Frontier

/-- The places reached by one more change: on each diagonal by a removal from the diagonal below it,
or by an addition from the one above it where that reaches further. -/
def next : Frontier → Frontier
  | [] => [0]
  | x :: xs => (x + 1) :: between x xs
where
  between (above : Nat) : Frontier → Frontier
    | [] => [above]
    | below :: rest => (if below < above then above else below + 1) :: between below rest

/-- The place in the new list that goes with a place in the old list, on the diagonal at an index
of a frontier of `d` changes. -/
def newPlace (d index x : Nat) : Nat := x + 2 * index - d

/-- A frontier of `d` changes after the items that follow in both lists. -/
def extend (old new : List α) (d : Nat) (frontier : Frontier) : Frontier :=
  frontier.zipIdx.map fun (x, i) => x + commonStart (old.drop x) (new.drop (newPlace d i x))

/-- The index of the first diagonal on which a frontier of `d` changes meets the frontier that
comes from the other end. The lists have `n` and `m` items. -/
def meeting? (n m d : Nat) (frontier other : Frontier) : Option Nat :=
  frontier.zipIdx.findSome? fun (x, i) =>
    if n + 2 * i + 1 ≤ other.length + d + m then
      match other[(other.length + d + m - n - 2 * i - 1) / 2]? with
      | some y => if n ≤ x + y then some i else none
      | none => none
    else none

end Frontier

open Frontier

/-- The point at which frontiers of `d` and more changes from both ends meet. When the lengths of
the lists differ by an odd number, it is a frontier from the start that meets one of fewer changes;
otherwise it is a frontier from the end. -/
def middle? (old new : List α) : Nat → Nat → Frontier → Frontier → Option (Nat × Nat)
  | 0, _, _, _ => none
  | rounds + 1, d, fromStart, fromEnd =>
    let n := old.length
    let m := new.length
    let odd := (n + m) % 2 = 1
    let places := fromStart.next
    let forward := places.extend old new d
    match if odd then meeting? n m d forward fromEnd else none with
    | some i => (places[i]?).map fun x => (x, newPlace d i x)
    | none =>
      let backward := fromEnd.next.extend old.reverse new.reverse d
      match if odd then none else meeting? n m d backward forward with
      | some i => (backward[i]?).map fun x => (n - x, m - newPlace d i x)
      | none => middle? old new rounds (d + 1) forward backward

/-- A shortest list of changes. Items in common at either end are kept, and what is left is divided
at a point in the middle. -/
def shortest (old new : List α) : List (Change α) :=
  let start := commonStart old new
  let stop := commonStart (old.drop start).reverse (new.drop start).reverse
  let oldRest := (old.drop start).take (old.length - start - stop)
  let newRest := (new.drop start).take (new.length - start - stop)
  let changes :=
    if oldRest.isEmpty ∨ newRest.isEmpty then
      Change.ofLines .removed oldRest ++ Change.ofLines .added newRest
    else
      match middle? oldRest newRest ((oldRest.length + newRest.length + 1) / 2 + 1) 0 [] [] with
      | some (x, y) =>
        if 0 < x + y ∧ x ≤ oldRest.length ∧ y ≤ newRest.length
            ∧ x + y < oldRest.length + newRest.length then
          shortest (oldRest.take x) (newRest.take y) ++ shortest (oldRest.drop x) (newRest.drop y)
        else Change.ofLines .removed oldRest ++ Change.ofLines .added newRest
      | none => Change.ofLines .removed oldRest ++ Change.ofLines .added newRest
  Change.ofLines .kept (old.take start) ++ changes
    ++ Change.ofLines .kept (old.drop (old.length - stop))
termination_by old.length + new.length
decreasing_by
  all_goals
    simp only [List.length_take, List.length_drop, oldRest, newRest] at *
    omega

end Graft.Diff
