import Graft.Diff

/-! The changes between two lists tell both lists apart: no line is lost and none is made up while
the changes are found, slide along each other, and are put in order. -/

namespace Graft

namespace Change

variable {α : Type} {kind without : ChangeKind} {lines : List α} {c : Change α}
  {changes later : List (Change α)}

/-- The lines of changes but for those of one kind. The old list is without added lines and the new
list without removed ones. -/
def linesBut (without : ChangeKind) (changes : List (Change α)) : List α :=
  changes.flatMap fun c => if c.kind = without then [] else c.lines

theorem old_eq (changes : List (Change α)) : old changes = linesBut .added changes := rfl

theorem new_eq (changes : List (Change α)) : new changes = linesBut .removed changes := rfl

@[simp] theorem linesBut_nil : linesBut without ([] : List (Change α)) = [] := rfl

@[simp] theorem linesBut_cons : linesBut without (c :: changes) =
    (if c.kind = without then [] else c.lines) ++ linesBut without changes := rfl

@[simp] theorem linesBut_append : linesBut without (changes ++ later) =
    linesBut without changes ++ linesBut without later :=
  List.flatMap_append

@[simp] theorem linesBut_ofLines : linesBut without (ofLines kind lines) =
    if kind = without then [] else lines := by
  unfold ofLines
  split
  · next hnil => simp [List.isEmpty_iff.mp hnil]
  · simp

/-- Changes from the last to the first, each with its lines from the last to the first. -/
def flipAll (changes : List (Change α)) : List (Change α) := changes.reverse.map flip

@[simp] theorem linesBut_flipAll :
    linesBut without (flipAll changes) = (linesBut without changes).reverse := by
  unfold flipAll
  induction changes with
  | nil => rfl
  | cons c changes ih =>
    rw [List.reverse_cons, List.map_append, linesBut_append, ih, linesBut_cons,
      List.reverse_append]
    congr 1
    simp only [List.map_cons, List.map_nil, linesBut_cons, linesBut_nil, List.append_nil, flip]
    split <;> simp

@[simp] theorem flipAll_flipAll : flipAll (flipAll changes) = changes := by
  have hflip : flip ∘ flip = (id : Change α → Change α) := funext flip_flip
  simp [flipAll, ← List.map_reverse, hflip]

@[simp] theorem flipAll_cons : flipAll (c :: changes) = flipAll changes ++ [c.flip] := by
  simp [flipAll]

theorem flipAll_append : flipAll (changes ++ later) = flipAll later ++ flipAll changes := by
  simp [flipAll]

end Change

namespace Diff

open Change

variable {α : Type} {kind without : ChangeKind} {old new : List α}

/-! ### Blocks and what is around them -/

theorem linesBut_push (lines : List α) (changes : List (Change α)) :
    linesBut without (push kind lines changes) =
      (if kind = without then [] else lines) ++ linesBut without changes := by
  cases changes with
  | nil => simp [push]
  | cons c rest =>
    unfold push
    dsimp only
    by_cases hkind : c.kind = kind
    · rw [if_pos hkind, linesBut_cons, linesBut_cons, hkind]
      split <;> simp
    · rw [if_neg hkind, linesBut_append, linesBut_ofLines]

/-- The changes that a block of a kind stands among, with the block. -/
def Spot.changes (kind : ChangeKind) (s : Spot α) : List (Change α) :=
  flipAll s.behind ++ ⟨kind, s.block⟩ :: s.ahead

theorem Spot.changes_turn (s : Spot α) : s.turn.changes kind = flipAll (s.changes kind) := by
  rw [changes, changes, flipAll_append, flipAll_flipAll, flipAll_cons]
  simp [turn, Change.flip]

/-! ### Changes in order -/

theorem linesBut_arrange (hwithout : without ≠ .kept) (removed added : List α)
    (changes : List (Change α)) : linesBut without (arrange removed added changes) =
      linesBut without (⟨.removed, removed⟩ :: ⟨.added, added⟩ :: changes) := by
  fun_induction arrange removed added changes with
  | case1 removed added => simp
  | case2 removed added c changes hc ih =>
    rw [ih]
    cases without <;> simp_all
  | case3 removed added c changes hc ih =>
    rw [ih]
    cases without <;> simp_all
  | case4 removed added c changes hc ih =>
    simp [ih, hc]

/-! ### Shortest changes -/

/-- Changes tell two lists apart: they hold the lines of both. -/
structure Tells (changes : List (Change α)) (old new : List α) : Prop where
  old : Change.old changes = old
  new : Change.new changes = new

namespace Tells

variable {changes later : List (Change α)} {old' new' : List α}

theorem append (h : Tells changes old new) (h' : Tells later old' new') :
    Tells (changes ++ later) (old ++ old') (new ++ new') := by
  constructor
  · rw [old_eq, linesBut_append, ← old_eq, ← old_eq, h.old, h'.old]
  · rw [new_eq, linesBut_append, ← new_eq, ← new_eq, h.new, h'.new]

theorem kept (lines : List α) : Tells (ofLines .kept lines) lines lines := by
  constructor
  · simp [old_eq]
  · simp [new_eq]

theorem replaced (old new : List α) :
    Tells (ofLines .removed old ++ ofLines .added new) old new := by
  constructor
  · simp [old_eq]
  · simp [new_eq]

end Tells

/-- A list is its start, its end and what is between them. -/
theorem take_append_take_append_drop {start stop : Nat} (h : start + stop ≤ old.length) :
    old.take start ++ (old.drop start).take (old.length - start - stop) ++
      old.drop (old.length - stop) = old := by
  have hdrop : old.drop (old.length - stop) =
      (old.drop start).drop (old.length - start - stop) := by
    rw [List.drop_drop]
    congr 1
    omega
  rw [hdrop, List.append_assoc, List.take_append_drop, List.take_append_drop]

variable [DecidableEq α]

/-- What two lists have in common at their ends is the same text. -/
theorem drop_commonStart_reverse (s t : List α) :
    s.drop (s.length - commonStart s.reverse t.reverse) =
      t.drop (t.length - commonStart s.reverse t.reverse) := by
  have hsame := take_commonStart s.reverse t.reverse
  rw [List.take_reverse, List.take_reverse] at hsame
  exact List.reverse_inj.mp hsame

/-- What lists have in common at both ends is kept around the changes of what is between. -/
theorem Tells.between {changes : List (Change α)} {start stop : Nat}
    (hstart : start = commonStart old new)
    (hstop : stop = commonStart (old.drop start).reverse (new.drop start).reverse)
    (h : Tells changes ((old.drop start).take (old.length - start - stop))
      ((new.drop start).take (new.length - start - stop))) :
    Tells (ofLines .kept (old.take start) ++ changes ++
      ofLines .kept (old.drop (old.length - stop))) old new := by
  have hlefts : start + stop ≤ old.length := by
    have h1 := commonStart_le_left old new
    have h2 := commonStart_le_left (old.drop start).reverse (new.drop start).reverse
    rw [List.length_reverse, List.length_drop] at h2
    omega
  have hrights : start + stop ≤ new.length := by
    have h1 := commonStart_le_right old new
    have h2 := commonStart_le_right (old.drop start).reverse (new.drop start).reverse
    rw [List.length_reverse, List.length_drop] at h2
    omega
  have hends : old.drop (old.length - stop) = new.drop (new.length - stop) := by
    have hsame := drop_commonStart_reverse (old.drop start) (new.drop start)
    rw [← hstop, List.drop_drop, List.drop_drop, List.length_drop, List.length_drop] at hsame
    rwa [show old.length - stop = start + (old.length - start - stop) by omega,
      show new.length - stop = start + (new.length - start - stop) by omega]
  have hnew : old.take start ++ (new.drop start).take (new.length - start - stop) ++
      old.drop (old.length - stop) = new := by
    rw [hends, hstart, take_commonStart old new, ← hstart, take_append_take_append_drop hrights]
  have htells := ((Tells.kept (old.take start)).append h).append
    (Tells.kept (old.drop (old.length - stop)))
  rwa [take_append_take_append_drop hlefts, hnew] at htells

theorem tells_shortest (old new : List α) : Tells (shortest old new) old new := by
  fun_induction shortest old new with
  | case1 old new start stop oldRest newRest changes ihBefore ihAfter =>
    refine Tells.between rfl rfl (show Tells changes oldRest newRest from ?_)
    unfold changes
    split
    · exact .replaced oldRest newRest
    · split
      · next x y _ =>
        split
        · next h =>
          have htells := (ihBefore x y h).append (ihAfter x y h)
          rwa [List.take_append_drop, List.take_append_drop] at htells
        · exact .replaced oldRest newRest
      · exact .replaced oldRest newRest

/-! ### Sliding changes -/

/-- A block that slides changes neither list: what it passes in kept lines it repeats, and what it
passes else is in the other list. -/
theorem linesBut_slide (hkind : kind ≠ .kept) (hwithout : without ≠ .kept)
    (behind : List (Change α)) (block : List α) (ahead : List (Change α)) :
    linesBut without ((slide kind behind block ahead).changes kind) =
      linesBut without (Spot.changes kind ⟨behind, block, ahead⟩) := by
  fun_induction slide kind behind block ahead with
  | case1 behind block => rfl
  | case2 behind block c ahead hc ih =>
    rw [ih]
    simp only [Spot.changes, linesBut_append, linesBut_cons, hc]
    split <;> simp
  | case3 behind block c ahead hc hkept n hn ih =>
    have hadded : kind = .added := by
      refine Decidable.byContradiction fun hnot => ?_
      simp [n, slack, hnot] at hn
    have hlines : c.lines = block.take n ++ c.lines.drop n := by
      have hsame : c.lines.take n = block.take n := by
        simp only [n, slack, hadded, if_true]
        exact take_commonStart c.lines block
      rw [← hsame, List.take_append_drop]
    rw [ih]
    simp only [Spot.changes, linesBut_append, linesBut_flipAll, linesBut_push, linesBut_cons,
      linesBut_ofLines, hkept, hadded]
    cases without with
    | kept => exact absurd rfl hwithout
    | removed =>
      conv => rhs; rw [hlines]
      simp [← List.append_assoc (block.take n) (block.drop n)]
    | added =>
      conv => rhs; rw [hlines]
      simp
  | case4 behind block c ahead hc hkept n hn => rfl
  | case5 behind block c ahead hc hkept ih =>
    rw [ih]
    simp only [Spot.changes, linesBut_append, linesBut_flipAll, linesBut_cons, Change.flip]
    cases kind <;> cases hother : c.kind <;> cases without <;> simp_all

theorem linesBut_rest (hkind : kind ≠ .kept) (hwithout : without ≠ .kept) (s : Spot α) :
    linesBut without ((rest kind s).changes kind) = linesBut without (s.changes kind) := by
  rw [rest, linesBut_slide hkind hwithout]
  change linesBut without ((slide kind s.ahead s.block.reverse s.behind).turn.changes kind) = _
  rw [Spot.changes_turn, linesBut_flipAll, linesBut_slide hkind hwithout]
  change (linesBut without (s.turn.changes kind)).reverse = _
  rw [Spot.changes_turn, linesBut_flipAll, List.reverse_reverse]

/-- Also where the rounds run out, no line is lost. -/
theorem linesBut_settle (hkind : kind ≠ .kept) (hwithout : without ≠ .kept) (rounds : Nat)
    (before after : List (Change α)) : linesBut without (settle kind rounds before after) =
      linesBut without (flipAll before ++ after) := by
  fun_induction settle kind rounds before after with
  | case1 before after => rfl
  | case2 rounds before => rw [List.append_nil]; rfl
  | case3 rounds before c after hc s ih =>
    have hspot : flipAll (⟨kind, s.block.reverse⟩ :: s.behind) ++ s.ahead = s.changes kind := by
      simp [Spot.changes, Change.flip]
    have hchange : flipAll before ++ c :: after = Spot.changes kind ⟨before, c.lines, after⟩ := by
      rw [Spot.changes, ← hc]
    rw [ih, hspot, hchange]
    exact linesBut_rest hkind hwithout _
  | case4 rounds before c after hc ih =>
    rw [ih]
    simp

theorem linesBut_settleAll (hwithout : without ≠ .kept) (changes : List (Change α)) :
    linesBut without (settleAll changes) = linesBut without changes := by
  rw [settleAll, linesBut_settle (by decide) hwithout]
  exact linesBut_settle (by decide) hwithout _ [] changes

/-! ### Changes as they are shown -/

/-- The changes between two lists hold the lines of both, in their order: the old list is what is
kept or removed and the new one what is kept or added. -/
theorem tells_between (old new : List α) : Tells (between old new) old new := by
  have hlines : ∀ without ≠ .kept, linesBut without (between old new) =
      linesBut without (shortest old new) := by
    intro without hwithout
    rw [between, linesBut_arrange hwithout, linesBut_cons, linesBut_cons,
      linesBut_settleAll hwithout]
    simp
  have htells := tells_shortest old new
  exact ⟨(hlines .added (by decide)).trans htells.old,
    (hlines .removed (by decide)).trans htells.new⟩

/-- The lines that a comparison shows make up both texts. -/
theorem flatten_between (old new : Text) :
    (Change.old (between (linesOf old) (linesOf new))).flatten = old ∧
      (Change.new (between (linesOf old) (linesOf new))).flatten = new := by
  have htells := tells_between (linesOf old) (linesOf new)
  rw [htells.old, htells.new]
  exact ⟨flatten_linesOf old, flatten_linesOf new⟩

end Diff

end Graft
