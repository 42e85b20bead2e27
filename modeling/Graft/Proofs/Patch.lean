import Graft.Edit
import Mathlib.Data.List.Induction
import Mathlib.Data.List.Nodup

/-! Patches: a text cut into parts that are kept and parts that are replaced. The edits of a patch,
applied as a batch, replace exactly these parts. -/

namespace Graft

open Text

/-- A part of a text: kept, or replaced where it is expected. -/
inductive Piece
  | keep (text : Text)
  | change (old new : Text) (expected : Expectation)

namespace Piece

def old : Piece → Text
  | .keep text => text
  | .change old _ _ => old

def new : Piece → Text
  | .keep text => text
  | .change _ new _ => new

end Piece

/-- The parts of a text in order. -/
abbrev Patch := List Piece

namespace Patch

/-- The text before the replacements. -/
def old (patch : Patch) : Text := patch.flatMap Piece.old

/-- The text after the replacements. -/
def new (patch : Patch) : Text := patch.flatMap Piece.new

/-- The edits of a patch whose text begins at the given offset. -/
def edits : Nat → Patch → List Edit
  | _, [] => []
  | n, .keep text :: rest => edits (n + text.size) rest
  | n, .change old new expected :: rest =>
    ⟨n, n + old.size, new, expected⟩ :: edits (n + old.size) rest

@[simp] theorem old_nil : old [] = [] := rfl

@[simp] theorem new_nil : new [] = [] := rfl

@[simp] theorem old_cons (p : Piece) (patch : Patch) : old (p :: patch) = p.old ++ old patch := rfl

@[simp] theorem new_cons (p : Piece) (patch : Patch) : new (p :: patch) = p.new ++ new patch := rfl

@[simp] theorem old_append (p q : Patch) : old (p ++ q) = old p ++ old q := List.flatMap_append

@[simp] theorem new_append (p q : Patch) : new (p ++ q) = new p ++ new q := List.flatMap_append

theorem edits_append (n : Nat) (p q : Patch) :
    edits n (p ++ q) = edits n p ++ edits (n + (old p).size) q := by
  induction p generalizing n with
  | nil => rfl
  | cons piece p ih => cases piece <;> simp [edits, ih, Piece.old, Nat.add_assoc]

/-- The edits of a patch lie in its text, one after the other. -/
theorem bounds_of_mem_edits {n : Nat} {patch : Patch} {e : Edit} (h : e ∈ edits n patch) :
    n ≤ e.start ∧ e.start ≤ e.stop ∧ e.stop ≤ n + (old patch).size := by
  induction patch generalizing n with
  | nil => simp [edits] at h
  | cons piece patch ih =>
    cases piece with
    | keep text =>
      have := ih h
      simp only [old_cons, Piece.old, size_append]
      omega
    | change old new expected =>
      simp only [old_cons, Piece.old, size_append]
      rcases List.mem_cons.mp h with rfl | h
      · dsimp only
        omega
      · have := ih h
        omega

theorem pairwise_edits (n : Nat) (patch : Patch) :
    (edits n patch).Pairwise fun a b => a.stop ≤ b.start := by
  induction patch generalizing n with
  | nil => exact List.Pairwise.nil
  | cons piece patch ih =>
    cases piece with
    | keep text => exact ih _
    | change old new expected =>
      refine List.Pairwise.cons (fun e he => ?_) (ih _)
      exact (bounds_of_mem_edits he).1

/-- The edits of a patch end one after the other, the first of them after the start of the patch. -/
structure Ascends (n : Nat) (patch : Patch) : Prop where
  first : ∀ e ∈ edits n patch, n < e.stop
  stops : (edits n patch).Pairwise fun a b => a.stop < b.stop

theorem Ascends.of_edits_eq_nil {n : Nat} {patch : Patch} (h : edits n patch = []) :
    Ascends n patch := by
  refine ⟨?_, ?_⟩ <;> simp [h]

theorem Ascends.of_edits_eq_singleton {n : Nat} {patch : Patch} {e : Edit}
    (h : edits n patch = [e]) (hstop : n < e.stop) : Ascends n patch := by
  refine ⟨?_, ?_⟩ <;> simp [h, hstop]

theorem Ascends.append {n : Nat} {p q : Patch} (hp : Ascends n p)
    (hq : Ascends (n + (old p).size) q) : Ascends n (p ++ q) := by
  refine ⟨fun e he => ?_, ?_⟩
  · rw [edits_append, List.mem_append] at he
    rcases he with he | he
    · exact hp.first e he
    · have := hq.first e he
      omega
  · rw [edits_append]
    refine List.pairwise_append.mpr ⟨hp.stops, hq.stops, fun a ha b hb => ?_⟩
    have := (bounds_of_mem_edits ha).2.2
    have := hq.first b hb
    omega

/-! ### The order of a batch -/

theorem forM_eq_ok_iff {α ε : Type} {f : α → Except ε Unit} {l : List α} :
    l.forM f = .ok () ↔ ∀ x ∈ l, f x = .ok () := by
  induction l with
  | nil => exact ⟨fun _ => by simp, fun _ => rfl⟩
  | cons x xs ih =>
    have hcons : (x :: xs).forM f = (f x >>= fun _ => xs.forM f) := rfl
    rw [hcons, List.forall_mem_cons, ← ih]
    cases hx : f x with
    | error e => simp [bind, Except.bind]
    | ok u => simp [bind, Except.bind]

theorem findOverlap?_eq_none {edits : List Edit}
    (h : edits.Pairwise fun later earlier => earlier.stop ≤ later.start) :
    Edit.findOverlap? edits = none := by
  induction edits with
  | nil => rfl
  | cons later rest ih =>
    obtain ⟨hfirst, hrest⟩ := List.pairwise_cons.mp h
    cases rest with
    | nil => rfl
    | cons earlier rest =>
      rw [Edit.findOverlap?, if_neg (Nat.not_lt.mpr (hfirst earlier (by simp)))]
      exact ih hrest

theorem appliesBefore_iff {a b : Edit} : Edit.appliesBefore a b = true ↔
    b.start < a.start ∨ a.start = b.start ∧ b.stop ≤ a.stop := by
  simp [Edit.appliesBefore]

theorem appliesBefore_trans (a b c : Edit) (hab : Edit.appliesBefore a b = true)
    (hbc : Edit.appliesBefore b c = true) : Edit.appliesBefore a c = true := by
  rw [appliesBefore_iff] at *
  omega

theorem appliesBefore_total (a b : Edit) :
    (Edit.appliesBefore a b || Edit.appliesBefore b a) = true := by
  rw [Bool.or_eq_true, appliesBefore_iff, appliesBefore_iff]
  omega

/-- In whatever order they are listed, edits that end one after the other are sorted from the last
to the first. -/
theorem mergeSort_eq_reverse {listed edits : List Edit} (hperm : listed.Perm edits)
    (horder : edits.Pairwise fun a b => a.stop ≤ b.start)
    (hranges : ∀ e ∈ edits, e.start ≤ e.stop)
    (hstops : edits.Pairwise fun a b => a.stop < b.stop) :
    listed.mergeSort Edit.appliesBefore = edits.reverse := by
  have hsorted : (listed.mergeSort Edit.appliesBefore).Pairwise
      fun a b => Edit.appliesBefore a b = true :=
    List.pairwise_mergeSort appliesBefore_trans appliesBefore_total listed
  have hreverse : edits.reverse.Pairwise fun a b => Edit.appliesBefore a b = true := by
    rw [List.pairwise_reverse]
    refine (horder.and hstops).imp_of_mem fun {a b} ha hb hab => ?_
    have := hranges a ha
    rw [appliesBefore_iff]
    omega
  have hinj := List.inj_on_of_nodup_map (f := Edit.stop)
    (List.pairwise_map.mpr (hstops.imp fun h => Nat.ne_of_lt h))
  refine List.Perm.eq_of_pairwise (fun a b ha hb hab hba => ?_) hsorted hreverse
    ((List.mergeSort_perm _ _).trans (hperm.trans (List.reverse_perm _).symm))
  rw [appliesBefore_iff] at hab hba
  have ha' : a ∈ edits := hperm.mem_iff.mp (List.mem_mergeSort.mp ha)
  exact hinj ha' (List.mem_reverse.mp hb) (by omega)

/-! ### The application of the edits -/

variable [Digest]

/-- Each replaced part is the one that is expected, or is replaced by itself. -/
def Valid (patch : Patch) : Prop :=
  ∀ old new expected, .change old new expected ∈ patch → old = new ∨ expected.holdsOf old = true

theorem Valid.append {p q : Patch} (hp : p.Valid) (hq : q.Valid) : Valid (p ++ q) := by
  intro old new expected h
  rcases List.mem_append.mp h with h | h
  · exact hp old new expected h
  · exact hq old new expected h

theorem holdsOf_ofText (t : Text) : (Expectation.ofText t).holdsOf t = true := by
  unfold Expectation.ofText
  split <;> simp [Expectation.holdsOf]

theorem Valid.nil : Valid [] := by simp [Valid]

theorem Valid.keep {patch : Patch} (text : Text) (h : patch.Valid) :
    Valid (.keep text :: patch) := by
  intro old new expected hmem
  exact h old new expected (by simpa using hmem)

/-- A part may be replaced where that part itself is expected. -/
theorem Valid.change {patch : Patch} (old new : Text) (h : patch.Valid) :
    Valid (.change old new (.ofText old) :: patch) := by
  intro old' new' expected hmem
  rcases List.mem_cons.mp hmem with heq | hmem
  · obtain ⟨rfl, rfl, rfl⟩ : old' = old ∧ new' = new ∧ expected = .ofText old := by
      simpa using heq
    exact .inr (holdsOf_ofText old')
  · exact h old' new' expected hmem

/-- An edit whose range is where its part stands is valid and replaces that part. -/
theorem validate_append (before after : Text) {old new : Text} {expected : Expectation}
    (h : old = new ∨ expected.holdsOf old = true) :
    Edit.validate ⟨before.size, before.size + old.size, new, expected⟩ (before ++ (old ++ after)) =
      .ok (before, old, after) := by
  have hrange : ¬(before.size + old.size < before.size ∨
      (before ++ (old ++ after)).size < before.size + old.size) := by
    simp only [size_append]
    omega
  rw [Edit.validate, if_neg hrange]
  simp only [splitAt?_append, Nat.add_sub_cancel_left, if_pos h]

theorem applyTo_append (before after : Text) {old new : Text} {expected : Expectation}
    (h : old = new ∨ expected.holdsOf old = true) :
    ∃ did, Edit.applyTo ⟨before.size, before.size + old.size, new, expected⟩
      (before ++ (old ++ after)) = .ok (before ++ (new ++ after), did) := by
  rw [Edit.applyTo, validate_append before after h]
  by_cases hsame : old = new
  · exact ⟨.alreadyApplied, by simp [hsame, bind, Except.bind, pure, Except.pure]⟩
  · exact ⟨.applied new.size, by simp [hsame, bind, Except.bind, pure, Except.pure]⟩

/-- Applied from the last to the first, the edits of a patch replace its parts. -/
theorem applyInOrder_reverse (patch : Patch) (hvalid : patch.Valid) (rest : Text) :
    ∃ did, Edit.applyInOrder (edits 0 patch).reverse (old patch ++ rest) =
      ⟨new patch ++ rest, .ok did⟩ := by
  induction patch using List.reverseRecOn generalizing rest with
  | nil => exact ⟨[], rfl⟩
  | append_singleton patch piece ih =>
    have hinit : Valid patch := fun o n e h => hvalid o n e (List.mem_append_left _ h)
    rw [edits_append, Nat.zero_add]
    cases piece with
    | keep text =>
      obtain ⟨did, h⟩ := ih hinit (text ++ rest)
      exact ⟨did, by simpa [edits, Piece.old, Piece.new] using h⟩
    | change o n expected =>
      obtain ⟨did, hdid⟩ := applyTo_append (old patch) rest (hvalid o n expected (by simp))
      obtain ⟨rest', h⟩ := ih hinit (n ++ rest)
      refine ⟨did :: rest', ?_⟩
      simp [edits, Edit.applyInOrder, Piece.old, Piece.new, hdid, h, Except.map]

/-! ### Batches -/

theorem validate_of_mem_edits {patch : Patch} (hvalid : patch.Valid) (before rest : Text) {e : Edit}
    (h : e ∈ edits before.size patch) :
    ∃ parts, e.validate (before ++ (old patch ++ rest)) = .ok parts := by
  induction patch generalizing before with
  | nil => simp [edits] at h
  | cons piece patch ih =>
    have htail : Valid patch := fun o n x hmem => hvalid o n x (List.mem_cons_of_mem _ hmem)
    have hstep : before ++ (old (piece :: patch) ++ rest) =
        before ++ piece.old ++ (old patch ++ rest) := by simp
    cases piece with
    | keep text =>
      rw [hstep]
      exact ih htail _ (by simpa [edits, Piece.old] using h)
    | change o n x =>
      rw [edits, List.mem_cons] at h
      rcases h with rfl | h
      · rw [old_cons, Piece.old, List.append_assoc]
        exact ⟨_, validate_append before _ (hvalid o n x (by simp))⟩
      · rw [hstep]
        exact ih htail _ (by simpa [Piece.old] using h)

/-- A batch that lists the edits of a patch in any order replaces the parts of the patch, where the
edits end one after the other. -/
theorem applyBatch_edits {patch : Patch} (hvalid : patch.Valid)
    (hstops : (edits 0 patch).Pairwise fun a b => a.stop < b.stop) {listed : List Edit}
    (hperm : listed.Perm (edits 0 patch)) :
    ∃ did, Edit.applyBatch listed (old patch) = ⟨new patch, .ok did⟩ := by
  have hsort := mergeSort_eq_reverse hperm (pairwise_edits 0 patch)
    (fun e he => (bounds_of_mem_edits he).2.1) hstops
  have hforM : (edits 0 patch).reverse.forM
      (fun e => (e.validate (old patch)).map fun _ => ()) = .ok () := by
    refine forM_eq_ok_iff.mpr fun e he => ?_
    obtain ⟨parts, hparts⟩ := validate_of_mem_edits hvalid [] [] (List.mem_reverse.mp he)
    rw [List.nil_append, List.append_nil] at hparts
    rw [hparts]
    rfl
  have hoverlap : Edit.findOverlap? (edits 0 patch).reverse = none :=
    findOverlap?_eq_none (List.pairwise_reverse.mpr (pairwise_edits 0 patch))
  obtain ⟨did, hdid⟩ := applyInOrder_reverse patch hvalid []
  rw [List.append_nil, List.append_nil] at hdid
  refine ⟨did, ?_⟩
  rw [Edit.applyBatch, hsort]
  simp only [hforM, hoverlap, hdid]

end Patch

variable [Digest]

/-- Edits turn a text at an offset into another one: they are those of a patch between the two. -/
def Patches (n : Nat) (old new : Text) (edits : List Edit) : Prop :=
  ∃ patch : Patch, patch.old = old ∧ patch.new = new ∧ patch.edits n = edits ∧ patch.Valid ∧
    patch.Ascends n

theorem Patches.keep (n : Nat) (text : Text) : Patches n text text [] := by
  refine ⟨[.keep text], ?_, ?_, rfl, Patch.Valid.nil.keep text, Patch.Ascends.of_edits_eq_nil rfl⟩
  · simp [Piece.old]
  · simp [Piece.new]

theorem Patches.append {n : Nat} {old new old' new' : Text} {edits edits' : List Edit}
    (h : Patches n old new edits) (h' : Patches (n + old.size) old' new' edits') :
    Patches n (old ++ old') (new ++ new') (edits ++ edits') := by
  obtain ⟨patch, rfl, rfl, rfl, hvalid, hascends⟩ := h
  obtain ⟨patch', rfl, rfl, rfl, hvalid', hascends'⟩ := h'
  exact ⟨patch ++ patch', Patch.old_append _ _, Patch.new_append _ _, Patch.edits_append _ _ _,
    hvalid.append hvalid', hascends.append hascends'⟩

end Graft
