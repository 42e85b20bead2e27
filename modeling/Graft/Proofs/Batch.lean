import Graft.Proofs.Patch
import Graft.Proofs.Text
import Mathlib.Algebra.BigOperators.Group.List.Basic
import Mathlib.Algebra.Order.Group.Int
import Mathlib.Algebra.Ring.Int.Defs

/-! Batches of arbitrary edits. A batch is applied as a whole exactly when each of its edits is
valid and no two of them overlap, and what it leaves is then the substitution of all of them at
once. -/

namespace Graft.Edit

open Text

/-! ### Edits that overlap -/

/-- Two edits overlap when their ranges share bytes or one of them starts inside the other. -/
def Overlaps (a b : Edit) : Prop :=
  max a.start b.start < min a.stop b.stop ∨
    (a.start < b.start ∧ b.start < a.stop) ∨ (b.start < a.start ∧ a.start < b.stop)

/-- Whether an edit inserts its text at an offset. -/
def insertsAt (n : Nat) (e : Edit) : Bool := e.start = n ∧ e.stop = n

/-- The bytes that an edit adds to a document, less those that it takes away. -/
def growth (e : Edit) : Int := e.new.size - (e.stop - e.start)

/-- A text is what a document becomes when each of the edits replaces its own range, all of them at
once. Where several edits insert at one offset, the one listed last comes first. -/
def Substitutes (edits : List Edit) (doc new : Text) : Prop :=
  ∃ patch : Patch, patch.old = doc ∧ patch.new = new ∧ (patch.edits 0).Perm edits ∧
    ∀ n, (patch.edits 0).filter (insertsAt n) = (edits.filter (insertsAt n)).reverse

theorem Overlaps.symm {a b : Edit} (h : Overlaps a b) : Overlaps b a := by
  unfold Overlaps at *
  omega

theorem insertsAt_iff {n : Nat} {e : Edit} : insertsAt n e = true ↔ e.start = n ∧ e.stop = n := by
  simp [insertsAt]

/-- Of two edits in the order of their application, the second overlaps the first exactly when it
does not end before the first starts. -/
theorem overlaps_iff {later earlier : Edit} (h : appliesBefore later earlier = true) :
    Overlaps later earlier ↔ later.start < earlier.stop := by
  rw [Patch.appliesBefore_iff] at h
  unfold Overlaps
  omega

/-! ### The order of application -/

/-- The edits of a batch in the order of their application. -/
def inOrder (edits : List Edit) : List Edit := edits.mergeSort appliesBefore

theorem inOrder_perm (edits : List Edit) : (inOrder edits).Perm edits :=
  List.mergeSort_perm edits appliesBefore

theorem pairwise_inOrder (edits : List Edit) :
    (inOrder edits).Pairwise fun a b => appliesBefore a b = true :=
  List.pairwise_mergeSort Patch.appliesBefore_trans Patch.appliesBefore_total edits

/-- Insertions at one offset are applied in the order in which they are listed. -/
theorem filter_inOrder (edits : List Edit) (n : Nat) :
    (inOrder edits).filter (insertsAt n) = edits.filter (insertsAt n) := by
  have hties : (edits.filter (insertsAt n)).Pairwise fun a b => appliesBefore a b = true := by
    refine List.pairwise_of_forall_mem_list fun a ha b hb => ?_
    have hinsert := insertsAt_iff.mp (List.of_mem_filter ha)
    have hinsert' := insertsAt_iff.mp (List.of_mem_filter hb)
    rw [Patch.appliesBefore_iff]
    omega
  have hsub : (edits.filter (insertsAt n)).Sublist (inOrder edits) :=
    List.sublist_mergeSort Patch.appliesBefore_trans Patch.appliesBefore_total hties
      List.filter_sublist
  have hfilter := hsub.filter (insertsAt n)
  rw [List.filter_filter] at hfilter
  simp only [Bool.and_self] at hfilter
  have hlength := ((inOrder_perm edits).filter (insertsAt n)).length_eq
  exact (hfilter.eq_of_length hlength.symm).symm

/-- Edits that do not overlap have one order of application, up to insertions at one offset. -/
theorem eq_of_perm_of_ties {s t : List Edit} (hperm : s.Perm t)
    (hs : s.Pairwise fun a b => appliesBefore a b = true)
    (ht : t.Pairwise fun a b => appliesBefore a b = true)
    (hranges : ∀ e ∈ s, e.start ≤ e.stop) (hdisjoint : s.Pairwise fun a b => ¬Overlaps a b)
    (hties : ∀ n, s.filter (insertsAt n) = t.filter (insertsAt n)) : s = t := by
  induction s generalizing t with
  | nil => exact hperm.nil_eq
  | cons a s ih =>
    cases t with
    | nil => exact absurd hperm.symm.nil_eq (by simp)
    | cons b t =>
      obtain ⟨ha, hstail⟩ := List.pairwise_cons.mp hs
      obtain ⟨hb, httail⟩ := List.pairwise_cons.mp ht
      obtain ⟨hfirst, hrest⟩ := List.pairwise_cons.mp hdisjoint
      have hab : a = b := by
        by_contra hne
        -- each comes before the other, so both are insertions at one offset
        have hbs : b ∈ s := by
          have := hperm.mem_iff.mpr (List.mem_cons_self (a := b) (l := t))
          simpa [Ne.symm hne] using this
        have hat : a ∈ t := by
          have := hperm.mem_iff.mp (List.mem_cons_self (a := a) (l := s))
          simpa [hne] using this
        have hno := (overlaps_iff (ha b hbs)).not.mp (hfirst b hbs)
        have hbefore := Patch.appliesBefore_iff.mp (ha b hbs)
        have hafter := Patch.appliesBefore_iff.mp (hb a hat)
        have hrange := hranges b (List.mem_cons_of_mem a hbs)
        have hinserts : insertsAt a.start a = true := insertsAt_iff.mpr (by omega)
        have hinserts' : insertsAt a.start b = true := insertsAt_iff.mpr (by omega)
        have heq := hties a.start
        rw [List.filter_cons_of_pos hinserts, List.filter_cons_of_pos hinserts'] at heq
        exact hne (List.cons.inj heq).1
      subst hab
      refine congrArg _ (ih (List.Perm.cons_inv hperm) hstail httail
        (fun e he => hranges e (List.mem_cons_of_mem a he)) hrest fun n => ?_)
      have heq := hties n
      rw [List.filter_cons, List.filter_cons] at heq
      split at heq
      · exact (List.cons.inj heq).2
      · exact heq

/-- In the order of their application, edits overlap when two neighbours do. -/
theorem findOverlap?_eq_none_iff {edits : List Edit}
    (horder : edits.Pairwise fun a b => appliesBefore a b = true)
    (hranges : ∀ e ∈ edits, e.start ≤ e.stop) :
    findOverlap? edits = none ↔ edits.Pairwise fun a b => ¬Overlaps a b := by
  induction edits with
  | nil => simp [findOverlap?]
  | cons later rest ih =>
    obtain ⟨hlater, hrest⟩ := List.pairwise_cons.mp horder
    have ih := ih hrest fun e he => hranges e (List.mem_cons_of_mem later he)
    rw [List.pairwise_cons]
    cases rest with
    | nil => simp [findOverlap?]
    | cons earlier rest =>
      have hneighbour := overlaps_iff (hlater earlier (by simp))
      by_cases hlt : later.start < earlier.stop
      · rw [findOverlap?, if_pos hlt]
        have hoverlap := hneighbour.mpr hlt
        exact iff_of_false (by simp) fun h => h.1 earlier (by simp) hoverlap
      · rw [findOverlap?, if_neg hlt, ih]
        refine ⟨fun h => ⟨fun e he => ?_, h⟩, fun h => h.2⟩
        rw [overlaps_iff (hlater e he)]
        rcases List.mem_cons.mp he with rfl | he
        · exact hlt
        · -- the neighbour lies between the two
          have hno := (List.pairwise_cons.mp h).1 e he
          rw [overlaps_iff ((List.pairwise_cons.mp hrest).1 e he)] at hno
          have := hranges earlier (by simp)
          omega

/-! ### The edits of a batch as a patch -/

variable [Digest]

/-- The parts into which a valid edit cuts a document. -/
theorem parts_of_validate {e : Edit} {doc before found after : Text}
    (h : e.validate doc = .ok (before, found, after)) :
    doc = before ++ (found ++ after) ∧ e.start = before.size ∧
      e.stop = before.size + found.size ∧ (found = e.new ∨ e.expected.holdsOf found = true) := by
  unfold validate at h
  split at h
  · cases h
  · next hrange =>
    split at h
    · cases h
    · next before' tail hbefore =>
      split at h
      · cases h
      · next found' after' hfound =>
        split at h
        · next hexpected =>
          obtain ⟨rfl, rfl, rfl⟩ : before' = before ∧ found' = found ∧ after' = after := by
            simpa using h
          obtain ⟨rfl, hstart⟩ := eq_append_of_splitAt? hbefore
          obtain ⟨rfl, hstop⟩ := eq_append_of_splitAt? hfound
          refine ⟨rfl, hstart.symm, ?_, hexpected⟩
          omega
        · cases h

theorem start_le_stop {e : Edit} {doc : Text} (h : ∃ parts, e.validate doc = .ok parts) :
    e.start ≤ e.stop := by
  obtain ⟨⟨before, found, after⟩, h⟩ := h
  obtain ⟨-, hstart, hstop, -⟩ := parts_of_validate h
  omega

/-- Valid edits, each of which starts where the one before it has stopped or later, are those of a
patch. -/
theorem exists_patch {edits : List Edit} (before rest : Text)
    (hvalid : ∀ e ∈ edits, ∃ parts, e.validate (before ++ rest) = .ok parts)
    (hstarts : ∀ e ∈ edits, before.size ≤ e.start)
    (horder : edits.Pairwise fun a b => a.stop ≤ b.start) :
    ∃ patch : Patch, patch.old = rest ∧ patch.edits before.size = edits ∧ patch.Valid := by
  induction edits generalizing before rest with
  | nil => exact ⟨[.keep rest], by simp [Piece.old], rfl, Patch.Valid.nil.keep rest⟩
  | cons e edits ih =>
    obtain ⟨⟨kept, found, after⟩, hparts⟩ := hvalid e (by simp)
    obtain ⟨hdoc, hstart, hstop, hexpected⟩ := parts_of_validate hparts
    obtain ⟨gap, rfl, rfl⟩ : ∃ gap, kept = before ++ gap ∧ rest = gap ++ (found ++ after) := by
      have hle := hstarts e (by simp)
      rcases List.append_eq_append_iff.mp hdoc with ⟨gap, hkept, hrest⟩ | ⟨more, hbefore, hafter⟩
      · exact ⟨gap, hkept, hrest⟩
      · have hmore : more = [] := by
          by_contra hne
          have := size_pos hne
          rw [hbefore, size_append] at hle
          omega
        exact ⟨[], by simp [hbefore, hmore], by simp [hafter, hmore]⟩
    obtain ⟨hfirst, hpairwise⟩ := List.pairwise_cons.mp horder
    have hsize : (before ++ gap ++ found).size = e.stop := by rw [size_append, hstop]
    obtain ⟨patch, hold, hedits, hpatch⟩ := ih (before ++ gap ++ found) after
      (fun x hx => by simpa using hvalid x (by simp [hx]))
      (fun x hx => by rw [hsize]; exact hfirst x hx) hpairwise
    refine ⟨.keep gap :: .change found e.new e.expected :: patch, ?_, ?_, ?_⟩
    · simp [Piece.old, hold]
    · have hgap : before.size + gap.size = e.start := by rw [hstart, size_append]
      have hfound : e.start + found.size = e.stop := by rw [hstop, hstart]
      rw [hsize] at hedits
      rw [Patch.edits, Patch.edits, hgap, hfound, hedits]
    · refine Patch.Valid.keep gap fun old new expected hmem => ?_
      rcases List.mem_cons.mp hmem with heq | hmem
      · obtain ⟨rfl, rfl, rfl⟩ : old = found ∧ new = e.new ∧ expected = e.expected := by
          simpa using heq
        exact hexpected
      · exact hpatch old new expected hmem

omit [Digest] in
/-- A patch makes a text longer by what its edits add. -/
theorem size_patch (patch : Patch) (n : Nat) :
    (patch.new.size : Int) = patch.old.size + ((patch.edits n).map growth).sum := by
  induction patch generalizing n with
  | nil => rfl
  | cons piece patch ih =>
    cases piece with
    | keep text =>
      have := ih (n + text.size)
      simp only [Patch.new_cons, Patch.old_cons, Patch.edits, Piece.new, Piece.old, size_append]
      omega
    | change old new expected =>
      have := ih (n + old.size)
      simp only [Patch.new_cons, Patch.old_cons, Patch.edits, Piece.new, Piece.old, size_append,
        List.map_cons, List.sum_cons, growth]
      omega

/-! ### Batches -/

/-- Whether a batch can be applied: each edit is valid for the document as it stands, and no two of
them overlap. -/
def Applicable (edits : List Edit) (doc : Text) : Prop :=
  (∀ e ∈ edits, ∃ parts, e.validate doc = .ok parts) ∧ edits.Pairwise fun a b => ¬Overlaps a b

theorem Applicable.perm {edits listed : List Edit} {doc : Text} (hperm : listed.Perm edits)
    (h : Applicable edits doc) : Applicable listed doc :=
  ⟨fun e he => h.1 e (hperm.mem_iff.mp he),
    (hperm.pairwise_iff fun hab hba => hab hba.symm).mpr h.2⟩

/-- In the order of their application, the edits of a batch are those of a patch from its end to its
start, and the batch carries out the patch. -/
theorem exists_patch_of_applicable {edits : List Edit} {doc : Text} (h : Applicable edits doc) :
    ∃ (patch : Patch) (did : List Outcome), patch.old = doc ∧
      patch.edits 0 = (inOrder edits).reverse ∧
      applyBatch edits doc = ⟨patch.new, .ok did⟩ := by
  obtain ⟨hvalid, hdisjoint⟩ := h.perm (inOrder_perm edits)
  have horder := pairwise_inOrder edits
  have hranges : ∀ e ∈ inOrder edits, e.start ≤ e.stop := fun e he => start_le_stop (hvalid e he)
  have hascends : (inOrder edits).reverse.Pairwise fun a b => a.stop ≤ b.start := by
    rw [List.pairwise_reverse]
    refine (horder.and hdisjoint).imp fun {later earlier} hpair => ?_
    have := (overlaps_iff hpair.1).not.mp hpair.2
    omega
  obtain ⟨patch, hold, hedits, hpatch⟩ := exists_patch [] doc
    (fun e he => hvalid e (List.mem_reverse.mp he)) (fun e he => Nat.zero_le _) hascends
  obtain ⟨did, hdid⟩ := Patch.applyInOrder_reverse patch hpatch []
  have hreverse : (patch.edits 0).reverse = inOrder edits := by
    rw [show patch.edits 0 = _ from hedits, List.reverse_reverse]
  rw [List.append_nil, List.append_nil, hreverse, hold] at hdid
  refine ⟨patch, did, hold, hedits, ?_⟩
  have hforM : (inOrder edits).forM (fun e => (e.validate doc).map fun _ => ()) = .ok () := by
    refine Patch.forM_eq_ok_iff.mpr fun e he => ?_
    obtain ⟨parts, hparts⟩ := hvalid e he
    rw [hparts]
    rfl
  have hoverlap := (findOverlap?_eq_none_iff horder hranges).mpr hdisjoint
  unfold inOrder at hforM hoverlap hdid
  rw [applyBatch]
  simp only [hforM, hoverlap, hdid]

/-- A batch that cannot be applied as a whole leaves the document as it is. -/
theorem applyBatch_of_not_applicable {edits : List Edit} {doc : Text}
    (h : ¬Applicable edits doc) : ∃ e, applyBatch edits doc = ⟨doc, .error e⟩ := by
  rw [applyBatch]
  cases hforM : (edits.mergeSort appliesBefore).forM
      (fun e => (e.validate doc).map fun _ => ()) with
  | error e => exact ⟨e, rfl⟩
  | ok _ =>
    have hvalid : ∀ e ∈ inOrder edits, ∃ parts, e.validate doc = .ok parts := by
      intro e he
      have hok := Patch.forM_eq_ok_iff.mp hforM e he
      cases hparts : e.validate doc with
      | error fault => rw [hparts] at hok; cases hok
      | ok parts => exact ⟨parts, rfl⟩
    cases hoverlap : findOverlap? (edits.mergeSort appliesBefore) with
    | some e => exact ⟨e, rfl⟩
    | none =>
      refine absurd ?_ h
      have hdisjoint := (findOverlap?_eq_none_iff (pairwise_inOrder edits)
        fun e he => start_le_stop (hvalid e he)).mp hoverlap
      exact Applicable.perm (inOrder_perm edits).symm ⟨hvalid, hdisjoint⟩

/-- Listings of the same edits that agree on the order of insertions at each offset are applied in
one order. -/
theorem inOrder_eq {edits listed : List Edit} {doc : Text} (h : Applicable edits doc)
    (hperm : listed.Perm edits)
    (hties : ∀ n, listed.filter (insertsAt n) = edits.filter (insertsAt n)) :
    inOrder listed = inOrder edits := by
  obtain ⟨hvalid, hdisjoint⟩ := h.perm ((inOrder_perm listed).trans hperm)
  refine eq_of_perm_of_ties ((inOrder_perm listed).trans (hperm.trans (inOrder_perm edits).symm))
    (pairwise_inOrder listed) (pairwise_inOrder edits)
    (fun e he => start_le_stop (hvalid e he)) hdisjoint fun n => ?_
  rw [filter_inOrder, filter_inOrder, hties]

/-- A batch is applied as a whole or not at all. It is applied exactly when each of its edits is
valid for the document as it stands and no two of them overlap, and then the document becomes the
substitution of all the edits at once. In what order the edits are listed counts only for insertions
at one offset. -/
theorem applyBatch_iff_applicable (edits : List Edit) (doc : Text) :
    ((∃ did, (applyBatch edits doc).outcome = .ok did) ↔ Applicable edits doc) ∧
      match (applyBatch edits doc).outcome with
      | .error _ => (applyBatch edits doc).doc = doc
      | .ok _ => Substitutes edits doc (applyBatch edits doc).doc ∧
          ((applyBatch edits doc).doc.size : Int) = doc.size + (edits.map growth).sum ∧
          ∀ listed : List Edit, listed.Perm edits →
            (∀ n, listed.filter (insertsAt n) = edits.filter (insertsAt n)) →
            applyBatch listed doc = applyBatch edits doc := by
  by_cases h : Applicable edits doc
  · obtain ⟨patch, did, hold, hedits, hresult⟩ := exists_patch_of_applicable h
    rw [hresult]
    refine ⟨iff_of_true ⟨did, rfl⟩ h, ⟨patch, hold, rfl, ?_, fun n => ?_⟩, ?_, ?_⟩
    · rw [hedits]
      exact (List.reverse_perm _).trans (inOrder_perm edits)
    · rw [hedits, List.filter_reverse, filter_inOrder]
    · have hsum := ((List.reverse_perm _).trans (inOrder_perm edits)).map growth |>.sum_eq
      rw [← hsum, ← hedits, ← hold]
      exact size_patch patch 0
    · intro listed hperm hties
      have horder : listed.mergeSort appliesBefore = edits.mergeSort appliesBefore :=
        inOrder_eq h hperm hties
      rw [← hresult, applyBatch, applyBatch, horder]
  · obtain ⟨e, hresult⟩ := applyBatch_of_not_applicable h
    rw [hresult]
    exact ⟨iff_of_false (by simp) h, rfl⟩

end Graft.Edit
