import Graft.Proofs.Tree
import Mathlib.Data.List.Sort

/-! The walk through a folder. It meets the files below the folder that stand in folders whose paths
are not too long, each once and in the order of their paths, name by name. So what it meets depends
only on which files there are. -/

namespace Graft.Tree

variable {tree other : Tree} {l : Location} {p : Path} {name : Name} {names : List Name}

/-! ### Sorted names -/

/-- A list that is sorted by an order has its items in this order. -/
theorem pairwise_mergeSort_lt {α : Type} [LinearOrder α] [DecidableLT α] (xs : List α) :
    (xs.mergeSort fun a b => !decide (b < a)).Pairwise fun a b => ¬b < a := by
  refine (List.pairwise_mergeSort ?_ ?_ xs).imp fun h => by simpa using h
  · intro a b c hab hbc
    simp only [Bool.not_eq_true', decide_eq_false_iff_not] at *
    exact not_lt.mpr ((not_lt.mp hab).trans (not_lt.mp hbc))
  · intro a b
    simpa using le_total a b

theorem mergeSort_eq_of_perm {α : Type} [LinearOrder α] [DecidableLT α] {xs ys : List α}
    (hperm : (xs.mergeSort fun a b => !decide (b < a)).Perm ys)
    (hsorted : ys.Pairwise fun a b => ¬b < a) :
    (xs.mergeSort fun a b => !decide (b < a)) = ys :=
  List.Perm.eq_of_pairwise
    (fun _ _ _ _ hab hba => le_antisymm (not_lt.mp hab) (not_lt.mp hba))
    (pairwise_mergeSort_lt xs) hsorted hperm

/-! ### One folder -/

variable (tree) in
/-- The files that a walk meets in what stands in a folder under a name. -/
def traverseAt (l : Location) (p : Path) (name : Name) : List Location :=
  match tree.entry? (l ++ [name]) with
  | some (.file _) => [[name]]
  | some .folder => (tree.traverse (l ++ [name]) (p.join ⟨name⟩)).map (name :: ·)
  | none => []

theorem traverse_eq (l : Location) (p : Path) : tree.traverse l p =
    if p.isTooLong then [] else (tree.childNames l).flatMap (tree.traverseAt l p) := by
  rw [traverse]
  conv_rhs => rw [← List.attach_map_subtype_val (tree.childNames l), List.flatMap_map]
  rfl

theorem mem_traverseAt : names ∈ tree.traverseAt l p name ↔
    names = [name] ∧ (tree.file? (l ++ [name])).isSome ∨
      tree.entry? (l ++ [name]) = some .folder ∧
        ∃ rest ∈ tree.traverse (l ++ [name]) (p.join ⟨name⟩), names = name :: rest := by
  unfold traverseAt
  split
  · next content h => simp [h, file?_eq_some_iff.mpr h]
  · next h => simp [h, file?, eq_comm]
  · next h => simp [h, file?]

variable (wf : tree.WellFormed)

include wf

theorem mem_childNames_iff : name ∈ tree.childNames l ↔ (tree.entry? (l ++ [name])).isSome := by
  rw [mem_childNames, Option.isSome_iff_exists]
  constructor
  · rintro ⟨⟨m, e⟩, hx, rfl⟩
    exact ⟨e, wf.entry?_of_mem hx⟩
  · rintro ⟨e, he⟩
    exact ⟨_, mem_of_entry?_eq (by simp) he, rfl⟩

/-- No name is taken twice, and each comes before those that are greater. -/
theorem pairwise_childNames (l : Location) : (tree.childNames l).Pairwise (· < ·) := by
  have hsorted : (tree.childNames l).Pairwise fun a b => ¬b < a := pairwise_mergeSort_lt _
  have hnodup : (tree.childNames l).Nodup := by
    unfold childNames
    rw [(List.mergeSort_perm _ _).nodup_iff, List.Nodup, List.pairwise_filterMap]
    refine (List.pairwise_map.mp wf.nodup).imp fun hne name hx name' hy hname => hne ?_
    rw [directly_in_iff.mp hx, directly_in_iff.mp hy, hname]
  exact hsorted.imp₂ (fun _ _ hle hne => lt_of_le_of_ne (not_lt.mp hle) hne) hnodup

/-! ### The whole walk -/

/-- A walk meets the files below the folder that it can reach: each stands in a folder with a path
that is not too long. -/
theorem mem_traverse : names ∈ tree.traverse l p ↔ names ≠ [] ∧ (tree.file? (l ++ names)).isSome ∧
    (p.descend names.dropLast).isTooLong = false := by
  induction l, p using traverse.induct tree generalizing names with
  | case1 l p hlong =>
    rw [traverse_eq, if_pos hlong]
    refine iff_of_false List.not_mem_nil ?_
    rintro ⟨-, hfile, hshort⟩
    obtain ⟨content, hcontent⟩ := Option.isSome_iff_exists.mp hfile
    have hnames := (wf.folder_of_append (isSome_of_file? hcontent)).2
    have hlast : (p.descend ([] ++ names.dropLast)).isTooLong = true :=
      Path.isTooLong_descend
        (fun name hname => hnames name (names.dropLast_sublist.subset hname)) hlong
    rw [List.nil_append, hshort] at hlast
    cases hlast
  | case2 l p hshort ih =>
    rw [traverse_eq, if_neg hshort, List.mem_flatMap]
    constructor
    · rintro ⟨name, hname, hmem⟩
      obtain ⟨rfl, hfile⟩ | ⟨-, rest, hrest, rfl⟩ := mem_traverseAt.mp hmem
      · exact ⟨List.cons_ne_nil name [], hfile, by simpa using hshort⟩
      · obtain ⟨hne, hfile, hreached⟩ := (ih name hname).mp hrest
        rw [List.append_assoc] at hfile
        refine ⟨List.cons_ne_nil name rest, hfile, ?_⟩
        rwa [List.dropLast_cons_of_ne_nil hne, Path.descend_cons]
    · rintro ⟨hne, hfile, hreached⟩
      obtain ⟨name, rest, rfl⟩ := List.exists_cons_of_ne_nil hne
      obtain ⟨content, hcontent⟩ := Option.isSome_iff_exists.mp hfile
      by_cases hrest : rest = []
      · subst hrest
        exact ⟨name, (mem_childNames_iff wf).mpr (isSome_of_file? hcontent),
          mem_traverseAt.mpr (.inl ⟨rfl, hfile⟩)⟩
      · rw [← List.singleton_append, ← List.append_assoc] at hfile hcontent
        rw [List.dropLast_cons_of_ne_nil hrest, Path.descend_cons] at hreached
        have hfolder := (wf.folder_of_append (isSome_of_file? hcontent)).1 hrest
        have hname : name ∈ tree.childNames l := by
          rw [mem_childNames_iff wf, hfolder]
          rfl
        exact ⟨name, hname, mem_traverseAt.mpr
          (.inr ⟨hfolder, rest, (ih name hname).mpr ⟨hrest, hfile, hreached⟩, rfl⟩)⟩

/-- A walk meets each file before those whose paths are greater. -/
theorem pairwise_traverse (l : Location) (p : Path) : (tree.traverse l p).Pairwise (· < ·) := by
  induction l, p using traverse.induct tree with
  | case1 l p hlong =>
    rw [traverse_eq, if_pos hlong]
    exact List.Pairwise.nil
  | case2 l p hshort ih =>
    rw [traverse_eq, if_neg hshort, List.pairwise_flatMap]
    constructor
    · intro name hname
      unfold traverseAt
      split
      · exact List.pairwise_singleton _ _
      · rw [List.pairwise_map]
        exact (ih name hname).imp fun hlt => List.cons_lt_cons_iff.mpr (.inr ⟨rfl, hlt⟩)
      · exact List.Pairwise.nil
    · -- what stands under a name has a path that begins with this name
      have hbegins : ∀ {name names}, names ∈ tree.traverseAt l p name →
          ∃ rest, names = name :: rest := by
        intro name names hmem
        obtain ⟨rfl, -⟩ | ⟨-, rest, -, rfl⟩ := mem_traverseAt.mp hmem
        · exact ⟨[], rfl⟩
        · exact ⟨rest, rfl⟩
      refine (pairwise_childNames wf l).imp fun hlt names hnames later hlater => ?_
      obtain ⟨rest, rfl⟩ := hbegins hnames
      obtain ⟨rest', rfl⟩ := hbegins hlater
      exact List.cons_lt_cons_iff.mpr (.inl hlt)

/-! ### The files of a path -/

/-- The files of a path are the one that it leads to, and those below the folder that it leads to
which stand in folders with paths that are not too long. -/
theorem mem_filesOf : names ∈ tree.filesOf p ↔ ∃ l, tree.locate p = .ok l ∧
    (tree.file? (l ++ names)).isSome ∧ (p.descend names.dropLast).isTooLong = false := by
  unfold filesOf
  split
  · next hlocate => simp [hlocate]
  · next l hlocate =>
    simp only [hlocate, Except.ok.injEq, exists_eq_left']
    split
    · next content hentry =>
      rw [List.mem_singleton]
      constructor
      · rintro rfl
        simp [file?, hentry, isTooLong_of_locate hlocate]
      · rintro ⟨hfile, -⟩
        obtain ⟨content, hcontent⟩ := Option.isSome_iff_exists.mp hfile
        by_contra hne
        have hfolder := (wf.folder_of_append (isSome_of_file? hcontent)).1 hne
        rw [hentry] at hfolder
        cases hfolder
    · next hentry =>
      rw [mem_traverse wf, and_iff_right_iff_imp]
      rintro ⟨hfile, -⟩ rfl
      simp [file?, hentry] at hfile
    · next hentry => simp [file?, wf.entry?_append hentry names]

/-- The files of a path are listed in their order. -/
theorem pairwise_filesOf (p : Path) : (tree.filesOf p).Pairwise (· < ·) := by
  unfold filesOf
  split
  · exact List.Pairwise.nil
  · next l _ =>
    split
    · exact List.pairwise_singleton _ _
    · exact pairwise_traverse wf l p
    · exact List.Pairwise.nil

/-- The names that lead to the files of a path are names of entries. -/
theorem isEntryName_of_mem_filesOf (h : names ∈ tree.filesOf p) :
    ∀ name ∈ names, IsEntryName name := by
  obtain ⟨l, -, hfile, -⟩ := (mem_filesOf wf).mp h
  obtain ⟨content, hcontent⟩ := Option.isSome_iff_exists.mp hfile
  exact (wf.folder_of_append (isSome_of_file? hcontent)).2

section Agreement

variable {root : Path} {front : List Name} (hp : Path.Inside root p front)
  (hroot : tree.walk root = .ok l) (hroot' : other.walk root = .ok l) (wf' : other.WellFormed)

include hp hroot hroot' wf'

/-- A file of a path that is in another tree too is one of its files there. -/
theorem mem_filesOf_of_agree (hagree : tree.AgreeBelow other (l ++ front))
    (h : names ∈ tree.filesOf p) : names ∈ other.filesOf p := by
  obtain ⟨m, hm, hfile, hshort⟩ := (mem_filesOf wf).mp h
  obtain ⟨rfl, -⟩ := hp.locate_eq hroot hm
  rw [hagree names] at hfile
  refine (mem_filesOf wf').mpr ⟨l ++ front, ?_, hfile, hshort⟩
  by_cases hne : names = []
  · subst hne
    rw [List.append_nil] at hfile
    exact hp.locate_of_file? hroot hroot' wf' hm
      (by rwa [← List.append_nil (l ++ front), hagree, List.append_nil]) hfile
  · obtain ⟨content, hcontent⟩ := Option.isSome_iff_exists.mp hfile
    have hfolder := (wf'.folder_of_append (isSome_of_file? hcontent)).1 hne
    exact hp.locate_of_entry? hroot hroot' wf' hm (by simp [hfolder]) fun _ => hfolder

theorem filesOf_congr (hagree : tree.AgreeBelow other (l ++ front)) :
    tree.filesOf p = other.filesOf p := by
  refine (pairwise_filesOf wf p).eq_of_mem_iff (pairwise_filesOf wf' p) fun names => ?_
  exact ⟨mem_filesOf_of_agree wf hp hroot hroot' wf' hagree,
    mem_filesOf_of_agree wf' hp hroot' hroot wf fun rest => (hagree rest).symm⟩

end Agreement

end Graft.Tree
