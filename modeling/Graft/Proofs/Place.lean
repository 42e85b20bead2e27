import Graft.Proofs.Write

/-! Where a path leads below a root, as its components spell it. Pieces that are passed over change
nothing about it, but that they ask for a folder where they stand; so the lookup of a path says what
is at its place and on the way to it. -/

namespace Graft

open Text

namespace Path

theorem part_injective : Function.Injective part := by
  intro piece piece' h
  unfold part at h
  split at h <;> split at h <;> simp_all

variable {root p q : Path} {names : List Name}

/-- Whether a component is a step on the way, and not just where the path starts. -/
def isStep : Component → Bool
  | .root | .current => false
  | .parent | .normal _ => true

@[simp] theorem isStep_part (piece : Text) : isStep (part piece) = true := by
  unfold part
  split <;> rfl

theorem filter_isStep_components (p : Path) : p.components.filter isStep = p.names.map part := by
  obtain ⟨first, rest, hpieces⟩ := List.exists_cons_of_ne_nil p.pieces_ne_nil
  have hsteps : ∀ names : List Text, (names.map part).filter isStep = names.map part := by
    simp [List.filter_eq_self]
  rw [components_of_pieces hpieces, List.filter_append, filterMap_componentOf?_eq_map_part, hsteps,
    Path.names, hpieces]
  by_cases habs : p.isAbsolute = true
  · obtain ⟨rfl, -⟩ := (isAbsolute_of_pieces hpieces).mp habs
    simp [habs, isStep, isPassed]
  · by_cases hdot : first = ['.']
    · simp [habs, hdot, isStep, isPassed]
    · rw [if_neg habs, if_neg hdot]
      cases hpassed : isPassed first with
      | true => simp [componentOf?_eq_none_iff.mpr hpassed, hpassed]
      | false => simp [componentOf?_eq_part hpassed, hpassed]

theorem root_mem_components_iff : Component.root ∈ p.components ↔ p.isAbsolute = true := by
  obtain ⟨first, rest, hpieces⟩ := List.exists_cons_of_ne_nil p.pieces_ne_nil
  have hpiece : ∀ piece, componentOf? piece ≠ some .root := by
    intro piece
    unfold componentOf?
    split
    · simp
    · split <;> simp
  have hrest : Component.root ∉ rest.filterMap componentOf? := by
    rw [List.mem_filterMap]
    rintro ⟨piece, -, hroot⟩
    exact hpiece piece hroot
  rw [components_of_pieces hpieces, List.mem_append, or_iff_left hrest]
  by_cases habs : p.isAbsolute = true
  · simp [habs]
  · rw [if_neg habs]
    refine iff_of_false ?_ habs
    split
    · simp
    · rw [Option.mem_toList]
      exact hpiece first

theorem names_of_pieces {before : List Text} {last : Text} (h : p.pieces = before ++ [last])
    (hproper : isPassed last = false) :
    p.names = (before.filter fun piece => !isPassed piece) ++ [last] := by
  rw [names, h, List.filter_append]
  simp [hproper]

/-- A path leads below a root by the given names, as far as its components say. -/
structure Spells (root p : Path) (names : List Name) : Prop where
  components : p.components = root.below names
  proper : ∀ name ∈ names, isPassed name = false
  noParent : ['.', '.'] ∉ names

theorem Inside.spells (h : Inside root p names) : Spells root p names := by
  obtain ⟨pieces, -, hno, rfl, -⟩ := h.pieces
  refine ⟨h.components, fun name hname => ?_, fun hmem => hno (List.mem_of_mem_filter hmem)⟩
  simpa using (List.mem_filter.mp hname).2

theorem Spells.of_eq (h : p.components = q.components) : Spells q p [] :=
  ⟨by simp [h, below], by simp, by simp⟩

namespace Spells

variable (h : Spells root p names)

include h

theorem isAbsolute : p.isAbsolute = root.isAbsolute := by
  rw [Bool.eq_iff_iff, ← root_mem_components_iff, ← root_mem_components_iff, h.components, below]
  simp

theorem names_eq : p.names = root.names ++ names := by
  have hsteps := filter_isStep_components p
  have hnormal : (names.map Component.normal).filter isStep = names.map .normal := by
    simp [List.filter_eq_self, isStep]
  rw [h.components, below, List.filter_append, filter_isStep_components, hnormal,
    ← map_part h.noParent, ← List.map_append] at hsteps
  exact (List.map_injective_iff.mpr part_injective hsteps).symm

end Spells

theorem components_ne_nil (h : p.text ≠ []) : p.components ≠ [] := by
  obtain ⟨first, rest, hpieces⟩ := List.exists_cons_of_ne_nil p.pieces_ne_nil
  rw [components_of_pieces hpieces]
  by_cases habs : p.isAbsolute = true
  · simp [habs]
  · rw [if_neg habs]
    by_cases hdot : first = ['.']
    · simp [hdot]
    · have hfirst : first ≠ [] := by
        rintro rfl
        have hrest : rest = [] := by
          by_contra hrest
          exact habs ((isAbsolute_of_pieces hpieces).mpr ⟨rfl, hrest⟩)
        have htext := joinWith_splitOn '/' p.text
        rw [show splitOn '/' p.text = _ from hpieces, hrest, joinWith_singleton] at htext
        exact h htext.symm
      rw [if_neg hdot, componentOf?, if_neg (by simp [hfirst, hdot])]
      split <;> simp

end Path

namespace Tree

variable {tree other : Tree} {root p q : Path} {l m : Location} {names : List Name}

/-! ### Where a path leads -/

theorem place_congr (h : other.home = tree.home) (p : Path) : other.place p = tree.place p := by
  rw [place, place, startOf, startOf, h]

theorem foldl_step_filter (pieces : List Text) (l : Location) :
    pieces.foldl step l = (pieces.filter fun piece => !Path.isPassed piece).foldl step l := by
  induction pieces generalizing l with
  | nil => rfl
  | cons piece pieces ih =>
    rw [List.foldl_cons, ih]
    cases hpassed : Path.isPassed piece with
    | true => rw [List.filter_cons_of_neg (by simp [hpassed]), step, if_pos hpassed]
    | false => rw [List.filter_cons_of_pos (by simp [hpassed]), List.foldl_cons]

theorem place_of_spells (h : Path.Spells root p names) :
    tree.place p = tree.place root ++ names := by
  have hstart : tree.startOf p = tree.startOf root := by
    rw [startOf, startOf, h.isAbsolute]
  have hnames : names.filter (fun name => !Path.isPassed name) = names := by
    rw [List.filter_eq_self]
    simpa using h.proper
  rw [place, place, foldl_step_filter p.pieces, foldl_step_filter root.pieces, hstart]
  change p.names.foldl step _ = root.names.foldl step _ ++ names
  rw [h.names_eq, List.foldl_append, foldl_step h.noParent, hnames]

/-- A relative path leads on from where the path before it leads. -/
theorem place_join_of_relative (base : Path) (hp : p.isAbsolute = false) :
    tree.place (base.join p) = p.pieces.foldl step (tree.place base) := by
  rw [place, startOf_join hp]
  rcases Path.pieces_join base hp with hjoin | ⟨init, hbase, hjoin⟩
  · rw [hjoin, List.foldl_append]
    rfl
  · -- an empty last piece of the base leads nowhere
    have hplace : tree.place base = init.foldl step (tree.startOf base) := by
      rw [place, hbase, List.foldl_append]
      rfl
    rw [hjoin, List.foldl_append, hplace]

theorem place_join (base : Path) (hp : p.Inner) :
    tree.place (base.join p) = tree.place base ++ p.names := by
  rw [place_join_of_relative base hp.relative, foldl_step hp.noParent]
  rfl

/-! ### The walk by names -/

/-- Pieces lead where the ones among them lead that are not passed over, unless that is no folder
and the last piece asks for one. -/
theorem foldlM_filter (tree : Tree) (pieces : List Text) (l : Location) :
    pieces.foldlM tree.enter l =
        (pieces.filter fun piece => !Path.isPassed piece).foldlM tree.enter l ∨
      pieces.foldlM tree.enter l = .error .notFolder ∧
        (∃ m, (pieces.filter fun piece => !Path.isPassed piece).foldlM tree.enter l = .ok m ∧
          tree.entry? m ≠ some .folder) ∧
        ∃ piece ∈ pieces.getLast?, Path.isPassed piece = true := by
  induction pieces generalizing l with
  | nil => exact .inl rfl
  | cons piece rest ih =>
    have hlast : (∃ last ∈ rest.getLast?, Path.isPassed last = true) →
        ∃ last ∈ (piece :: rest).getLast?, Path.isPassed last = true := by
      rintro ⟨last, hlast, hpassed⟩
      exact ⟨last, by simp [List.getLast?_cons, Option.mem_def.mp hlast], hpassed⟩
    cases hpassed : Path.isPassed piece with
    | true =>
      rw [List.filter_cons_of_neg (by simp [hpassed]), List.foldlM_cons]
      by_cases hfolder : tree.entry? l = some .folder
      · have henter : tree.enter l piece = .ok l :=
          enter_eq_ok_iff.mpr ⟨hfolder, by rw [step, if_pos hpassed], by simp [hpassed]⟩
        rw [henter]
        rcases ih l with h | ⟨h, hend, hrest⟩
        · exact .inl h
        · exact .inr ⟨h, hend, hlast hrest⟩
      · have henter : ∀ piece, tree.enter l piece = .error .notFolder := by
          intro piece
          rw [enter, if_pos (by simpa [isFolderAt] using hfolder)]
        rw [henter]
        cases hnames : rest.filter (fun piece => !Path.isPassed piece) with
        | nil =>
          refine .inr ⟨rfl, ⟨l, rfl, hfolder⟩, ?_⟩
          have hall : ∀ last ∈ piece :: rest, Path.isPassed last = true := by
            simpa [hpassed] using List.filter_eq_nil_iff.mp hnames
          exact ⟨_, List.getLast?_eq_some_getLast (by simp), hall _ (List.getLast_mem _)⟩
        | cons name names =>
          refine .inl ?_
          rw [List.foldlM_cons, henter]
          rfl
    | false =>
      rw [List.filter_cons_of_pos (by simp [hpassed]), List.foldlM_cons, List.foldlM_cons]
      cases tree.enter l piece with
      | error fault => exact .inl rfl
      | ok next =>
        rcases ih next with h | ⟨h, hend, hrest⟩
        · exact .inl h
        · exact .inr ⟨h, hend, hlast hrest⟩

/-- Pieces that spell the names after a root lead on from where the root leads. -/
theorem foldlM_spelled {pieces : List Text}
    (h : (pieces.filter fun piece => !Path.isPassed piece) = root.names ++ names)
    (hl : tree.walk root = .ok l) :
    pieces.foldlM tree.enter (tree.startOf root) = names.foldlM tree.enter l ∨
      pieces.foldlM tree.enter (tree.startOf root) = .error .notFolder ∧
        (∃ m, names.foldlM tree.enter l = .ok m ∧ tree.entry? m ≠ some .folder) ∧
        ∃ piece ∈ pieces.getLast?, Path.isPassed piece = true := by
  have hroot : root.names.foldlM tree.enter (tree.startOf root) = .ok l := by
    rcases foldlM_filter tree root.pieces (tree.startOf root) with hwalk | ⟨hwalk, -⟩
    · exact hwalk.symm.trans hl
    · rw [show root.pieces.foldlM tree.enter (tree.startOf root) = .ok l from hl] at hwalk
      cases hwalk
  have hnames : (root.names ++ names).foldlM tree.enter (tree.startOf root) =
      names.foldlM tree.enter l := by
    rw [List.foldlM_append, hroot]
    rfl
  have hpieces := foldlM_filter tree pieces (tree.startOf root)
  rwa [h, hnames] at hpieces

/-- The names that a path spells lead on from where the root leads. -/
theorem walk_spells (h : Path.Spells root p names) (hl : tree.walk root = .ok l) :
    tree.walk p = names.foldlM tree.enter l ∨
      tree.walk p = .error .notFolder ∧
        (∃ m, names.foldlM tree.enter l = .ok m ∧ tree.entry? m ≠ some .folder) ∧
        ∃ piece ∈ p.pieces.getLast?, Path.isPassed piece = true := by
  have hstart : tree.startOf p = tree.startOf root := by
    rw [startOf, startOf, h.isAbsolute]
  rw [walk, hstart]
  exact foldlM_spelled h.names_eq hl

section Spelled

variable (h : Path.Spells root p names) (hl : tree.walk root = .ok l)

include h hl

theorem walk_spells_of_last (hlast : ∀ piece ∈ p.pieces.getLast?, Path.isPassed piece = false) :
    tree.walk p = names.foldlM tree.enter l := by
  rcases walk_spells h hl with hwalk | ⟨-, -, last, hmem, hpassed⟩
  · exact hwalk
  · rw [hlast last hmem] at hpassed
    cases hpassed

theorem walk_spells_of_folder (hm : names.foldlM tree.enter l = .ok m)
    (hfolder : tree.entry? m = some .folder) : tree.walk p = .ok m := by
  rcases walk_spells h hl with hwalk | ⟨-, ⟨m', hm', hother⟩, -⟩
  · rw [hwalk, hm]
  · rw [hm] at hm'
    obtain rfl := Except.ok.inj hm'
    exact absurd hfolder hother

theorem walk_eq_notFound_iff :
    tree.walk p = .error .notFound ↔ names.foldlM tree.enter l = .error .notFound := by
  rcases walk_spells h hl with hwalk | ⟨hwalk, ⟨m, hm, -⟩, -⟩
  · rw [hwalk]
  · simp [hwalk, hm]

end Spelled

/-- Paths with the same components lead to the same place, where the one that leads there does not
miss anything. -/
theorem walk_of_components (h : p.components = q.components) (hl : tree.walk q = .ok l) :
    tree.walk p = .ok l ∨ tree.walk p = .error .notFolder := by
  rcases walk_spells (.of_eq h) hl with hwalk | ⟨hwalk, -⟩
  · exact .inl hwalk
  · exact .inr hwalk

/-- There is nothing at a place below a folder, and no file on the way to it. -/
structure Free (tree : Tree) (l : Location) (names : List Name) : Prop where
  entry : tree.entry? (l ++ names) = none
  file : ∀ front, front <+: names → tree.file? (l ++ front) = none

theorem file?_eq_none_of_folder (h : tree.entry? l = some .folder) : tree.file? l = none := by
  rw [file?, h]

theorem file?_eq_none_of_none (h : tree.entry? l = none) : tree.file? l = none := by
  rw [file?, h]

/-- There is nothing where there is neither a file nor a folder. -/
theorem entry?_eq_none (hfile : tree.file? l = none) (hfolder : tree.entry? l ≠ some .folder) :
    tree.entry? l = none := by
  cases hentry : tree.entry? l with
  | none => rfl
  | some e =>
    cases e with
    | folder => exact absurd hentry hfolder
    | file content =>
      rw [file?_eq_some_iff.mpr hentry] at hfile
      cases hfile

/-- A place below a folder is free if it is free from the next folder on. -/
theorem free_cons_iff {name : Name} (hl : tree.entry? l = some .folder) :
    tree.Free l (name :: names) ↔ tree.Free (l ++ [name]) names := by
  have hsplit : ∀ front, l ++ name :: front = (l ++ [name]) ++ front := by simp
  constructor
  · rintro ⟨hentry, hfile⟩
    refine ⟨by rwa [← hsplit], fun front hfront => ?_⟩
    rw [← hsplit]
    exact hfile _ (List.cons_prefix_cons.mpr ⟨rfl, hfront⟩)
  · rintro ⟨hentry, hfile⟩
    refine ⟨by rwa [hsplit], fun front hfront => ?_⟩
    cases front with
    | nil => simpa using file?_eq_none_of_folder hl
    | cons name' front =>
      obtain ⟨rfl, hlead⟩ := List.cons_prefix_cons.mp hfront
      rw [hsplit]
      exact hfile front hlead

section Names

variable (hproper : ∀ name ∈ names, Path.isPassed name = false) (hno : ['.', '.'] ∉ names)

include hproper hno

/-- Names that miss something lead to a place with nothing there. -/
theorem free_of_foldlM_enter (wf : tree.WellFormed)
    (h : names.foldlM tree.enter l = .error .notFound) : tree.Free l names := by
  induction names generalizing l with
  | nil => cases h
  | cons name names ih =>
    obtain ⟨hname, hnames⟩ := List.forall_mem_cons.mp hproper
    obtain ⟨hparent, hno'⟩ : ['.', '.'] ≠ name ∧ ['.', '.'] ∉ names := by simpa using hno
    rw [List.foldlM_cons] at h
    cases henter : tree.enter l name with
    | error fault =>
      rw [henter] at h
      obtain rfl : fault = .notFound := Except.error.inj h
      obtain ⟨hfolder, -, -, -, hnone⟩ := enter_eq_notFound_iff.mp henter
      exact (free_cons_iff hfolder).mpr ⟨wf.entry?_append hnone names, fun front _ =>
        file?_eq_none_of_none (wf.entry?_append hnone front)⟩
    | ok next =>
      rw [henter] at h
      obtain ⟨hfolder, rfl, -⟩ := enter_eq_ok_iff.mp henter
      rw [step, if_neg (by simp [hname]), if_neg hparent.symm] at h
      exact (free_cons_iff hfolder).mpr (ih hnames hno' h)

/-- Names lead to an entry that is there. -/
theorem foldlM_enter_of_entry? (wf : tree.WellFormed) (h : (tree.entry? (l ++ names)).isSome) :
    names.foldlM tree.enter l = .ok (l ++ names) := by
  induction names generalizing l with
  | nil => simp [pure, Except.pure]
  | cons name names ih =>
    obtain ⟨hname, hnames⟩ := List.forall_mem_cons.mp hproper
    obtain ⟨hparent, hno'⟩ : ['.', '.'] ≠ name ∧ ['.', '.'] ∉ names := by simpa using hno
    have hsplit : l ++ name :: names = (l ++ [name]) ++ names := by simp
    obtain ⟨hfolder, hentries⟩ := wf.folder_of_append h
    have hsome : (tree.entry? (l ++ [name])).isSome := by
      rw [hsplit] at h
      by_cases hnil : names = []
      · simpa [hnil] using h
      · simp [(wf.folder_of_append h).1 hnil]
    rw [foldlM_enter_cons]
    refine ⟨l ++ [name], enter_eq_ok_iff.mpr ⟨hfolder (by simp), ?_, fun _ _ =>
      ⟨(hentries name (by simp)).short, hsome⟩⟩, ?_⟩
    · rw [step, if_neg (by simp [hname]), if_neg hparent.symm]
    · rw [hsplit] at h ⊢
      exact ih hnames hno' h

end Names

section Located

variable (h : Path.Spells root p names) (hl : tree.walk root = .ok l)
  (hcheck : checkPath p = .ok ()) (wf : tree.WellFormed)

include h hl hcheck wf

theorem locate_of_last (hlast : ∀ piece ∈ p.pieces.getLast?, Path.isPassed piece = false)
    (hsome : (tree.entry? (l ++ names)).isSome) : tree.locate p = .ok (l ++ names) := by
  refine locate_eq_ok_iff.mpr ⟨hcheck, ?_⟩
  rw [walk_spells_of_last h hl hlast]
  exact foldlM_enter_of_entry? h.proper h.noParent wf hsome

theorem locate_of_folder (hfolder : tree.entry? (l ++ names) = some .folder) :
    tree.locate p = .ok (l ++ names) := by
  have hsome : (tree.entry? (l ++ names)).isSome := by simp [hfolder]
  have hnames := foldlM_enter_of_entry? h.proper h.noParent wf hsome
  exact locate_eq_ok_iff.mpr ⟨hcheck, walk_spells_of_folder h hl hnames hfolder⟩

end Located

theorem Free.ne_nil (h : tree.Free l names) (hl : tree.entry? l = some .folder) : names ≠ [] := by
  rintro rfl
  have hnone := h.entry
  rw [List.append_nil, hl] at hnone
  cases hnone

/-- Names of entries that lead to a place with nothing there miss something. -/
theorem Free.foldlM_enter (h : tree.Free l names) (hl : tree.entry? l = some .folder)
    (hnames : ∀ name ∈ names, IsEntryName name) :
    names.foldlM tree.enter l = .error .notFound := by
  induction names generalizing l with
  | nil => exact absurd rfl (h.ne_nil hl)
  | cons name names ih =>
    obtain ⟨hname, hnames⟩ := List.forall_mem_cons.mp hnames
    rw [List.foldlM_cons]
    by_cases hentry : tree.entry? (l ++ [name]) = some .folder
    · have henter : tree.enter l name = .ok (l ++ [name]) :=
        enter_eq_ok_iff.mpr ⟨hl, by
          rw [step, if_neg (by simp [hname.proper]), if_neg hname.notParent],
          fun _ _ => ⟨hname.short, by simp [hentry]⟩⟩
      rw [henter]
      exact ih ((free_cons_iff hl).mp h) hentry hnames
    · have hnone := entry?_eq_none (h.file [name] (by simp)) hentry
      rw [enter_eq_notFound_iff.mpr ⟨hl, hname.proper, hname.notParent, hname.short, hnone⟩]
      rfl

end Tree

end Graft
