import Graft.Proofs.Place

/-! Folders that are made for a path below a root: each stands on the way that the path spells, and
they are all made where no file is in the way and each name is one that a folder can have. -/

namespace Graft

open Text

namespace Path

variable {root p q : Path} {name : Name} {names : List Name}

theorem components_ofPieces {first : Text} {rest : List Text}
    (h : ∀ piece ∈ first :: rest, '/' ∉ piece) : (ofPieces (first :: rest)).components =
      (if first = [] then some Component.root
        else if first = ['.'] then some .current else componentOf? first).toList ++
        rest.filterMap componentOf? := by
  have habs := isAbsolute_ofPieces h
  rcases pieces_ofPieces (List.cons_ne_nil first rest) h with hpieces | ⟨hroot, -⟩
  · rw [components_of_pieces hpieces]
    simp only [habs]
  · obtain ⟨rfl, rfl⟩ : first = [] ∧ rest = [] := by simpa using hroot
    rfl

theorem filterMap_componentOf?_of_passed {pieces : List Text}
    (h : ∀ piece ∈ pieces, isPassed piece = true) : pieces.filterMap componentOf? = [] := by
  rw [List.filterMap_eq_nil_iff]
  exact fun piece hpiece => componentOf?_eq_none_iff.mpr (h piece hpiece)

/-- The path without its last component ends where that one began. -/
theorem parent?_cases (h : p.parent? = some q) : q = ⟨[]⟩ ∧ p.components.dropLast = [] ∨
    ∃ first kept back, p.pieces = (first :: kept) ++ back ∧ back ≠ [] ∧
      q = ofPieces (first :: kept) ∧ p.components.dropLast = q.components ∧
      ∀ piece ∈ kept.getLast?, isPassed piece = false := by
  obtain ⟨first, rest, hpieces⟩ := List.exists_cons_of_ne_nil p.pieces_ne_nil
  obtain ⟨kept, passed, hdrop, rfl, hpassed, hlast⟩ := exists_dropTrailing first rest
  have hcomponents := components_of_pieces hpieces
  rw [List.filterMap_append, filterMap_componentOf?_of_passed hpassed, List.append_nil]
    at hcomponents
  rw [parent?, hpieces, hdrop] at h
  rcases List.eq_nil_or_concat kept with rfl | ⟨mid, last, rfl⟩
  · dsimp only at h
    split at h
    · cases h
    · refine .inl ⟨(Option.some.inj h).symm, ?_⟩
      rw [hcomponents, List.filterMap_nil, List.append_nil]
      generalize (if p.isAbsolute = true then some Component.root
        else if first = ['.'] then some .current else componentOf? first) = start
      cases start <;> rfl
  · rw [List.concat_eq_append] at *
    have hinit : (first :: (mid ++ [last])).dropLast = first :: mid := by
      rw [← List.cons_append, List.dropLast_concat]
    obtain ⟨kept, passed', hdrop', rfl, hpassed', hlast'⟩ := exists_dropTrailing first mid
    have hq : q = ofPieces (first :: kept) := by
      split at h
      · next hnil => cases hnil
      · next hsingle => simp at hsingle
      · rw [hinit, hdrop'] at h
        exact (Option.some.inj h).symm
    have hall : p.pieces = (first :: kept) ++ (passed' ++ [last] ++ passed) := by simp [hpieces]
    refine .inr ⟨first, kept, _, hall, by simp, hq, ?_, hlast'⟩
    have habs : (p.isAbsolute = true) = (first = []) := by
      rw [isAbsolute_of_pieces hall]
      simp
    have hproper : isPassed last = false := hlast last (by simp)
    have hslash : ∀ piece ∈ first :: kept, '/' ∉ piece := fun piece hpiece =>
      slash_not_mem (p := p) (hall ▸ List.mem_append_left _ hpiece)
    rw [hq, components_ofPieces hslash, hcomponents, List.filterMap_append, List.filterMap_append,
      filterMap_componentOf?_of_passed hpassed', List.append_nil,
      List.filterMap_cons_some (componentOf?_eq_part hproper), List.filterMap_nil,
      ← List.append_assoc, List.dropLast_concat]
    simp only [habs]

theorem components_parent? (h : p.parent? = some q) : q.components = p.components.dropLast := by
  rcases parent?_cases h with ⟨rfl, hnil⟩ | ⟨_, _, _, -, -, -, hdrop, -⟩
  · rw [hnil]
    rfl
  · exact hdrop.symm

/-- Nothing follows the last name of a path that leads to another's last component. -/
theorem pieces_parent? (h : p.parent? = some q)
    (hlast : q.components.getLast? = some (.normal name)) :
    ∃ before, q.pieces = before ++ [name] := by
  rcases parent?_cases h with ⟨rfl, -⟩ | ⟨first, kept, back, hpieces, -, rfl, -, hproper⟩
  · cases hlast
  · have hslash : ∀ piece ∈ first :: kept, '/' ∉ piece := fun piece hpiece =>
      slash_not_mem (p := p) (hpieces ▸ List.mem_append_left _ hpiece)
    rw [components_ofPieces hslash] at hlast
    have hname : ∀ {piece}, componentOf? piece = some (.normal name) → piece = name := by
      intro piece hpiece
      unfold componentOf? at hpiece
      split at hpiece
      · cases hpiece
      · split at hpiece
        · cases hpiece
        · exact Component.normal.inj (Option.some.inj hpiece)
    rcases List.eq_nil_or_concat kept with rfl | ⟨mid, last, rfl⟩
    · have hfirst : first = name := by
        rw [List.filterMap_nil, List.append_nil] at hlast
        split at hlast
        · cases hlast
        · split at hlast
          · cases hlast
          · refine hname ?_
            cases hcomponent : componentOf? first <;> simp [hcomponent] at hlast ⊢
            exact hlast
      rcases pieces_ofPieces (List.cons_ne_nil first []) hslash with hq | ⟨hroot, -⟩
      · exact ⟨[], by rw [hq, hfirst]; rfl⟩
      · obtain rfl : first = [] := by simpa using hroot
        simp at hlast
    · rw [List.concat_eq_append] at *
      have hpassed := hproper last (by simp)
      have hcomponent := componentOf?_eq_part hpassed
      rw [List.filterMap_append, List.filterMap_cons_some hcomponent, List.filterMap_nil,
        ← List.append_assoc, List.getLast?_concat] at hlast
      rcases pieces_ofPieces (List.cons_ne_nil first (mid ++ [last])) hslash with hq | ⟨hroot, -⟩
      · refine ⟨first :: mid, ?_⟩
        rw [hq, hname (hcomponent.trans hlast)]
        rfl
      · simp at hroot

/-- The text of the path without its last component is a beginning of the path's text. -/
theorem text_parent? (h : p.parent? = some q) : q.text <+: p.text := by
  rcases parent?_cases h with ⟨rfl, -⟩ | ⟨first, kept, back, hpieces, hback, rfl, -, -⟩
  · exact List.nil_prefix
  · exact text_ofPieces_prefix hpieces (by simp) hback

theorem length_text_parent?_lt (h : p.parent? = some q) (hne : p.components ≠ []) :
    q.text.length < p.text.length := by
  have hlead := text_parent? h
  refine Nat.lt_of_le_of_ne hlead.length_le fun hlength => ?_
  have hsame : q = p := by
    cases p
    exact congrArg Path.mk (hlead.eq_of_length hlength)
  have hdrop := congrArg List.length (components_parent? h)
  rw [hsame, List.length_dropLast] at hdrop
  have hpos := List.length_pos_iff.mpr hne
  omega

namespace Spells

variable (h : Spells root p names)

include h

theorem text_ne_nil (hroot : root.text ≠ []) : p.text ≠ [] := by
  intro hnil
  have hempty : p.components = [] := by
    cases p
    subst hnil
    rfl
  rw [h.components, below, List.append_eq_nil_iff] at hempty
  exact components_ne_nil hroot hempty.1

theorem parent (hne : names ≠ []) (hq : p.parent? = some q) : Spells root q names.dropLast := by
  have hmem : ∀ name ∈ names.dropLast, name ∈ names := (List.dropLast_sublist names).subset
  refine ⟨?_, fun name hname => h.proper name (hmem name hname), fun hparent =>
    h.noParent (hmem _ hparent)⟩
  rw [components_parent? hq, h.components, below,
    List.dropLast_append_of_ne_nil (by simpa using hne), below, List.map_dropLast]

/-- A path that leads to another's last component ends in the last name that it spells. -/
theorem ends_of_parent? (hp : q.parent? = some p) :
    ∀ name ∈ names.getLast?, ∃ before, p.pieces = before ++ [name] := by
  intro last hlast
  apply pieces_parent? hp
  rw [h.components, below, List.getLast?_append, List.getLast?_map, Option.mem_def.mp hlast]
  rfl

end Spells

end Path

namespace Tree

variable {tree made : Tree} {root p q : Path} {l m : Location} {name : Name} {names : List Name}

/-! ### Where folders are made -/

theorem checkPath_ne_notFound (h : p.text ≠ []) : checkPath p ≠ .error .notFound := by
  unfold checkPath
  split
  · simp
  · split
    · simp
    · simp

theorem place_makeFolder (h : tree.makeFolder p = .ok made) (m : Location) :
    made.entry? m = if m = tree.place p then some .folder else tree.entry? m := by
  obtain ⟨folder, name, hplace, -, -, -, rfl⟩ := makeFolder_eq_ok h
  rw [hplace, entry?_insert (by simp)]

theorem entry?_ensureFolder (h : tree.ensureFolder p = .ok made) (m : Location) :
    made.entry? m = tree.entry? m ∨ m = tree.place p := by
  unfold ensureFolder at h
  split at h
  · next made' hmade =>
    obtain rfl := Except.ok.inj h
    rw [place_makeFolder hmade]
    split
    · next hm => exact .inr hm
    · exact .inl rfl
  · split at h
    · obtain rfl := Except.ok.inj h
      exact .inl rfl
    · cases h

theorem entry?_finish (tree : Tree) (p : Path) (m : Location) :
    Tree.entry? (makeFolders.finish p tree).1 m = tree.entry? m ∨ m = tree.place p := by
  unfold makeFolders.finish
  split
  · next made hmade => exact entry?_ensureFolder hmade m
  · exact .inl rfl

theorem prefix_of_dropLast (h : m <+: l ++ names.dropLast) : m <+: l ++ names :=
  h.trans ((List.prefix_append_right_inj l).mpr (List.dropLast_prefix names))

section Spelled

variable (hroot : root.text ≠ []) (hl : tree.walk root = .ok l)
  (hfolder : tree.entry? l = some .folder)

include hroot hl hfolder

/-- The folder that a root leads to is never missed. -/
theorem makeFolder_ne_notFound (h : Path.Spells root p []) :
    tree.makeFolder p ≠ .error .notFound := by
  have hwalk := walk_spells_of_folder h hl rfl hfolder
  cases hcheck : checkPath p with
  | ok u =>
    rw [makeFolder_of_locate (locate_eq_ok_iff.mpr ⟨hcheck, hwalk⟩)]
    simp
  | error fault =>
    have hne := checkPath_ne_notFound (h.text_ne_nil hroot)
    rw [hcheck] at hne
    unfold makeFolder splitLast
    rw [hcheck]
    exact fun h => hne (by cases h; rfl)

/-- Where a folder is missed, the names before the last one spell what leads to it. -/
theorem spells_parent (h : Path.Spells root p names) (hmake : tree.makeFolder p = .error .notFound)
    (hq : p.parent? = some q) : Path.Spells root q names.dropLast := by
  refine h.parent ?_ hq
  rintro rfl
  exact makeFolder_ne_notFound hroot hl hfolder h hmake

/-- Making a folder with what leads to it changes nothing but what is on the way to it. -/
theorem entry?_makeFolders (h : Path.Spells root p names) (m : Location) :
    Tree.entry? (tree.makeFolders p).1 m = tree.entry? m ∨ m <+: l ++ names := by
  have hplace : ∀ {made : Tree} {p names}, Path.Spells root p names → made.home = tree.home →
      m = made.place p → m <+: l ++ names := by
    intro made p names h hhome hm
    have heq : m = l ++ names := by
      rw [hm, place_congr hhome, place_of_spells h, place_of_walk hl]
    exact heq ▸ List.prefix_rfl
  induction p using makeFolders.induct tree generalizing names with
  | case1 p hnil => exact absurd hnil (h.text_ne_nil hroot)
  | case2 p hnil q hq hmake hlt made fault hmade ih =>
    rw [Tree.makeFolders, if_neg hnil]
    simp only [hmake, hq, hlt, hmade, dite_true]
    have hsame := ih (spells_parent hroot hl hfolder h hmake hq)
    rw [hmade] at hsame
    exact hsame.imp_right prefix_of_dropLast
  | case3 p hnil q hq hmake hlt made hmade ih =>
    rw [Tree.makeFolders, if_neg hnil]
    simp only [hmake, hq, hlt, hmade, dite_true]
    have hsame := ih (spells_parent hroot hl hfolder h hmake hq)
    have hadds := AddsFolders.makeFolders tree q
    rw [hmade] at hsame hadds
    rcases entry?_finish made p m with hfinish | hm
    · rw [hfinish]
      exact hsame.imp_right prefix_of_dropLast
    · exact .inr (hplace h hadds.home hm)
  | case4 p hnil q hq hmake hlt =>
    rw [Tree.makeFolders, if_neg hnil]
    simp only [hmake, hq, hlt, dite_false]
    exact .inl trivial
  | case5 p hnil hother =>
    rw [Tree.makeFolders, if_neg hnil]
    split
    · next q hmake hq => exact absurd hq (hother q hmake)
    · exact (entry?_finish tree p m).imp_right (hplace h rfl)

end Spelled

/-! ### Folders that can be made -/

section Making

variable {before : List Text} (wf : tree.WellFormed) (hl : tree.walk root = .ok l)
  (h : Path.Spells root p (names ++ [name])) (hpieces : p.pieces = before ++ [name])
  (hname : IsEntryName name)

include h hpieces hname

theorem filter_before :
    (before.filter fun piece => !Path.isPassed piece) = root.names ++ names := by
  have hnames := h.names_eq
  rw [Path.names_of_pieces hpieces hname.proper, ← List.append_assoc] at hnames
  exact List.append_cancel_right hnames

/-- The folder of a path is spelled by the names before the last. -/
theorem exists_parent (hroot : root.text ≠ []) (hcheck : checkPath p = .ok ()) :
    ∃ q, p.parent? = some q ∧ Path.Spells root q names ∧ checkPath q = .ok () ∧
      ∀ name ∈ names.getLast?, ∃ before, q.pieces = before ++ [name] := by
  obtain ⟨q, hq⟩ := Option.isSome_iff_exists.mp (parent?_isSome hpieces hname)
  have hspells := h.parent (by simp) hq
  rw [List.dropLast_concat] at hspells
  exact ⟨q, hq, hspells, checkPath_of_isPrefix hcheck (Path.text_parent? hq)
    (hspells.text_ne_nil hroot), hspells.ends_of_parent? hq⟩

include hl

theorem foldlM_before : before.foldlM tree.enter (tree.startOf p) = names.foldlM tree.enter l ∨
    ∃ m, names.foldlM tree.enter l = .ok m ∧ tree.entry? m ≠ some .folder := by
  have hstart : tree.startOf p = tree.startOf root := by
    rw [startOf, startOf, h.isAbsolute]
  rw [hstart]
  exact (foldlM_spelled (filter_before h hpieces hname) hl).imp_right fun hother => hother.2.1

include wf

theorem foldlM_before_of_folder (hparent : tree.entry? (l ++ names) = some .folder) :
    before.foldlM tree.enter (tree.startOf p) = .ok (l ++ names) := by
  have hnames : names.foldlM tree.enter l = .ok (l ++ names) :=
    foldlM_enter_of_entry? (fun name hmem => h.proper name (by simp [hmem]))
      (fun hmem => h.noParent (by simp [hmem])) wf (by simp [hparent])
  rcases foldlM_before hl h hpieces hname with hbefore | ⟨m, hm, hother⟩
  · rw [hbefore, hnames]
  · rw [hnames] at hm
    obtain rfl := Except.ok.inj hm
    exact absurd hparent hother

theorem splitLast_of_folder (hcheck : checkPath p = .ok ())
    (hparent : tree.entry? (l ++ names) = some .folder) :
    tree.splitLast p = .ok (l ++ names, name, decide (p.pieces.reverse.head? = some [])) :=
  splitLast_of_pieces hcheck hpieces hname.ne_nil (by simp)
    (foldlM_before_of_folder wf hl h hpieces hname hparent) hparent

theorem makeFolder_ne_notFound_of_folder (hcheck : checkPath p = .ok ())
    (hparent : tree.entry? (l ++ names) = some .folder) :
    tree.makeFolder p ≠ .error .notFound := by
  unfold makeFolder
  rw [splitLast_of_folder wf hl h hpieces hname hcheck hparent]
  dsimp only [bind, Except.bind, pure, Except.pure]
  rw [if_neg hname.not_dots, if_neg (Nat.not_lt.mpr hname.short)]
  split <;> simp [throw, throwThe, MonadExceptOf.throw]

/-- A folder can be made in a folder, where there is no file. -/
theorem finish_of_folder (hcheck : checkPath p = .ok ())
    (hparent : tree.entry? (l ++ names) = some .folder)
    (hfile : tree.file? (l ++ names ++ [name]) = none) :
    ∃ made, makeFolders.finish p tree = (made, none) ∧
      made.entry? (l ++ names ++ [name]) = some .folder := by
  by_cases hentry : tree.entry? (l ++ names ++ [name]) = some .folder
  · rw [List.append_assoc] at hentry ⊢
    have hlocate := locate_of_folder h hl hcheck wf hentry
    have hisFolder : tree.isFolder p = true := isFolder_iff.mpr ⟨_, hlocate, hentry⟩
    refine ⟨tree, ?_, hentry⟩
    rw [makeFolders.finish, ensureFolder, makeFolder_of_locate hlocate]
    simp [hisFolder]
  · have hnone := entry?_eq_none hfile hentry
    have hmake : tree.makeFolder p = .ok (tree.insert (l ++ names ++ [name]) .folder) := by
      unfold makeFolder
      rw [splitLast_of_folder wf hl h hpieces hname hcheck hparent]
      dsimp only [bind, Except.bind, pure, Except.pure]
      rw [if_neg hname.not_dots, if_neg (Nat.not_lt.mpr hname.short), if_neg (by rw [hnone]; simp)]
    refine ⟨_, by rw [makeFolders.finish, ensureFolder, hmake], ?_⟩
    rw [entry?_insert (by simp), if_pos rfl]

omit wf in
/-- A folder that is missed on the way is not made. -/
theorem makeFolder_of_free (hcheck : checkPath p = .ok ())
    (hfolder : tree.entry? l = some .folder) (hnames : ∀ name ∈ names, IsEntryName name)
    (hfree : tree.Free l names) : tree.makeFolder p = .error .notFound := by
  have hmiss := hfree.foldlM_enter hfolder hnames
  have hsplit : tree.splitLast p = .error .notFound := by
    rw [splitLast_eq hcheck hpieces hname.ne_nil (by simp)]
    rcases foldlM_before hl h hpieces hname with hbefore | ⟨m, hm, -⟩
    · rw [hbefore, hmiss]
      rfl
    · rw [hmiss] at hm
      cases hm
  unfold makeFolder
  rw [hsplit]
  rfl

end Making

theorem makeFolders_eq_finish (hnil : p.text ≠ [])
    (h : tree.makeFolder p ≠ .error .notFound) :
    tree.makeFolders p = makeFolders.finish p tree := by
  rw [makeFolders, if_neg hnil]
  split
  · next q hmake hq => exact absurd hmake h
  · rfl

/-- A folder is made with all that lead to it, where no file is in the way. -/
theorem makeFolders_of_clear (wf : tree.WellFormed) (hroot : root.text ≠ [])
    (hl : tree.walk root = .ok l) (hfolder : tree.entry? l = some .folder)
    (h : Path.Spells root p names) (hends : ∀ name ∈ names.getLast?, ∃ before,
      p.pieces = before ++ [name]) (hnames : ∀ name ∈ names, IsEntryName name)
    (hcheck : checkPath p = .ok ())
    (hclear : ∀ front, front <+: names → tree.file? (l ++ front) = none) :
    ∃ made, tree.makeFolders p = (made, none) ∧ made.entry? (l ++ names) = some .folder := by
  induction names using List.reverseRecOn generalizing p with
  | nil =>
    have hlocate := locate_eq_ok_iff.mpr ⟨hcheck, walk_spells_of_folder h hl rfl hfolder⟩
    exact ⟨tree, makeFolders_of_folder hlocate hfolder, by simpa using hfolder⟩
  | append_singleton names name ih =>
    obtain ⟨before, hpieces⟩ := hends name (by simp)
    have hname := hnames name (by simp)
    have hnames' : ∀ name ∈ names, IsEntryName name := fun name hmem => hnames name (by simp [hmem])
    have hnil := h.text_ne_nil hroot
    have hfile : tree.file? (l ++ names ++ [name]) = none := by
      rw [List.append_assoc]
      exact hclear _ List.prefix_rfl
    have hclear' : ∀ front, front <+: names → tree.file? (l ++ front) = none :=
      fun front hfront => hclear front (hfront.trans (List.prefix_append names [name]))
    rw [← List.append_assoc]
    by_cases hparent : tree.entry? (l ++ names) = some .folder
    · rw [makeFolders_eq_finish hnil
        (makeFolder_ne_notFound_of_folder wf hl h hpieces hname hcheck hparent)]
      exact finish_of_folder wf hl h hpieces hname hcheck hparent hfile
    · -- what leads to the folder is made first
      have hfree : tree.Free l names :=
        ⟨entry?_eq_none (hclear' names List.prefix_rfl) hparent, hclear'⟩
      have hmiss := makeFolder_of_free hl h hpieces hname hcheck hfolder hnames' hfree
      obtain ⟨q, hq, hspells, hcheckq, hends'⟩ := exists_parent h hpieces hname hroot hcheck
      have hlt := Path.length_text_parent?_lt hq (by simp [h.components, Path.below])
      obtain ⟨made, hmade, hentry⟩ := ih hspells hends' hnames' hcheckq hclear'
      have hadds := AddsFolders.makeFolders tree q
      rw [hmade] at hadds
      have hmakeFolders : tree.makeFolders p = makeFolders.finish p made := by
        rw [makeFolders, if_neg hnil]
        simp only [hmiss, hq, hlt, hmade, dite_true]
      rw [hmakeFolders]
      exact finish_of_folder (hadds.wellFormed wf) (hadds.grows.walk hl) h hpieces hname hcheck
        hentry (by rw [hadds.file?, hfile])

end Tree

end Graft
