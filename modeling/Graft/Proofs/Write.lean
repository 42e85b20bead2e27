import Graft.Proofs.Tree
import Graft.Tree.Write

/-! What writing does to a well-formed tree: making folders only adds folders, a file goes to the
place of its path if there is room for the temporary file, and pruning leaves what stays and what
leads to it. -/

namespace Graft.Tree

open Text

variable {tree other : Tree} {l m folder : Location} {name : Name} {e : Entry}

/-! ### Single entries -/

theorem entry?_insert (hl : l ≠ []) :
    entry? (tree.insert l e) m = if m = l then some e else tree.entry? m := by
  by_cases hm : m = l
  · rw [if_pos hm, hm, entry?_of_ne_nil hl, insert]
    simp
  · rw [if_neg hm]
    by_cases hnil : m = []
    · simp [hnil]
    · rw [entry?_of_ne_nil hnil, entry?_of_ne_nil hnil, insert, List.lookup_cons]
      have hne : (m == l) = false := by simpa using hm
      rw [hne]
      exact lookup_filter_ne hm

theorem file?_insert {content : Content} (hl : l ≠ []) :
    file? (tree.insert l (.file content)) m = if m = l then some content else tree.file? m := by
  unfold file?
  rw [entry?_insert hl]
  by_cases hm : m = l <;> simp [hm]

theorem WellFormed.insert (wf : tree.WellFormed) (hname : IsEntryName name)
    (hfolder : tree.entry? folder = some .folder)
    (hfree : tree.entry? (folder ++ [name]) ≠ some .folder) :
    (tree.insert (folder ++ [name]) e).WellFormed := by
  have hne : folder ++ [name] ≠ [] := by simp
  have hfolders : ∀ l, tree.entry? l = some .folder →
      entry? (tree.insert (folder ++ [name]) e) l = some .folder := by
    intro l hl
    rw [entry?_insert hne, if_neg]
    · exact hl
    · rintro rfl
      exact hfree hl
  refine ⟨?_, fun m e' hmem => ?_⟩
  · have hnodup : ((tree.entries.filter (·.1 ≠ folder ++ [name])).map (·.1)).Nodup :=
      wf.nodup.sublist (List.filter_sublist.map _)
    refine List.nodup_cons.mpr ⟨?_, hnodup⟩
    simp
  · rcases List.mem_cons.mp hmem with heq | hmem
    · obtain ⟨rfl, rfl⟩ := Prod.mk.inj heq
      exact ⟨folder, name, rfl, hname, hfolders folder hfolder⟩
    · obtain ⟨parent, name', rfl, hname', hparent⟩ := wf.placed m e' (List.mem_filter.mp hmem).1
      exact ⟨parent, name', rfl, hname', hfolders parent hparent⟩

/-- A tree after folders were made where there was nothing. -/
structure AddsFolders (before after : Tree) : Prop where
  home : after.home = before.home
  entry : ∀ l, after.entry? l = before.entry? l ∨
    before.entry? l = none ∧ after.entry? l = some .folder
  wellFormed : before.WellFormed → after.WellFormed

namespace AddsFolders

theorem refl (tree : Tree) : AddsFolders tree tree := ⟨rfl, fun _ => .inl rfl, id⟩

theorem trans {first second third : Tree} (h : AddsFolders first second)
    (h' : AddsFolders second third) : AddsFolders first third := by
  refine ⟨h'.home.trans h.home, fun l => ?_, fun wf => h'.wellFormed (h.wellFormed wf)⟩
  rcases h.entry l with heq | ⟨hnone, hfolder⟩
  · rw [← heq]
    exact h'.entry l
  · rcases h'.entry l with heq' | ⟨hnone', -⟩
    · exact .inr ⟨hnone, heq'.trans hfolder⟩
    · rw [hfolder] at hnone'
      cases hnone'

theorem file? (h : AddsFolders tree other) (l : Location) : other.file? l = tree.file? l := by
  unfold Tree.file?
  rcases h.entry l with heq | ⟨hnone, hfolder⟩
  · rw [heq]
  · rw [hnone, hfolder]

theorem grows (h : AddsFolders tree other) : Grows tree other := by
  refine ⟨h.home, fun l hl => ?_, fun l hl => by rwa [h.file? l]⟩
  rcases h.entry l with heq | ⟨hnone, -⟩
  · exact heq.trans hl
  · rw [hl] at hnone
    cases hnone

end AddsFolders

theorem Grows.of_insert_file {content : Content} (hfree : tree.entry? l ≠ some .folder) :
    Grows tree (tree.insert l (.file content)) := by
  have hl : l ≠ [] := by
    rintro rfl
    exact hfree rfl
  refine ⟨rfl, fun m hm => ?_, fun m hm => ?_⟩
  · rw [entry?_insert hl, if_neg]
    · exact hm
    · rintro rfl
      exact hfree hm
  · rw [file?_insert hl]
    split
    · rfl
    · exact hm

/-! ### The place of a path's last piece -/

theorem foldlM_enter_append {pieces rest : List Text} :
    (pieces ++ rest).foldlM tree.enter l = .ok m ↔
      ∃ k, pieces.foldlM tree.enter l = .ok k ∧ rest.foldlM tree.enter k = .ok m := by
  rw [List.foldlM_append]
  cases pieces.foldlM tree.enter l <;> simp [bind, Except.bind]

theorem foldlM_enter_singleton {piece : Text} :
    [piece].foldlM tree.enter l = .ok m ↔ tree.enter l piece = .ok m := by
  rw [foldlM_enter_cons]
  simp [pure, Except.pure]

/-- The last piece of a path, the folder that it is in, and whether slashes follow. -/
theorem splitLast_eq_ok {p : Path} {last : Text} {slashed : Bool}
    (h : tree.splitLast p = .ok (l, last, slashed)) (hdot : last ≠ ['.']) :
    checkPath p = .ok () ∧ tree.entry? l = some .folder ∧ last ≠ [] ∧
      ∃ before blanks, p.pieces = before ++ last :: blanks ∧
        before.foldlM tree.enter (tree.startOf p) = .ok l ∧ (∀ blank ∈ blanks, blank = []) ∧
        (slashed = false → blanks = []) := by
  have hsplit := List.takeWhile_append_dropWhile (p := (·.isEmpty)) (l := p.pieces.reverse)
  unfold splitLast at h
  cases hcheck : checkPath p with
  | error fault => rw [hcheck] at h; cases h
  | ok u =>
    rw [hcheck] at h
    dsimp only [bind, Except.bind] at h
    split at h
    · obtain ⟨-, rfl, -⟩ : [] = l ∧ ['.'] = last ∧ true = slashed := by
        simpa [pure, Except.pure] using h
      exact absurd rfl hdot
    · next last' before hdrop =>
      split at h
      · cases h
      · next l' hl =>
        by_cases hfolder : tree.isFolderAt l' = true
        · rw [if_neg (by simp [hfolder])] at h
          obtain ⟨rfl, rfl, rfl⟩ :
              l' = l ∧ last' = last ∧ decide (p.pieces.reverse.head? = some []) = slashed := by
            simpa [pure, Except.pure] using h
          rw [hdrop] at hsplit
          have hlast : last'.isEmpty = false := by
            have hhead := List.head?_dropWhile_not (·.isEmpty) p.pieces.reverse
            rw [hdrop] at hhead
            simpa using hhead
          have hpieces : p.pieces = before.reverse ++ last' ::
              (p.pieces.reverse.takeWhile (·.isEmpty)).reverse := by
            have hreverse := congrArg List.reverse hsplit
            simpa using hreverse.symm
          refine ⟨rfl, isFolderAt_iff.mp hfolder, by simpa using hlast, before.reverse, _, hpieces,
            hl, fun blank hblank => ?_, fun hslashed => ?_⟩
          · simpa using List.mem_takeWhile_imp (List.mem_reverse.mp hblank)
          cases hblanks : p.pieces.reverse.takeWhile (·.isEmpty) with
          | nil => rfl
          | cons blank blanks =>
            -- a blank piece at the end is a slash there
            rw [hblanks] at hsplit
            have hblank : blank.isEmpty = true :=
              List.mem_takeWhile_imp (by rw [hblanks]; simp)
            rw [← hsplit, List.isEmpty_iff.mp hblank] at hslashed
            simp at hslashed
        · rw [if_pos (by simp [hfolder])] at h
          cases h

/-- The last piece of a path as a name, which has its place in a folder. -/
theorem isEntryName_of_pieces {p : Path} {before blanks : List Text} {last : Text}
    (hpieces : p.pieces = before ++ last :: blanks) (hne : last ≠ [])
    (hdots : ¬(last = ['.'] ∨ last = ['.', '.'])) (hsize : ¬nameLimit < last.size) :
    IsEntryName last where
  proper := by
    simp only [Path.isPassed, decide_eq_false_iff_not]
    rintro (h | h)
    · exact hne h
    · exact hdots (.inl h)
  notParent h := hdots (.inr h)
  noSlash := Path.slash_not_mem (p := p) (by simp [hpieces])
  short := Nat.not_lt.mp hsize

/-- Pieces that are passed over lead nowhere else. -/
theorem foldl_step_of_passed {pieces : List Text}
    (h : ∀ piece ∈ pieces, Path.isPassed piece = true) (l : Location) :
    pieces.foldl step l = l := by
  induction pieces with
  | nil => rfl
  | cons piece pieces ih =>
    rw [List.foldl_cons, step, if_pos (h piece (by simp))]
    exact ih fun piece' h' => h piece' (by simp [h'])

/-! ### Folders -/

/-- A folder is made where its path leads. -/
theorem makeFolder_eq_ok {p : Path} {made : Tree} (h : tree.makeFolder p = .ok made) :
    ∃ folder name, tree.place p = folder ++ [name] ∧ IsEntryName name ∧
      tree.entry? folder = some .folder ∧ tree.entry? (folder ++ [name]) = none ∧
      made = tree.insert (folder ++ [name]) .folder := by
  unfold makeFolder at h
  cases hsplit : tree.splitLast p with
  | error fault => rw [hsplit] at h; cases h
  | ok parts =>
    obtain ⟨folder, last, slashed⟩ := parts
    rw [hsplit] at h
    dsimp only [bind, Except.bind] at h
    split at h
    · cases h
    · next hdots =>
      split at h
      · cases h
      · next hsize =>
        split at h
        · cases h
        · next hfree =>
          obtain rfl := Except.ok.inj h
          obtain ⟨-, hfolder, hne, before, blanks, hpieces, hbefore, hblanks, -⟩ :=
            splitLast_eq_ok hsplit fun hdot => hdots (.inl hdot)
          have hname := isEntryName_of_pieces hpieces hne hdots hsize
          refine ⟨folder, last, ?_, hname, hfolder, by simpa using hfree, rfl⟩
          have hpassed : ∀ blank ∈ blanks, Path.isPassed blank = true := by
            intro blank hblank
            rw [hblanks blank hblank]
            rfl
          rw [place, hpieces, List.foldl_append, ← foldlM_enter hbefore, List.foldl_cons,
            foldl_step_of_passed hpassed, step, if_neg (by simp [hname.proper]),
            if_neg hname.notParent]

theorem AddsFolders.of_makeFolder {p : Path} {made : Tree} (h : tree.makeFolder p = .ok made) :
    AddsFolders tree made := by
  obtain ⟨folder, name, -, hname, hfolder, hfree, rfl⟩ := makeFolder_eq_ok h
  refine ⟨rfl, fun l => ?_, fun wf => wf.insert hname hfolder (by simp [hfree])⟩
  rw [entry?_insert (by simp)]
  split
  · next hl => exact .inr ⟨hl ▸ hfree, rfl⟩
  · exact .inl rfl

theorem AddsFolders.of_ensureFolder {p : Path} {made : Tree} (h : tree.ensureFolder p = .ok made) :
    AddsFolders tree made := by
  unfold ensureFolder at h
  split at h
  · next made' hmade =>
    obtain rfl := Except.ok.inj h
    exact of_makeFolder hmade
  · split at h
    · obtain rfl := Except.ok.inj h
      exact refl tree
    · cases h

theorem AddsFolders.finish (tree : Tree) (p : Path) :
    AddsFolders tree (makeFolders.finish p tree).1 := by
  unfold makeFolders.finish
  split
  · next made hmade => exact of_ensureFolder hmade
  · exact refl tree

/-- Making a folder and what leads to it only adds folders, also when it fails midway. -/
theorem AddsFolders.makeFolders (tree : Tree) (p : Path) :
    AddsFolders tree (tree.makeFolders p).1 := by
  induction p using makeFolders.induct tree with
  | case1 p hnil =>
    rw [Tree.makeFolders, if_pos hnil]
    exact refl tree
  | case2 p hnil q hq hmake hlt made fault hmade ih =>
    rw [Tree.makeFolders, if_neg hnil]
    simp only [hmake, hq, hlt, hmade, dite_true]
    rwa [hmade] at ih
  | case3 p hnil q hq hmake hlt made hmade ih =>
    rw [Tree.makeFolders, if_neg hnil]
    simp only [hmake, hq, hlt, hmade, dite_true]
    rw [hmade] at ih
    exact ih.trans (finish made p)
  | case4 p hnil q hq hmake hlt =>
    rw [Tree.makeFolders, if_neg hnil]
    simp only [hmake, hq, hlt, dite_false]
    exact refl tree
  | case5 p hnil hother =>
    rw [Tree.makeFolders, if_neg hnil]
    split
    · next q hmake hq => exact absurd hq (hother q hmake)
    · exact finish tree p

/-! ### Files -/

/-- Whether the path of the temporary file for a file is not too long. -/
def hasRoom (tree : Tree) (p : Path) : Bool :=
  p.parent?.all fun folder => !(tree.temporaryIn folder).isTooLong

theorem hasRoom_congr (h : other.home = tree.home) (p : Path) :
    other.hasRoom p = tree.hasRoom p := by
  simp only [hasRoom, temporaryIn, h]

/-- Without room for the temporary file nothing is written. -/
theorem write_of_not_hasRoom {p : Path} (h : tree.hasRoom p = false) (t : Text) :
    ∃ folder ∈ p.parent?,
      tree.write p t = .error (.temporaryTooLong (tree.temporaryIn folder)) := by
  unfold hasRoom at h
  cases hparent : p.parent? with
  | none => simp [hparent] at h
  | some folder =>
    have hlong : (tree.temporaryIn folder).isTooLong = true := by simpa [hparent] using h
    refine ⟨folder, rfl, ?_⟩
    rw [write, hparent]
    exact if_pos hlong

theorem hasRoom_of_write {p : Path} {t : Text} {written : Tree}
    (h : tree.write p t = .ok written) : tree.hasRoom p = true := by
  by_contra hroom
  obtain ⟨folder, -, hwrite⟩ := write_of_not_hasRoom (Bool.eq_false_iff.mpr hroom) t
  rw [h] at hwrite
  cases hwrite

/-- Writing a file puts it where its path leads to from then on. -/
theorem write_eq_ok {p : Path} {t : Text} {written : Tree} (h : tree.write p t = .ok written) :
    ∃ folder name, IsEntryName name ∧ tree.entry? folder = some .folder ∧
      tree.entry? (folder ++ [name]) ≠ some .folder ∧
      written = tree.insert (folder ++ [name]) (.file (.text t)) ∧
      written.locate p = .ok (folder ++ [name]) := by
  unfold write at h
  split at h
  · cases h
  split at h
  · cases h
  · cases hsplit : tree.splitLast p with
    | error fault => rw [hsplit] at h; cases h
    | ok parts =>
      obtain ⟨folder, last, slashed⟩ := parts
      rw [hsplit] at h
      dsimp only [bind, Except.bind, pure, Except.pure] at h
      split at h
      · cases h
      · next hdots =>
        split at h
        · cases h
        · next hsize =>
          split at h
          · cases h
          · next hslashed =>
            split at h
            · cases h
            · next hfree =>
              obtain rfl := Except.ok.inj h
              obtain ⟨hcheck, hfolder, hne, before, blanks, hpieces, hbefore, -, hblanks⟩ :=
                splitLast_eq_ok hsplit fun hdot => hdots (.inl hdot)
              obtain rfl := hblanks (by simpa using hslashed)
              have hname := isEntryName_of_pieces hpieces hne hdots hsize
              have hfree := fun hl => hfree (isFolderAt_iff.mpr hl)
              refine ⟨folder, last, hname, hfolder, hfree, rfl, ?_⟩
              refine locate_eq_ok_iff.mpr ⟨hcheck, ?_⟩
              rw [walk, hpieces, foldlM_enter_append]
              have hgrows : Grows tree (tree.insert _ (.file (.text t))) :=
                .of_insert_file hfree
              refine ⟨folder, hgrows.foldlM_enter hbefore, ?_⟩
              rw [foldlM_enter_singleton, enter_eq_ok_iff]
              refine ⟨hgrows.folder folder hfolder, ?_, fun _ _ => ⟨hname.short, ?_⟩⟩
              · rw [step, if_neg (by simp [hname.proper]), if_neg hname.notParent]
              · simp [entry?_insert]

/-- A path that leads to a file ends with the file's name. -/
theorem pieces_of_file (wf : tree.WellFormed) {p : Path} (hl : tree.locate p = .ok l)
    (hfile : (tree.file? l).isSome) :
    ∃ before folder name, p.pieces = before ++ [name] ∧ l = folder ++ [name] ∧
      IsEntryName name ∧ tree.entry? folder = some .folder ∧
      before.foldlM tree.enter (tree.startOf p) = .ok folder := by
  obtain ⟨content, hcontent⟩ := Option.isSome_iff_exists.mp hfile
  have hentry := file?_eq_some_iff.mp hcontent
  obtain ⟨before, name, hpieces⟩ : ∃ before name, p.pieces = before ++ [name] :=
    ⟨_, _, (List.dropLast_append_getLast p.pieces_ne_nil).symm⟩
  have hwalk := (locate_eq_ok_iff.mp hl).2
  rw [walk, hpieces, foldlM_enter_append] at hwalk
  obtain ⟨folder, hbefore, hlast⟩ := hwalk
  rw [foldlM_enter_singleton, enter_eq_ok_iff] at hlast
  obtain ⟨hfolder, hstep, -⟩ := hlast
  have hplace : l = folder ++ [name] := by
    rw [hstep]
    unfold step
    split
    · next hpassed =>
      rw [hstep, step, if_pos hpassed, hfolder] at hentry
      cases hentry
    · next hpassed =>
      split
      · next hparent =>
        -- the folder above a folder is a folder
        rw [hstep, step, if_neg hpassed, if_pos hparent] at hentry
        by_cases hnil : folder = []
        · rw [hnil, List.dropLast_nil, entry?_nil] at hentry
          cases hentry
        · have hsplit := List.dropLast_append_getLast hnil
          rw [← hsplit] at hfolder
          have habove := (wf.folder_of_append (by rw [hfolder]; rfl)).1 (by simp)
          rw [habove] at hentry
          cases hentry
      · rfl
  have hsome : (tree.entry? (folder ++ [name])).isSome := by
    rw [← hplace, hentry]
    rfl
  have hname := wf.placed_of_entry? hsome
  exact ⟨before, folder, name, hpieces, hplace, hname.1, hname.2, hbefore⟩

theorem splitLast_eq {p : Path} {before blanks : List Text} {last : Text}
    (hcheck : checkPath p = .ok ()) (hpieces : p.pieces = before ++ last :: blanks)
    (hne : last ≠ []) (hblanks : ∀ blank ∈ blanks, blank = []) :
    tree.splitLast p = before.foldlM tree.enter (tree.startOf p) >>= fun folder =>
      if tree.isFolderAt folder then
        .ok (folder, last, decide (p.pieces.reverse.head? = some []))
      else .error .notFolder := by
  have hdrop : p.pieces.reverse.dropWhile (·.isEmpty) = last :: before.reverse := by
    have hreverse : p.pieces.reverse = blanks.reverse ++ last :: before.reverse := by
      simp [hpieces]
    rw [hreverse, List.dropWhile_append_of_pos fun blank hblank => by
      simpa using hblanks blank (List.mem_reverse.mp hblank),
      List.dropWhile_cons_of_neg (by simpa using hne)]
  unfold splitLast
  rw [hcheck]
  dsimp only [bind, Except.bind]
  rw [hdrop]
  simp only [List.reverse_reverse]
  cases before.foldlM tree.enter (tree.startOf p) with
  | error fault => rfl
  | ok folder => cases hfolder : tree.isFolderAt folder <;> simp [hfolder] <;> rfl

theorem splitLast_of_pieces {p : Path} {before blanks : List Text} {last : Text}
    (hcheck : checkPath p = .ok ()) (hpieces : p.pieces = before ++ last :: blanks)
    (hne : last ≠ []) (hblanks : ∀ blank ∈ blanks, blank = [])
    (hbefore : before.foldlM tree.enter (tree.startOf p) = .ok l)
    (hfolder : tree.entry? l = some .folder) :
    tree.splitLast p = .ok (l, last, decide (p.pieces.reverse.head? = some [])) := by
  rw [splitLast_eq hcheck hpieces hne hblanks, hbefore]
  exact if_pos (isFolderAt_iff.mpr hfolder)

theorem parent?_isSome {p : Path} {before : List Text} {name : Name}
    (hpieces : p.pieces = before ++ [name]) (hname : IsEntryName name) :
    p.parent?.isSome := by
  cases before with
  | nil =>
    have htext : p.text = name := by
      have := joinWith_splitOn '/' p.text
      rw [show splitOn '/' p.text = [name] from hpieces, joinWith_singleton] at this
      exact this.symm
    rw [Path.parent?_of_single (by rw [hpieces, htext]; rfl) (by rw [htext]; exact hname.ne_nil)]
    rfl
  | cons first mid =>
    rw [Path.parent?_of_pieces hpieces hname.proper]
    rfl

/-- A file can be written in a folder, where there is no folder of its name. -/
theorem write_of_pieces {p : Path} {before : List Text} {name : Name}
    (hcheck : checkPath p = .ok ()) (hpieces : p.pieces = before ++ [name])
    (hname : IsEntryName name) (hbefore : before.foldlM tree.enter (tree.startOf p) = .ok l)
    (hfolder : tree.entry? l = some .folder) (hfree : tree.entry? (l ++ [name]) ≠ some .folder)
    (hroom : tree.hasRoom p = true) (t : Text) :
    tree.write p t = .ok (tree.insert (l ++ [name]) (.file (.text t))) := by
  have hsplit := splitLast_of_pieces hcheck hpieces hname.ne_nil (by simp) hbefore hfolder
  have hlast : ¬(p.pieces.reverse.head? = some []) := by
    rw [hpieces]
    simpa using hname.ne_nil
  obtain ⟨q, hq⟩ := Option.isSome_iff_exists.mp (parent?_isSome hpieces hname)
  have hshort : ¬(tree.temporaryIn q).isTooLong = true := by simpa [hasRoom, hq] using hroom
  rw [write, hq]
  dsimp only
  rw [if_neg hshort, hsplit]
  dsimp only [bind, Except.bind, pure, Except.pure]
  rw [if_neg hname.not_dots, if_neg (Nat.not_lt.mpr hname.short), if_neg (by simpa using hlast),
    if_neg (by rwa [isFolderAt_iff])]

/-- A file can be written again. -/
theorem write_of_file (wf : tree.WellFormed) {p : Path} (hl : tree.locate p = .ok l)
    (hfile : (tree.file? l).isSome) (hroom : tree.hasRoom p = true) (t : Text) :
    tree.write p t = .ok (tree.insert l (.file (.text t))) := by
  obtain ⟨content, hcontent⟩ := Option.isSome_iff_exists.mp hfile
  obtain ⟨before, folder, name, hpieces, rfl, hname, hfolder, hbefore⟩ := pieces_of_file wf hl hfile
  exact write_of_pieces (locate_eq_ok_iff.mp hl).1 hpieces hname hbefore hfolder
    (by simp [file?_eq_some_iff.mp hcontent]) hroom t

theorem makeFolder_of_locate {p : Path} (hm : tree.locate p = .ok m) :
    tree.makeFolder p = .error .exists := by
  obtain ⟨hcheck, hwalk⟩ := locate_eq_ok_iff.mp hm
  rw [walk] at hwalk
  have hsplit := List.takeWhile_append_dropWhile (p := (·.isEmpty)) (l := p.pieces.reverse)
  cases hdrop : p.pieces.reverse.dropWhile (·.isEmpty) with
  | nil =>
    have hlast : tree.splitLast p = .ok ([], ['.'], true) := by
      unfold splitLast
      rw [hcheck]
      dsimp only [bind, Except.bind]
      rw [hdrop]
      rfl
    unfold makeFolder
    rw [hlast]
    rfl
  | cons last before =>
    rw [hdrop] at hsplit
    have hpieces : p.pieces = before.reverse ++ last ::
        (p.pieces.reverse.takeWhile (·.isEmpty)).reverse := by
      have hreverse := congrArg List.reverse hsplit
      simpa using hreverse.symm
    have hne : last ≠ [] := by
      have hhead := List.head?_dropWhile_not (·.isEmpty) p.pieces.reverse
      rw [hdrop] at hhead
      simpa using hhead
    rw [hpieces, foldlM_enter_append] at hwalk
    obtain ⟨folder, hbefore, hrest⟩ := hwalk
    obtain ⟨next, hnext, -⟩ := foldlM_enter_cons.mp hrest
    obtain ⟨hfolder, -, hexists⟩ := enter_eq_ok_iff.mp hnext
    have hlast := splitLast_of_pieces hcheck hpieces hne (fun blank hblank => by
      simpa using List.mem_takeWhile_imp (List.mem_reverse.mp hblank)) hbefore hfolder
    unfold makeFolder
    rw [hlast]
    dsimp only [bind, Except.bind]
    split
    · rfl
    · next hdots =>
      obtain ⟨hsize, hsome⟩ := hexists (by
        simpa [Path.isPassed, hne] using fun hdot => hdots (.inl hdot))
        fun hparent => hdots (.inr hparent)
      rw [if_neg (Nat.not_lt.mpr hsize), if_pos hsome]
      rfl

/-- A folder that is there needs no making. -/
theorem makeFolders_of_folder {p : Path} (hm : tree.locate p = .ok m)
    (hfolder : tree.entry? m = some .folder) : tree.makeFolders p = (tree, none) := by
  have hmake := makeFolder_of_locate hm
  have hisFolder : tree.isFolder p = true := by
    simp [isFolder, find?, hm, hfolder]
  rw [makeFolders]
  split
  · rfl
  · simp only [hmake, makeFolders.finish, ensureFolder, hisFolder, if_true]

/-- What the text of a path that can be looked up begins with can be looked up, unless it is
empty. -/
theorem checkPath_of_isPrefix {p q : Path} (hcheck : checkPath p = .ok ()) (hq : q.text <+: p.text)
    (hne : q.text ≠ []) : checkPath q = .ok () := by
  unfold checkPath at *
  split at hcheck
  · cases hcheck
  · next hnul =>
    split at hcheck
    · cases hcheck
    · next hshort =>
      rw [if_neg (by simpa using fun hmem => hnul (by simpa using hq.subset hmem)),
        if_neg fun hlong => hshort (Path.isTooLong_of_prefix hq hlong), if_neg hne]

theorem eq_of_foldlM_passed {pieces : List Text} (h : pieces.foldlM tree.enter l = .ok m)
    (hpassed : ∀ piece ∈ pieces, Path.isPassed piece = true) : m = l := by
  rw [foldlM_enter h, foldl_step_of_passed hpassed]

/-- The path to the folder that a file is in. -/
theorem locate_parent {p q : Path} {before : List Text} {name : Name}
    (hcheck : checkPath p = .ok ()) (hpieces : p.pieces = before ++ [name])
    (hname : IsEntryName name) (hbefore : before.foldlM tree.enter (tree.startOf p) = .ok folder)
    (hfolder : tree.entry? folder = some .folder) (hq : p.parent? = some q) (hne : q.text ≠ []) :
    tree.locate q = .ok folder := by
  cases before with
  | nil =>
    have htext : p.text = name := by
      have := joinWith_splitOn '/' p.text
      rw [show splitOn '/' p.text = [name] from hpieces, joinWith_singleton] at this
      exact this.symm
    rw [Path.parent?_of_single (by rw [hpieces, htext]; rfl) (by rw [htext]; exact hname.ne_nil)]
      at hq
    obtain rfl := Option.some.inj hq
    exact absurd rfl hne
  | cons first mid =>
    rw [Path.parent?_of_pieces hpieces hname.proper] at hq
    obtain rfl := Option.some.inj hq
    obtain ⟨kept, passed, hkept, rfl, hpassed, -⟩ := Path.exists_dropTrailing first mid
    rw [hkept] at hne ⊢
    have hall : p.pieces = (first :: kept) ++ (passed ++ [name]) := by simp [hpieces]
    have hlead := Path.text_ofPieces_prefix hall (by simp) (by simp)
    have hslash : ∀ piece ∈ first :: kept, '/' ∉ piece := fun piece hpiece =>
      Path.slash_not_mem (p := p) (hall ▸ List.mem_append_left _ hpiece)
    refine locate_eq_ok_iff.mpr ⟨checkPath_of_isPrefix hcheck hlead hne, ?_⟩
    rw [← List.cons_append, foldlM_enter_append] at hbefore
    obtain ⟨k, hk, hrest⟩ := hbefore
    obtain rfl := eq_of_foldlM_passed hrest hpassed
    have habs : p.isAbsolute = true ↔ first = [] := by
      rw [Path.isAbsolute_of_pieces hall]
      simp
    have hsame : (Path.ofPieces (first :: kept)).isAbsolute = p.isAbsolute := by
      rw [Bool.eq_iff_iff, habs, Path.isAbsolute_ofPieces hslash]
    rw [walk, startOf, hsame]
    rcases Path.pieces_ofPieces (List.cons_ne_nil first kept) hslash with hq | ⟨hroot, hq⟩
    · rw [hq]
      exact hk
    · obtain ⟨rfl, rfl⟩ : first = [] ∧ kept = [] := by simpa using hroot
      rw [hq]
      exact foldlM_enter_append.mpr ⟨_, hk, foldlM_enter_singleton.mpr
        (enter_eq_ok_iff.mpr ⟨hfolder, rfl, by simp [Path.isPassed]⟩)⟩

/-- The folder that a file is in needs no making. -/
theorem makeFolders_of_file (wf : tree.WellFormed) {p q : Path} (hl : tree.locate p = .ok l)
    (hfile : (tree.file? l).isSome) (hq : p.parent? = some q) :
    tree.makeFolders q = (tree, none) := by
  by_cases hnil : q.text = []
  · rw [makeFolders, if_pos hnil]
  · obtain ⟨before, folder, name, hpieces, -, hname, hfolder, hbefore⟩ := pieces_of_file wf hl hfile
    exact makeFolders_of_folder
      (locate_parent (locate_eq_ok_iff.mp hl).1 hpieces hname hbefore hfolder hq hnil) hfolder

/-! ### Pruning -/

/-- A location leads to one of the entries that stay below a folder. -/
def LeadsToKept (tree : Tree) (l : Location) (stays : Location → Entry → Bool) (m : Location) :
    Prop :=
  ∃ names e, tree.entry? (l ++ names) = some e ∧ stays names e = true ∧ m <+: l ++ names

theorem lookup_filter {entries : List (Location × Entry)} (hnodup : (entries.map (·.1)).Nodup)
    (p : Location × Entry → Bool) (m : Location) :
    (entries.filter p).lookup m = (entries.lookup m).filter fun e => p (m, e) := by
  induction entries with
  | nil => rfl
  | cons x entries ih =>
    obtain ⟨k, e⟩ := x
    obtain ⟨hk, hrest⟩ := List.nodup_cons.mp hnodup
    rw [List.filter_cons, List.lookup_cons]
    by_cases hm : m = k
    · subst hm
      have hnone : entries.lookup m = none := by
        rw [List.lookup_eq_none_iff]
        intro x hx
        have hne : m ≠ x.1 := fun heq => hk (List.mem_map.mpr ⟨x, hx, heq.symm⟩)
        simpa using hne
      cases hp : p (m, e) with
      | true => simp [Option.filter, hp]
      | false => simp [Option.filter, hp, ih hrest, hnone]
    · have hne : (m == k) = false := by simpa using hm
      rw [hne]
      split
      · rw [List.lookup_cons, hne]
        exact ih hrest
      · exact ih hrest

section Prune

variable {stays : Location → Entry → Bool} {names : List Name}

theorem leadsToKept_of_isPrefix {k : Location} (hk : k <+: m) (h : LeadsToKept tree l stays m) :
    LeadsToKept tree l stays k := by
  obtain ⟨names, e, he, hstays, hm⟩ := h
  exact ⟨names, e, he, hstays, hk.trans hm⟩

/-- Only a folder leads on to other entries. -/
theorem eq_of_isPrefix_of_file? (wf : tree.WellFormed) {k : Location} (hm : (tree.file? m).isSome)
    (hk : (tree.entry? k).isSome) (h : m <+: k) : m = k := by
  obtain ⟨rest, rfl⟩ := h
  obtain ⟨content, hcontent⟩ := Option.isSome_iff_exists.mp hm
  by_contra hne
  have hfolder := (wf.folder_of_append hk).1 (by simpa using hne)
  rw [file?_eq_some_iff.mp hcontent] at hfolder
  cases hfolder

/-- The entries that stay below a folder. -/
def keptBelow (tree : Tree) (l : Location) (stays : Location → Entry → Bool) : List Location :=
  (tree.below l).filterMap fun (m, e) => if stays m e then some (l ++ m) else none

theorem mem_keptBelow (wf : tree.WellFormed) : m ∈ tree.keptBelow l stays ↔
    ∃ names e, names ≠ [] ∧ tree.entry? m = some e ∧ stays names e = true ∧ m = l ++ names := by
  unfold keptBelow
  rw [List.mem_filterMap]
  constructor
  · rintro ⟨⟨names, e⟩, hmem, hsome⟩
    obtain ⟨hne, hentry⟩ := (mem_below wf).mp hmem
    dsimp only at hsome
    split at hsome
    · next hstays =>
      obtain rfl := Option.some.inj hsome
      exact ⟨names, e, hne, hentry, hstays, rfl⟩
    · cases hsome
  · rintro ⟨names, e, hne, hentry, hstays, rfl⟩
    exact ⟨(names, e), (mem_below wf).mpr ⟨hne, hentry⟩, by simp [hstays]⟩

/-- Whether pruning leaves what is at a location. -/
def isKept (tree : Tree) (l : Location) (stays : Location → Entry → Bool) (m : Location) : Bool :=
  if l.isPrefixOf m ∧ m ≠ l then (tree.keptBelow l stays).any fun k => m.isPrefixOf k else true

theorem prune_eq (tree : Tree) (l : Location) (stays : Location → Entry → Bool) :
    tree.prune l stays =
      { tree with entries := tree.entries.filter fun x => tree.isKept l stays x.1 } := rfl

theorem isKept_iff (wf : tree.WellFormed) : tree.isKept l stays m = true ↔
    ¬(l <+: m ∧ m ≠ l ∧ ¬LeadsToKept tree l stays m) := by
  unfold isKept
  split
  · next hbelow =>
    have hlead := List.isPrefixOf_iff_prefix.mp hbelow.1
    have hgoal : ¬(l <+: m ∧ m ≠ l ∧ ¬LeadsToKept tree l stays m) ↔ LeadsToKept tree l stays m := by
      simp [hlead, hbelow.2]
    rw [hgoal]
    simp only [List.any_eq_true, List.isPrefixOf_iff_prefix, mem_keptBelow wf]
    constructor
    · rintro ⟨k, ⟨names, e, -, he, hstays, rfl⟩, hm⟩
      exact ⟨names, e, he, hstays, hm⟩
    · rintro ⟨names, e, he, hstays, hm⟩
      refine ⟨l ++ names, ⟨names, e, ?_, he, hstays, rfl⟩, hm⟩
      rintro rfl
      rw [List.append_nil] at hm
      exact hbelow.2 (hm.eq_of_length_le hlead.length_le)
  · next hbelow =>
    refine iff_of_true rfl fun h => hbelow ⟨List.isPrefixOf_iff_prefix.mpr h.1, h.2.1⟩

open Classical in
/-- Pruning takes away what is below the folder and leads to nothing that stays. -/
theorem entry?_prune (wf : tree.WellFormed) (l : Location) (stays : Location → Entry → Bool)
    (m : Location) : entry? (tree.prune l stays) m =
      if l <+: m ∧ m ≠ l ∧ ¬LeadsToKept tree l stays m then none else tree.entry? m := by
  by_cases hm : m = []
  · subst hm
    rw [if_neg]
    · rfl
    · rintro ⟨hlead, hne, -⟩
      exact hne (List.prefix_nil.mp hlead).symm
  · rw [prune_eq, entry?_of_ne_nil hm, lookup_filter wf.nodup, ← entry?_of_ne_nil hm]
    cases he : tree.entry? m with
    | none => simp
    | some e =>
      by_cases h : tree.isKept l stays m = true
      · rw [if_neg ((isKept_iff wf).mp h)]
        simp [Option.filter, h]
      · rw [if_pos (not_not.mp ((isKept_iff wf).not.mp h))]
        simp [Option.filter, h]

/-- What stays is what it was. -/
theorem entry?_prune_of_stays (wf : tree.WellFormed) (he : tree.entry? (l ++ names) = some e)
    (hstays : stays names e = true) : entry? (tree.prune l stays) (l ++ names) = some e := by
  rw [entry?_prune wf, if_neg, he]
  rintro ⟨-, -, hleads⟩
  exact hleads ⟨names, e, he, hstays, List.prefix_rfl⟩

/-- What is left below the folder was there, and leads to an entry that was to stay. -/
theorem exists_stays_of_prune (wf : tree.WellFormed) (hne : names ≠ [])
    (h : entry? (tree.prune l stays) (l ++ names) = some e) :
    tree.entry? (l ++ names) = some e ∧ ∃ rest e',
      tree.entry? (l ++ (names ++ rest)) = some e' ∧ stays (names ++ rest) e' = true := by
  rw [entry?_prune wf] at h
  split at h
  · cases h
  · next hnot =>
    have hleads : LeadsToKept tree l stays (l ++ names) := by
      by_contra hleads
      exact hnot ⟨List.prefix_append l names, by simpa using hne, hleads⟩
    obtain ⟨names', e', he', hstays, hlead⟩ := hleads
    obtain ⟨rest, rfl⟩ := (List.prefix_append_right_inj l).mp hlead
    exact ⟨h, rest, e', he', hstays⟩

/-- A file that is left below the folder was to stay. -/
theorem stays_of_file?_prune (wf : tree.WellFormed) (hne : names ≠ []) {content : Content}
    (h : (tree.prune l stays).file? (l ++ names) = some content) :
    tree.file? (l ++ names) = some content ∧ stays names (.file content) = true := by
  obtain ⟨he, rest, e', he', hstays⟩ := exists_stays_of_prune wf hne (file?_eq_some_iff.mp h)
  have hfile := file?_eq_some_iff.mpr he
  have hsame : l ++ names = l ++ (names ++ rest) :=
    eq_of_isPrefix_of_file? wf (by simp [hfile]) (by simp [he'])
      ((List.prefix_append_right_inj l).mpr (List.prefix_append names rest))
  obtain rfl : rest = [] := by simpa using List.append_cancel_left hsame
  rw [List.append_nil, he] at he'
  obtain rfl := Option.some.inj he'
  rw [List.append_nil] at hstays
  exact ⟨hfile, hstays⟩

/-- What is not strictly below the folder stays what it is. -/
theorem entry?_prune_of_not_below (wf : tree.WellFormed) (h : ¬(l <+: m ∧ m ≠ l)) :
    entry? (tree.prune l stays) m = tree.entry? m := by
  rw [entry?_prune wf, if_neg]
  rintro ⟨hlead, hne, -⟩
  exact h ⟨hlead, hne⟩

/-- Pruning again takes nothing away. -/
theorem entry?_prune_prune (wf : tree.WellFormed) (wf' : other.WellFormed)
    (h : ∀ m, other.entry? m = entry? (tree.prune l stays) m) (m : Location) :
    entry? (other.prune l stays) m = other.entry? m := by
  rw [entry?_prune wf']
  split
  · next hm =>
    obtain ⟨hlead, hne, hleads⟩ := hm
    rw [h m, entry?_prune wf, if_pos]
    refine ⟨hlead, hne, ?_⟩
    rintro ⟨names, e, he, hstays, hnames⟩
    exact hleads ⟨names, e, (h _).trans (entry?_prune_of_stays wf he hstays), hstays, hnames⟩
  · rfl

theorem WellFormed.prune (wf : tree.WellFormed) (l : Location)
    (stays : Location → Entry → Bool) : (tree.prune l stays).WellFormed := by
  refine ⟨wf.nodup.sublist (List.filter_sublist.map _), fun m e hmem => ?_⟩
  rw [prune_eq, List.mem_filter] at hmem
  obtain ⟨hmem, hkept⟩ := hmem
  obtain ⟨folder, name, rfl, hname, hfolder⟩ := wf.placed m e hmem
  refine ⟨folder, name, rfl, hname, ?_⟩
  rw [entry?_prune wf, if_neg]
  · exact hfolder
  · rintro ⟨hlead, hne, hleads⟩
    refine (isKept_iff wf).mp hkept ⟨hlead.trans (List.prefix_append folder [name]), ?_,
      fun h => hleads (leadsToKept_of_isPrefix (List.prefix_append folder [name]) h)⟩
    rintro rfl
    have := hlead.length_le
    rw [List.length_append, List.length_singleton] at this
    omega

end Prune

end Graft.Tree
