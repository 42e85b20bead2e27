import Graft.Proofs.ByteOrder
import Graft.Proofs.Produce
import Graft.Proofs.Traversal

/-! What the search for a component finds. A file matches if it has the extension that is searched
for and a stem that is the component's name, as it stands or in its other spelling, and it is
accepted if the folders that it stands in have paths that are not too long. The search finds the
least accepted file of the first folder with one, where paths are compared name by name, and names
by their bytes. -/

namespace Graft

open Text

namespace SearchPath

/-- Names lead from a folder to a file with the extension that is searched for and a stem that is
the name of a component. -/
structure Matches (search : SearchPath) (tree : Tree) (name : Text) (folder : Path)
    (names : List Name) : Prop where
  file : ∃ l, tree.locate folder = .ok l ∧ (tree.file? (l ++ names)).isSome
  named : ∃ own, fileName? folder names = some own ∧ own.extension? = some search.extension ∧
    (own.stem = name ∨ own.stem = pascalCase name)

/-- The search for a component accepts a file that matches in a folder with a path that is not too
long. -/
structure Accepts (search : SearchPath) (tree : Tree) (name : Text) (folder : Path)
    (names : List Name) : Prop extends search.Matches tree name folder names where
  reached : (folder.descend names.dropLast).isTooLong = false

/-- The least of the accepted files of a folder. -/
structure IsLeast (search : SearchPath) (tree : Tree) (name : Text) (folder : Path)
    (names : List Name) : Prop where
  accepts : search.Accepts tree name folder names
  least : ∀ others, search.Accepts tree name folder others →
    others = names ∨ names.map utf8 < others.map utf8

variable {search : SearchPath} {tree : Tree} {name : Text} {folder : Path} {names : List Name}
  {found : Found}

/-! ### The files of one folder -/

/-- A search in a sorted list finds the least of what it accepts. -/
theorem least_of_find? {α : Type} {r : α → α → Prop} {xs : List α} (hsorted : xs.Pairwise r)
    {p : α → Bool} {x : α} (h : xs.find? p = some x) : ∀ y ∈ xs, p y → y = x ∨ r x y := by
  intro y hy hpy
  obtain ⟨-, before, after, rfl, hbefore⟩ := List.find?_eq_some_iff_append.mp h
  rw [List.mem_append, List.mem_cons] at hy
  obtain hy | rfl | hy := hy
  · exact absurd hpy (by simpa using hbefore y hy)
  · exact .inl rfl
  · exact .inr ((List.pairwise_cons.mp (List.pairwise_append.mp hsorted).2.1).1 y hy)

theorem mem_filesIn {stem : Name} : (names, stem) ∈ search.filesIn tree folder ↔
    names ∈ tree.filesOf folder ∧ ∃ own, fileName? folder names = some own ∧
      own.extension? = some search.extension ∧ own.stem = stem := by
  simp only [filesIn, Option.bind_eq_bind, List.mem_filterMap, Option.bind_eq_some_iff]
  constructor
  · rintro ⟨names', hfile, own, hown, hsome⟩
    split at hsome
    · next hext =>
      obtain ⟨rfl, rfl⟩ := Prod.mk.inj (Option.some.inj hsome)
      exact ⟨hfile, own, hown, hext, rfl⟩
    · cases hsome
  · rintro ⟨hfile, own, hown, hext, rfl⟩
    exact ⟨names, hfile, own, hown, if_pos hext⟩

theorem pairwise_filesIn (wf : tree.WellFormed) :
    (search.filesIn tree folder).Pairwise fun x y => x.1 < y.1 := by
  unfold filesIn
  rw [List.pairwise_filterMap]
  have hnames : ∀ {names x}, x ∈ (do
      let own ← fileName? folder names
      if own.extension? = some search.extension then some (names, own.stem) else none) →
      x.1 = names := by
    intro names x hx
    obtain ⟨own, -, hsome⟩ := Option.bind_eq_some_iff.mp (Option.mem_def.mp hx)
    split at hsome
    · exact congrArg Prod.fst (Option.some.inj hsome).symm
    · cases hsome
  refine (Tree.pairwise_filesOf wf folder).imp fun hlt x hx y hy => ?_
  rwa [hnames hx, hnames hy]

theorem accepts_iff (wf : tree.WellFormed) : search.Accepts tree name folder names ↔
    ∃ stem, (names, stem) ∈ search.filesIn tree folder ∧
      (stem = name ∨ stem = pascalCase name) := by
  simp only [mem_filesIn, Tree.mem_filesOf wf]
  constructor
  · rintro ⟨⟨⟨l, hl, hfile⟩, own, hown, hext, hstem⟩, hreached⟩
    exact ⟨own.stem, ⟨⟨l, hl, hfile, hreached⟩, own, hown, hext, rfl⟩, hstem⟩
  · rintro ⟨stem, ⟨⟨l, hl, hfile, hreached⟩, own, hown, hext, rfl⟩, hstem⟩
    exact ⟨⟨⟨l, hl, hfile⟩, own, hown, hext, hstem⟩, hreached⟩

theorem IsLeast.unique {others : List Name} (h : search.IsLeast tree name folder names)
    (h' : search.IsLeast tree name folder others) : others = names := by
  obtain heq | hlt := h.least others h'.accepts
  · exact heq
  · obtain heq | hlt' := h'.least names h.accepts
    · exact heq.symm
    · exact absurd hlt' (List.lt_asymm hlt)

theorem findIn?_eq_none_iff (wf : tree.WellFormed) :
    search.findIn? tree name folder = none ↔ ∀ names, ¬search.Accepts tree name folder names := by
  unfold findIn?
  generalize hfind : List.find? _ (search.filesIn tree folder) = result
  cases result with
  | none =>
    refine iff_of_true rfl fun names haccepts => ?_
    obtain ⟨stem, hmem, hstem⟩ := (accepts_iff wf).mp haccepts
    exact List.find?_eq_none.mp hfind _ hmem (by simpa using hstem)
  | some x =>
    obtain ⟨names, stem⟩ := x
    have hstem : stem = name ∨ stem = pascalCase name := by simpa using List.find?_some hfind
    refine iff_of_false (Option.some_ne_none _) fun hnone => hnone names ?_
    exact (accepts_iff wf).mpr ⟨stem, List.mem_of_find?_eq_some hfind, hstem⟩

/-- In a folder the least of the accepted files is found. -/
theorem findIn?_eq_some_iff (wf : tree.WellFormed) :
    search.findIn? tree name folder = some found ↔
      ∃ names, search.IsLeast tree name folder names ∧
        found = ⟨folder.descend names, .ofNames names⟩ := by
  have hleast : ∀ {found}, search.findIn? tree name folder = some found →
      ∃ names, search.IsLeast tree name folder names ∧
        found = ⟨folder.descend names, .ofNames names⟩ := by
    intro found h
    unfold findIn? at h
    obtain ⟨⟨names, stem⟩, hfind, hfound⟩ := Option.bind_eq_some_iff.mp h
    refine ⟨names, ⟨(accepts_iff wf).mpr ⟨stem, List.mem_of_find?_eq_some hfind, ?_⟩, ?_⟩,
      (Option.some.inj hfound).symm⟩
    · simpa using List.find?_some hfind
    · intro others haccepts
      obtain ⟨stem', hmem, hstem⟩ := (accepts_iff wf).mp haccepts
      obtain heq | hlt := least_of_find? (pairwise_filesIn wf) hfind _ hmem (by simpa using hstem)
      · exact .inl (congrArg Prod.fst heq)
      · exact .inr (map_utf8_lt_iff.mpr hlt)
  refine ⟨hleast, fun ⟨names, h, hfound⟩ => ?_⟩
  cases hfind : search.findIn? tree name folder with
  | none => exact absurd h.accepts ((findIn?_eq_none_iff wf).mp hfind names)
  | some found' =>
    obtain ⟨names', h', rfl⟩ := hleast hfind
    rw [hfound, h.unique h']

/-! ### The path of a file -/

theorem Accepts.isEntryName (wf : tree.WellFormed) (h : search.Accepts tree name folder names) :
    ∀ own ∈ names, IsEntryName own := by
  obtain ⟨l, hl, hfile⟩ := h.file
  exact Tree.isEntryName_of_mem_filesOf wf ((Tree.mem_filesOf wf).mpr ⟨l, hl, hfile, h.reached⟩)

theorem Matches.text_ne_nil (h : search.Matches tree name folder names) : folder.text ≠ [] := by
  obtain ⟨l, hlocate, -⟩ := h.file
  intro htext
  have hcheck := (Tree.locate_eq_ok_iff.mp hlocate).1
  simp [Tree.checkPath, htext, Path.isTooLong, Path.limit] at hcheck

/-- The path of a file in a folder is that of the folder joined with its path in the folder. -/
theorem same_descend (hfolder : folder.text ≠ []) (hnames : ∀ own ∈ names, IsEntryName own) :
    (folder.join (.ofNames names)).same (folder.descend names) = true := by
  have hrelative : (Path.ofNames names).names = names :=
    Path.names_ofNames (fun own h => (hnames own h).noSlash) fun own h => (hnames own h).proper
  rw [Path.same, decide_eq_true_eq, Recipe.components_descend hfolder hnames,
    (Recipe.inner_ofNames hnames).components_join hfolder, hrelative, Path.below]

/-! ### The folders in their order -/

/-- The file that the search for a component is to find when no folder before its own has one. -/
structure Finds (search : SearchPath) (tree : Tree) (name : Text) (before : List Path)
    (folder : Path) (names : List Name) : Prop where
  none_before : ∀ earlier ∈ before, ∀ others, ¬search.Accepts tree name earlier others
  isLeast : search.IsLeast tree name folder names

theorem findComponent_eq_ok_iff (wf : tree.WellFormed) :
    search.findComponent tree name = .ok found ↔ ∃ before folder after names,
      search.folders = before ++ folder :: after ∧ search.Finds tree name before folder names ∧
        found = ⟨folder.descend names, .ofNames names⟩ := by
  have hsearch : search.findComponent tree name = .ok found ↔
      search.folders.findSome? (search.findIn? tree name) = some found := by
    unfold findComponent
    split
    · next h => simp [h]
    · next h => simp [h]
  rw [hsearch, List.findSome?_eq_some_iff]
  simp only [findIn?_eq_some_iff wf, findIn?_eq_none_iff wf]
  constructor
  · rintro ⟨before, folder, after, hfolders, ⟨names, hleast, hfound⟩, hbefore⟩
    exact ⟨before, folder, after, names, hfolders, ⟨hbefore, hleast⟩, hfound⟩
  · rintro ⟨before, folder, after, names, hfolders, ⟨hbefore, hleast⟩, hfound⟩
    exact ⟨before, folder, after, hfolders, ⟨names, hleast, hfound⟩, hbefore⟩

theorem isOk_findComponent_iff (wf : tree.WellFormed) :
    (search.findComponent tree name).isOk = true ↔
      ∃ folder ∈ search.folders, ∃ names, search.Accepts tree name folder names := by
  unfold findComponent
  split
  · next found hfound =>
    obtain ⟨folder, hmem, hfound⟩ := List.exists_of_findSome?_eq_some hfound
    obtain ⟨names, hleast, -⟩ := (findIn?_eq_some_iff wf).mp hfound
    exact iff_of_true rfl ⟨folder, hmem, names, hleast.accepts⟩
  · next hnone =>
    refine iff_of_false Bool.false_ne_true ?_
    rintro ⟨folder, hmem, names, haccepts⟩
    exact (findIn?_eq_none_iff wf).mp (List.findSome?_eq_none_iff.mp hnone folder hmem) names
      haccepts

/-- What is to be found depends only on the accepted files of its folder and of those before. -/
theorem Finds.congr {other : Tree} {before : List Path} {folders : List Path}
    (h : search.Finds tree name before folder names)
    (hsame : ∀ p ∈ before ++ [folder], ∀ others,
      search.Accepts other name p others ↔ search.Accepts tree name p others) :
    ({ search with folders := folders } : SearchPath).Finds other name before folder names := by
  have haccepts : ∀ p ∈ before ++ [folder], ∀ others,
      ({ search with folders := folders } : SearchPath).Accepts other name p others ↔
        search.Accepts tree name p others := fun p hp others =>
    ⟨fun h => (hsame p hp others).mp ⟨⟨h.file, h.named⟩, h.reached⟩, fun h =>
      have h := (hsame p hp others).mpr h
      ⟨⟨h.file, h.named⟩, h.reached⟩⟩
  refine ⟨fun earlier hearlier others hother => ?_, ?_, fun others hother => ?_⟩
  · exact h.none_before earlier hearlier others
      ((haccepts earlier (by simp [hearlier]) _).mp hother)
  · exact (haccepts folder (by simp) names).mpr h.isLeast.accepts
  · exact h.isLeast.least others ((haccepts folder (by simp) others).mp hother)

/-- A component is found if a folder has an accepted file, at any depth that a path can reach. It is
the least of the first folder that has one, and the folder joined with its path in the folder is its
path. Folders that come later and files that are not accepted do not matter. -/
theorem findComponent_isLeast (search : SearchPath) (tree : Tree) (wf : tree.WellFormed)
    (name : Text) :
    ((search.findComponent tree name).isOk = true ↔
      ∃ folder ∈ search.folders, ∃ names, search.Accepts tree name folder names) ∧
    ∀ found, search.findComponent tree name = .ok found →
      ∃ before folder after names, search.folders = before ++ folder :: after ∧
        search.Finds tree name before folder names ∧
        found = ⟨folder.descend names, .ofNames names⟩ ∧
        (folder.join found.relative).same found.path = true ∧
        ∀ (other : Tree) (later : List Path), other.WellFormed →
          (∀ p ∈ before ++ [folder], ∀ others,
            search.Accepts other name p others ↔ search.Accepts tree name p others) →
          ({ search with folders := before ++ folder :: later } : SearchPath).findComponent other
            name = .ok found := by
  refine ⟨isOk_findComponent_iff wf, fun found h => ?_⟩
  obtain ⟨before, folder, after, names, hfolders, hfinds, rfl⟩ := (findComponent_eq_ok_iff wf).mp h
  have haccepts := hfinds.isLeast.accepts
  refine ⟨before, folder, after, names, hfolders, hfinds, rfl,
    same_descend haccepts.toMatches.text_ne_nil (haccepts.isEntryName wf),
    fun other later wf' hsame => ?_⟩
  exact (findComponent_eq_ok_iff wf').mpr
    ⟨before, folder, later, names, rfl, hfinds.congr hsame, rfl⟩

/-- A file that matches is not found in a folder whose path is too long, as it is here with 4100
bytes. -/
theorem not_findComponent_of_long_path :
    ¬∀ (search : SearchPath) (tree : Tree) (name : Text), tree.WellFormed →
      (∃ folder ∈ search.folders, ∃ names, search.Matches tree name folder names) →
      (search.findComponent tree name).isOk = true := by
  intro hall
  let folder : Path := ⟨"core".toList ++ (List.replicate 2043 ['/', '.']).flatten⟩
  let search := SearchPath.ofFolders [folder]
  let tree : Tree := ⟨[], [(["core".toList], .folder),
    (["core".toList, "subfolder".toList], .folder),
    (["core".toList, "subfolder".toList, "Card.vue".toList],
      .file (.text "<template></template>".toList))]⟩
  have wf : tree.WellFormed := by decide +kernel
  have hlocate : tree.locate folder = .ok ["core".toList] := by decide +kernel
  have hfound := hall search tree "Card".toList wf ⟨folder, List.mem_singleton_self folder,
    ["subfolder".toList, "Card.vue".toList], ⟨_, hlocate, by decide +kernel⟩,
    "Card.vue".toList, rfl, by decide +kernel, .inl (by decide +kernel)⟩
  obtain ⟨p, hp, names, haccepts⟩ := (isOk_findComponent_iff wf).mp hfound
  rw [List.mem_singleton.mp hp] at haccepts
  obtain ⟨l, hl, hfile⟩ := haccepts.file
  obtain rfl := Except.ok.inj (hlocate.symm.trans hl)
  obtain ⟨content, hcontent⟩ := Option.isSome_iff_exists.mp hfile
  -- the tree has no other file
  have hmem := Tree.mem_of_entry?_eq (by simp) (Tree.file?_eq_some_iff.mp hcontent)
  obtain ⟨rfl, -⟩ : names = ["subfolder".toList, "Card.vue".toList] ∧ _ := by
    simpa [tree] using hmem
  have hlong : (folder.descend ["subfolder".toList]).isTooLong = true := by decide +kernel
  have hshort : (folder.descend ["subfolder".toList]).isTooLong = false := haccepts.reached
  rw [hlong] at hshort
  cases hshort

/-- The folder `a` comes before `a-b`, though `a/` comes after it as a text. -/
theorem findComponent_isLeast_nested :
    let search := SearchPath.ofFolders [⟨"out".toList⟩, ⟨"core".toList⟩, ⟨"base".toList⟩]
    let file : Entry := .file (.text "<template></template>".toList)
    let tree : Tree := ⟨[], [(["core".toList], .folder), (["base".toList], .folder),
      (["base".toList, "TitleCard.vue".toList], file),
      (["core".toList, "a-b".toList], .folder), (["core".toList, "a".toList], .folder),
      (["core".toList, "a-b".toList, "title-card.vue".toList], file),
      (["core".toList, "a".toList, "TitleCard.vue".toList], file)]⟩
    ∃ before folder after names, search.folders = before ++ folder :: after ∧
      search.Finds tree "title-card".toList before folder names ∧
      folder.descend names = ⟨"core/a/TitleCard.vue".toList⟩ := by
  intro search file tree
  have hnames : ∀ l sorted, (tree.entries.filterMap fun x =>
      if x.1.dropLast = l then x.1.getLast? else none).Perm sorted →
      (sorted.Pairwise fun a b => ¬b < a) → tree.childNames l = sorted := fun l sorted hperm =>
    Tree.mergeSort_eq_of_perm ((List.mergeSort_perm _ _).trans hperm)
  have hfirst : tree.traverse ["core".toList, "a".toList] ⟨"core/a".toList⟩ =
      [["TitleCard.vue".toList]] := by
    rw [Tree.traverse_eq, hnames _ ["TitleCard.vue".toList] (by decide +kernel)
      (by decide +kernel)]
    decide +kernel
  have hsecond : tree.traverse ["core".toList, "a-b".toList] ⟨"core/a-b".toList⟩ =
      [["title-card.vue".toList]] := by
    rw [Tree.traverse_eq, hnames _ ["title-card.vue".toList] (by decide +kernel)
      (by decide +kernel)]
    decide +kernel
  have hfiles : tree.filesOf ⟨"core".toList⟩ = [["a".toList, "TitleCard.vue".toList],
      ["a-b".toList, "title-card.vue".toList]] := by
    change tree.traverse ["core".toList] ⟨"core".toList⟩ = _
    rw [Tree.traverse_eq, hnames _ ["a".toList, "a-b".toList] (by decide +kernel)
      (by decide +kernel)]
    change (tree.traverse ["core".toList, "a".toList] ⟨"core/a".toList⟩).map ("a".toList :: ·) ++
      ((tree.traverse ["core".toList, "a-b".toList] ⟨"core/a-b".toList⟩).map
        ("a-b".toList :: ·) ++ []) = _
    rw [hfirst, hsecond]
    rfl
  have hout : search.findIn? tree "title-card".toList ⟨"out".toList⟩ = none := by decide +kernel
  let found : Found := ⟨⟨"core/a/TitleCard.vue".toList⟩, ⟨"a/TitleCard.vue".toList⟩⟩
  have hcore : search.findIn? tree "title-card".toList ⟨"core".toList⟩ = some found := by
    rw [findIn?, filesIn, hfiles]
    decide +kernel
  have hsearch : search.folders.findSome? (search.findIn? tree "title-card".toList) =
      some found := by
    change [(⟨"out".toList⟩ : Path), ⟨"core".toList⟩, ⟨"base".toList⟩].findSome? _ = _
    rw [List.findSome?_cons, hout, List.findSome?_cons, hcore]
  have hfound : search.findComponent tree "title-card".toList = .ok found := by
    rw [findComponent, hsearch]
  obtain ⟨before, folder, after, names, hfolders, hfinds, hfile, -⟩ :=
    (findComponent_isLeast search tree (by decide +kernel) "title-card".toList).2 _ hfound
  exact ⟨before, folder, after, names, hfolders, hfinds, (congrArg Found.path hfile).symm⟩

end SearchPath

end Graft
