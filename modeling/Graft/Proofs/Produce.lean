import Graft.Build
import Graft.Proofs.Traversal
import Mathlib.Data.List.Find

/-! What an entry of a recipe makes from a tree: the file and the text, as far as they do not depend
on the file itself. Both depend only on the files that the entry reads. -/

namespace Graft

open Text

namespace Recipe

theorem findSome?_congr {α β : Type} {f g : α → Option β} {xs : List α}
    (h : ∀ x ∈ xs, f x = g x) : xs.findSome? f = xs.findSome? g := by
  induction xs with
  | nil => rfl
  | cons x xs ih =>
    rw [List.findSome?_cons, List.findSome?_cons, h x (by simp), ih fun y hy => h y (by simp [hy])]

end Recipe

/-- The file that a combination is written to. -/
def Combination.target (entry : Combination) : Path := ⟨entry.output.getD entry.source⟩

/-- The files that a combination reads. -/
def Combination.inputs (entry : Combination) : List Path := [⟨entry.source⟩, ⟨entry.override⟩]

namespace Recipe

/-- The path of a file in the folder where it is searched for. -/
def relativeOf (name : Text) : Path := .ofNames ((splitOn '/' name).filter (!·.isEmpty))

/-- The paths of a recipe are relative and without `..`. -/
structure Contained (recipe : Recipe) : Prop where
  folders : ∀ folder ∈ recipe.info.folders, Path.Inner ⟨folder⟩
  files : ∀ entry ∈ recipe.mods, ∀ file ∈ entry.file, (relativeOf file).Inner
  modOutputs : ∀ entry ∈ recipe.mods, ∀ output ∈ entry.output, Path.Inner ⟨output⟩
  sources : ∀ entry ∈ recipe.combinations, Path.Inner ⟨entry.source⟩
  overrides : ∀ entry ∈ recipe.combinations, Path.Inner ⟨entry.override⟩
  targets : ∀ entry ∈ recipe.combinations, entry.target.Inner

instance (recipe : Recipe) : Decidable recipe.Contained :=
  decidable_of_iff ((∀ folder ∈ recipe.info.folders, Path.Inner ⟨folder⟩) ∧
      (∀ entry ∈ recipe.mods, ∀ file ∈ entry.file, (relativeOf file).Inner) ∧
      (∀ entry ∈ recipe.mods, ∀ output ∈ entry.output, Path.Inner ⟨output⟩) ∧
      (∀ entry ∈ recipe.combinations, Path.Inner ⟨entry.source⟩) ∧
      (∀ entry ∈ recipe.combinations, Path.Inner ⟨entry.override⟩) ∧
      ∀ entry ∈ recipe.combinations, entry.target.Inner)
    ⟨fun ⟨h1, h2, h3, h4, h5, h6⟩ => ⟨h1, h2, h3, h4, h5, h6⟩,
      fun h => ⟨h.1, h.2, h.3, h.4, h.5, h.6⟩⟩

/-- The paths of a recipe are made of names only. -/
structure Plain (recipe : Recipe) : Prop where
  folders : ∀ folder ∈ recipe.info.folders, Path.Plain ⟨folder⟩
  files : ∀ entry ∈ recipe.mods, ∀ file ∈ entry.file, Path.Plain ⟨file⟩
  modOutputs : ∀ entry ∈ recipe.mods, ∀ output ∈ entry.output, Path.Plain ⟨output⟩
  sources : ∀ entry ∈ recipe.combinations, Path.Plain ⟨entry.source⟩
  overrides : ∀ entry ∈ recipe.combinations, Path.Plain ⟨entry.override⟩
  outputs : ∀ entry ∈ recipe.combinations, ∀ output ∈ entry.output, Path.Plain ⟨output⟩

instance (recipe : Recipe) : Decidable recipe.Plain :=
  decidable_of_iff ((∀ folder ∈ recipe.info.folders, Path.Plain ⟨folder⟩) ∧
      (∀ entry ∈ recipe.mods, ∀ file ∈ entry.file, Path.Plain ⟨file⟩) ∧
      (∀ entry ∈ recipe.mods, ∀ output ∈ entry.output, Path.Plain ⟨output⟩) ∧
      (∀ entry ∈ recipe.combinations, Path.Plain ⟨entry.source⟩) ∧
      (∀ entry ∈ recipe.combinations, Path.Plain ⟨entry.override⟩) ∧
      ∀ entry ∈ recipe.combinations, ∀ output ∈ entry.output, Path.Plain ⟨output⟩)
    ⟨fun ⟨h1, h2, h3, h4, h5, h6⟩ => ⟨h1, h2, h3, h4, h5, h6⟩,
      fun h => ⟨h.1, h.2, h.3, h.4, h.5, h.6⟩⟩

/-- Whether names lead into the output folder. -/
def InOutput (recipe : Recipe) (names : List Name) : Prop :=
  ∃ folder ∈ recipe.info.folders.head?, Path.names ⟨folder⟩ <+: names

instance (recipe : Recipe) (names : List Name) : Decidable (recipe.InOutput names) :=
  inferInstanceAs (Decidable (∃ folder ∈ recipe.info.folders.head?, _))

/-- Where the file of an entry can be: anywhere in the output folder for a mod. -/
def Targets (recipe : Recipe) (names : List Name) : RecipeEntry → Prop
  | .mod _ => recipe.InOutput names
  | .combination entry => entry.target.names = names

variable {recipe : Recipe} {root : Path} {tree other : Tree} {produced : Produced}

namespace Plain

variable (plain : recipe.Plain)

include plain

theorem target {entry : Combination} (hentry : entry ∈ recipe.combinations) :
    entry.target.Plain := by
  unfold Combination.target
  cases houtput : entry.output with
  | none => exact plain.sources entry hentry
  | some output => exact plain.outputs entry hentry output houtput

theorem contained : recipe.Contained := by
  refine ⟨fun folder h => (plain.folders folder h).inner, ?_,
    fun entry hentry output h => (plain.modOutputs entry hentry output h).inner,
    fun entry hentry => (plain.sources entry hentry).inner,
    fun entry hentry => (plain.overrides entry hentry).inner,
    fun entry hentry => (plain.target hentry).inner⟩
  intro entry hentry file hfile
  have hpieces := plain.files entry hentry file hfile
  apply Path.Inner.ofNames
  · intro name hname
    exact Path.slash_not_mem (p := ⟨file⟩) (List.mem_of_mem_filter hname)
  · intro hname
    simpa using (List.mem_filter.mp hname).2
  · intro hname
    exact (hpieces _ (List.mem_of_mem_filter hname)).2 rfl

end Plain

/-! ### Searching -/

theorem folders_searchPath : (recipe.searchPath root).folders = recipe.sourceFolders root := by
  unfold searchPath
  cases recipe.outputFolder? root <;> rfl

theorem output?_searchPath : (recipe.searchPath root).output? = recipe.outputFolder? root := by
  unfold searchPath SearchPath.output? outputFolder? sourceFolders
  cases recipe.info.folders <;> rfl

theorem inner_name {name : Name} (h : IsEntryName name) : Path.Inner ⟨name⟩ :=
  Path.Inner.ofText h.noSlash h.notParent

theorem names_name {name : Name} (h : IsEntryName name) : Path.names ⟨name⟩ = [name] := by
  rw [Path.names, Path.pieces_ofText h.noSlash]
  simp [h.proper]

theorem inside_descend {folder : Path} {front names : List Name} (h : Path.Inside root folder front)
    (hnames : ∀ name ∈ names, IsEntryName name) :
    Path.Inside root (folder.descend names) (front ++ names) := by
  induction names generalizing folder front with
  | nil => simpa using h
  | cons name names ih =>
    have hname := hnames name (by simp)
    have hjoin := h.join (inner_name hname)
    rw [names_name hname] at hjoin
    have hrest := ih hjoin fun name' h' => hnames name' (by simp [h'])
    rwa [List.append_assoc, List.singleton_append] at hrest

theorem findFile_eq_ok_iff {name : Text} {found : Found} :
    (recipe.searchPath root).findFile tree name = .ok found ↔
      ∃ folder, ((recipe.sourceFolders root).find? fun folder =>
          tree.isFile (folder.join (relativeOf name))) = some folder ∧
        found = ⟨folder.join (relativeOf name), relativeOf name⟩ := by
  unfold SearchPath.findFile relativeOf
  rw [folders_searchPath]
  dsimp only
  split
  · next folder h => simp [h, eq_comm]
  · next h => simp [h]

theorem inner_ofNames {names : List Name} (h : ∀ name ∈ names, IsEntryName name) :
    (Path.ofNames names).Inner :=
  Path.Inner.ofNames (fun name hname => (h name hname).noSlash)
    (fun hname => (h _ hname).ne_nil rfl) fun hname => (h _ hname).notParent rfl

theorem components_descend {folder : Path} {names : List Name} (hfolder : folder.text ≠ [])
    (hnames : ∀ name ∈ names, IsEntryName name) :
    (folder.descend names).components = folder.below names := by
  induction names generalizing folder with
  | nil => simp [Path.below]
  | cons name names ih =>
    obtain ⟨hname, hnames⟩ := List.forall_mem_cons.mp hnames
    have hjoin : (folder.join ⟨name⟩).components = folder.below [name] := by
      rw [(inner_name hname).components_join hfolder, names_name hname, Path.below]
    rw [Path.descend_cons, ih (Path.text_join_ne_nil hfolder) hnames, Path.below, hjoin,
      ← Path.below_append, List.singleton_append]

/-- A component is found at the names of entries in a folder. -/
theorem findComponent_eq_ok (wf : tree.WellFormed) {name : Text} {found : Found}
    (h : (recipe.searchPath root).findComponent tree name = .ok found) :
    ∃ folder ∈ recipe.info.folders.tail, ∃ names, (∀ name ∈ names, IsEntryName name) ∧
      found = ⟨(root.join ⟨folder⟩).descend names, .ofNames names⟩ := by
  unfold SearchPath.findComponent at h
  split at h
  · next found' hfound =>
    obtain rfl := Except.ok.inj h
    rw [folders_searchPath, sourceFolders] at hfound
    obtain ⟨path, hpath, hfound⟩ := List.exists_of_findSome?_eq_some hfound
    obtain ⟨folder, hfolder, rfl⟩ := List.mem_map.mp hpath
    unfold SearchPath.findIn? at hfound
    simp only [Option.bind_eq_bind, Option.bind_eq_some_iff] at hfound
    obtain ⟨⟨names, stem⟩, hnames, heq⟩ := hfound
    obtain rfl := Option.some.inj heq
    have hmem := List.mem_of_find?_eq_some hnames
    unfold SearchPath.filesIn at hmem
    simp only [List.mem_filterMap, Option.bind_eq_bind, Option.bind_eq_some_iff] at hmem
    obtain ⟨names', hfile, fileName, -, hsome⟩ := hmem
    have hsame : names' = names := by
      split at hsome
      · exact (Prod.mk.inj (Option.some.inj hsome)).1
      · cases hsome
    subst hsame
    exact ⟨folder, hfolder, names', Tree.isEntryName_of_mem_filesOf wf hfile, rfl⟩
  · cases h

/-- What was found lies in one of the folders that are searched. -/
structure FoundInside (recipe : Recipe) (root : Path) (found : Found) : Prop where
  relative : found.relative.Inner
  inside : ∃ folder ∈ recipe.info.folders.tail,
    Path.Inside root found.path (Path.names ⟨folder⟩ ++ found.relative.names)

section Contained

variable (contained : recipe.Contained) (hroot : root.text ≠ [])

include contained hroot

theorem inside_folder {folder : Text} (h : folder ∈ recipe.info.folders) :
    Path.Inside root (root.join ⟨folder⟩) (Path.names ⟨folder⟩) :=
  Path.Inside.of_inner hroot (contained.folders folder h)

theorem foundInside_of_findComponent (wf : tree.WellFormed) {name : Text} {found : Found}
    (h : (recipe.searchPath root).findComponent tree name = .ok found) :
    recipe.FoundInside root found := by
  obtain ⟨folder, hfolder, names, hentry, rfl⟩ := findComponent_eq_ok wf h
  have hrelative := Path.names_ofNames (fun name h => (hentry name h).noSlash)
    fun name h => (hentry name h).proper
  refine ⟨inner_ofNames hentry, folder, hfolder, ?_⟩
  rw [hrelative]
  exact inside_descend (inside_folder contained hroot (List.mem_of_mem_tail hfolder)) hentry

theorem foundInside_of_findFile {name : Text} {found : Found}
    (hinner : (relativeOf name).Inner)
    (h : (recipe.searchPath root).findFile tree name = .ok found) :
    recipe.FoundInside root found := by
  obtain ⟨path, hpath, rfl⟩ := findFile_eq_ok_iff.mp h
  obtain ⟨folder, hfolder, rfl⟩ := List.mem_map.mp (List.mem_of_find?_eq_some hpath)
  exact ⟨hinner, folder, hfolder,
    (inside_folder contained hroot (List.mem_of_mem_tail hfolder)).join hinner⟩

end Contained

/-! ### What an entry makes -/

/-- The component that a mod names, as the folders that are searched hold it. -/
def findSource (recipe : Recipe) (root : Path) (tree : Tree) (entry : Mod) :
    Except EntryError ComponentFile :=
  match entry.component, entry.file with
  | some name, _ => ((recipe.searchPath root).loadComponent tree name).mapError .component
  | none, some name => ((recipe.searchPath root).loadFile tree name).mapError .component
  | none, none => .error .noTarget

/-- The component as an earlier entry of the run left it, if one did. -/
def continued (produced : Produced) (file : ComponentFile) : ComponentFile :=
  match file.target? none with
  | none => file
  | some path =>
    match produced.find? path with
    | some text => file.rebase path text
    | none => file

theorem loadComponent_eq (entry : Mod) : recipe.loadComponent root tree produced entry =
    (recipe.findSource root tree entry).map (continued produced) := by
  have hcontinue : ∀ file : ComponentFile, (match file.target? none with
      | none => pure file
      | some path => match produced.find? path with
        | some text => pure (file.rebase path text)
        | none => pure file : Except EntryError ComponentFile) = .ok (continued produced file) := by
    intro file
    unfold continued
    split
    · rfl
    · split <;> rfl
  have hload : recipe.loadComponent root tree produced entry =
      recipe.findSource root tree entry >>= fun file => match file.target? none with
        | none => pure file
        | some path => match produced.find? path with
          | some text => pure (file.rebase path text)
          | none => pure file := by
    unfold loadComponent findSource
    cases entry.component <;> cases entry.file <;> rfl
  rw [hload]
  simp only [hcontinue]
  cases recipe.findSource root tree entry <;> rfl

/-- The file and the text that an entry makes. -/
def produce [Digest] [Patterns] (recipe : Recipe) (root : Path) (tree : Tree)
    (produced : Produced) : RecipeEntry → Except EntryError (Path × Text)
  | .mod entry => do
    let file ← revise entry (← recipe.loadComponent root tree produced entry)
    match file.target? (entry.output.map (⟨·⟩)) with
    | none => throw .noTarget
    | some target => return (target, file.text)
  | .combination entry => do
    let source ← recipe.readInput root tree produced (root.join ⟨entry.source⟩)
    let override ← recipe.readInput root tree produced (root.join ⟨entry.override⟩)
    let after ← (Section.combine source override entry.tags).mapError .combine
    return (root.join entry.target, after)

/-- What an entry writes is what it makes, and what is there before. -/
theorem plan_eq [Digest] [Patterns] (entry : RecipeEntry) : recipe.plan root tree produced entry =
    recipe.produce root tree produced entry >>= fun out => planWrite tree out.1 out.2 := by
  cases entry with
  | mod entry =>
    unfold plan planMod produce
    simp only [bind_assoc]
    refine congrArg _ (funext fun file => congrArg _ (funext fun revised => ?_))
    cases revised.target? (entry.output.map (⟨·⟩)) <;> rfl
  | combination entry =>
    unfold plan planCombination produce
    simp only [bind_assoc]
    rfl

/-! ### The file of an entry -/

theorem mem_entries_mod {entry : Mod} : .mod entry ∈ recipe.entries ↔ entry ∈ recipe.mods := by
  simp [entries]

theorem mem_entries_combination {entry : Combination} :
    .combination entry ∈ recipe.entries ↔ entry ∈ recipe.combinations := by
  simp [entries]

theorem findSource_eq_ok (contained : recipe.Contained) (hroot : root.text ≠ [])
    (wf : tree.WellFormed) {entry : Mod} (hentry : entry ∈ recipe.mods) {file : ComponentFile}
    (h : recipe.findSource root tree entry = .ok file) :
    ∃ found, recipe.FoundInside root found ∧
      (recipe.searchPath root).load tree found = .ok file := by
  unfold findSource at h
  split at h
  · next name _ _ =>
    obtain ⟨found, hfound, hload⟩ := bind_eq_ok_iff.mp (mapError_eq_ok_iff.mp h)
    exact ⟨found, foundInside_of_findComponent contained hroot wf hfound, hload⟩
  · next name _ hfile =>
    obtain ⟨found, hfound, hload⟩ := bind_eq_ok_iff.mp (mapError_eq_ok_iff.mp h)
    have hinner := contained.files entry hentry name (by simp [hfile])
    exact ⟨found, foundInside_of_findFile contained hroot hinner hfound, hload⟩
  · cases h

theorem load_frame {found : Found} {file : ComponentFile}
    (h : (recipe.searchPath root).load tree found = .ok file) :
    file.output = recipe.outputFolder? root ∧ file.relative = found.relative := by
  unfold SearchPath.load at h
  split at h
  · obtain rfl := Except.ok.inj h
    exact ⟨output?_searchPath, rfl⟩
  · cases h

theorem continued_frame (produced : Produced) (file : ComponentFile) :
    (continued produced file).output = file.output ∧
      (continued produced file).relative = file.relative := by
  unfold continued
  split
  · exact ⟨rfl, rfl⟩
  · split <;> exact ⟨rfl, rfl⟩

theorem target_mod {entry : Mod} (houtput : ∀ output ∈ entry.output, Path.Inner ⟨output⟩)
    {file : ComponentFile} {found : Path} (hfound : found.Inner)
    (hfolder : file.output = recipe.outputFolder? root) (hrelative : file.relative = found)
    {path : Path} (h : file.target? (entry.output.map (⟨·⟩)) = some path) :
    ∃ folder ∈ recipe.info.folders.head?, ∃ inner : Path, inner.Inner ∧
      path = (root.join ⟨folder⟩).join inner := by
  unfold ComponentFile.target? outputFolder? at *
  rw [hfolder, hrelative, Option.map_map, Option.map_eq_some_iff] at h
  obtain ⟨folder, hfolder, rfl⟩ := h
  have hinner : ((entry.output.map (⟨·⟩)).getD found : Path).Inner := by
    cases hout : entry.output with
    | none => exact hfound
    | some output => exact houtput output hout
  exact ⟨folder, hfolder, _, hinner, rfl⟩

section Revision

variable [Digest]

theorem setTemplate_frame {file file' : ComponentFile} {body : Text}
    (h : file.setTemplate body = .ok file') :
    file'.output = file.output ∧ file'.relative = file.relative := by
  unfold ComponentFile.setTemplate at h
  obtain ⟨block, -, h⟩ := bind_eq_ok_iff.mp h
  obtain ⟨edited, -, h⟩ := bind_eq_ok_iff.mp h
  obtain rfl := Except.ok.inj h
  exact ⟨rfl, rfl⟩

theorem addComment_frame {file file' : ComponentFile} {comment : Text}
    (h : file.addComment comment = .ok file') :
    file'.output = file.output ∧ file'.relative = file.relative := by
  unfold ComponentFile.addComment at h
  split at h
  · cases h
  · obtain ⟨block, -, h⟩ := bind_eq_ok_iff.mp h
    obtain ⟨edited, -, h⟩ := bind_eq_ok_iff.mp h
    obtain rfl := Except.ok.inj h
    exact ⟨rfl, rfl⟩

variable [Patterns]

theorem revise_frame {entry : Mod} {file file' : ComponentFile}
    (h : revise entry file = .ok file') :
    file'.output = file.output ∧ file'.relative = file.relative := by
  unfold revise at h
  obtain ⟨template, -, h⟩ := bind_eq_ok_iff.mp h
  obtain ⟨revised, -, h⟩ := bind_eq_ok_iff.mp h
  obtain ⟨first, hfirst, h⟩ := bind_eq_ok_iff.mp h
  have hset := setTemplate_frame (mapError_eq_ok_iff.mp hfirst)
  cases hcomment : entry.comment with
  | none =>
    rw [hcomment] at h
    have hmark := addComment_frame (mapError_eq_ok_iff.mp h)
    exact ⟨hmark.1.trans hset.1, hmark.2.trans hset.2⟩
  | some comment =>
    rw [hcomment] at h
    obtain ⟨second, hsecond, h⟩ := bind_eq_ok_iff.mp h
    have hnote := addComment_frame (mapError_eq_ok_iff.mp hsecond)
    have hmark := addComment_frame (mapError_eq_ok_iff.mp h)
    exact ⟨hmark.1.trans (hnote.1.trans hset.1), hmark.2.trans (hnote.2.trans hset.2)⟩

/-- The file that a mod makes is given by a path in the folder for output. -/
theorem produce_mod (contained : recipe.Contained) (hroot : root.text ≠ []) (wf : tree.WellFormed)
    {entry : Mod} (hentry : entry ∈ recipe.mods) {path : Path} {text : Text}
    (h : recipe.produce root tree produced (.mod entry) = .ok (path, text)) :
    ∃ folder ∈ recipe.info.folders.head?, ∃ inner : Path, inner.Inner ∧
      path = (root.join ⟨folder⟩).join inner := by
  unfold produce at h
  obtain ⟨file, hfile, hrest⟩ := bind_eq_ok_iff.mp h
  obtain ⟨revised, hrevised, htarget⟩ := bind_eq_ok_iff.mp hrest
  rw [loadComponent_eq, map_eq_ok_iff] at hfile
  obtain ⟨source, hsource, rfl⟩ := hfile
  obtain ⟨found, hfound, hload⟩ := findSource_eq_ok contained hroot wf hentry hsource
  obtain ⟨hout, hrel⟩ := load_frame hload
  obtain ⟨hout', hrel'⟩ := continued_frame produced source
  obtain ⟨hout'', hrel''⟩ := revise_frame hrevised
  rw [hout', hout] at hout''
  rw [hrel', hrel] at hrel''
  split at htarget
  · cases htarget
  · next target hpath =>
    obtain ⟨rfl, -⟩ := Prod.mk.inj (Except.ok.inj htarget)
    exact target_mod (contained.modOutputs entry hentry) hfound.relative hout'' hrel'' hpath

theorem produce_combination {entry : Combination} {path : Path} {text : Text}
    (h : recipe.produce root tree produced (.combination entry) = .ok (path, text)) :
    path = root.join entry.target := by
  unfold produce at h
  obtain ⟨source, -, h⟩ := bind_eq_ok_iff.mp h
  obtain ⟨override, -, h⟩ := bind_eq_ok_iff.mp h
  obtain ⟨after, -, h⟩ := bind_eq_ok_iff.mp h
  exact (Prod.mk.inj (Except.ok.inj h)).1.symm

/-- The file that an entry makes lies below the root, and that of a mod in the output folder. -/
theorem produce_target (contained : recipe.Contained) (hroot : root.text ≠ [])
    (wf : tree.WellFormed) {entry : RecipeEntry} (hentry : entry ∈ recipe.entries) {path : Path}
    {text : Text} (h : recipe.produce root tree produced entry = .ok (path, text)) :
    ∃ names, Path.Inside root path names ∧ recipe.Targets names entry := by
  cases entry with
  | mod entry =>
    obtain ⟨folder, hfolder, inner, hinner, rfl⟩ :=
      produce_mod contained hroot wf (mem_entries_mod.mp hentry) h
    have hinside := inside_folder contained hroot (List.mem_of_mem_head? hfolder)
    exact ⟨_, hinside.join hinner, folder, hfolder, List.prefix_append _ _⟩
  | combination entry =>
    have hcombination := mem_entries_combination.mp hentry
    obtain rfl := produce_combination h
    exact ⟨_, Path.Inside.of_inner hroot (contained.targets entry hcombination), rfl⟩

end Revision

/-! ### What an entry depends on -/

theorem isOutput_iff (contained : recipe.Contained) (hroot : root.text ≠ []) {path : Path}
    {names : List Name} (hinside : Path.Inside root path names) :
    recipe.isOutput root path = true ↔ recipe.InOutput names := by
  have hfolder : ∀ folder ∈ recipe.info.folders.head?,
      path.startsWith (root.join ⟨folder⟩) = true ↔ Path.names ⟨folder⟩ <+: names := by
    intro folder hfolder
    have hfolder := inside_folder contained hroot (List.mem_of_mem_head? hfolder)
    rw [Path.startsWith, hinside.components, hfolder.components, List.isPrefixOf_iff_prefix,
      Path.below_prefix_iff]
  unfold isOutput outputFolder? InOutput
  cases hhead : recipe.info.folders.head? with
  | none => simp
  | some folder => simpa using hfolder folder hhead

/-- Two trees hold the same files where an entry reads. -/
def Agrees (recipe : Recipe) (root : Path) (l : Location) (tree other : Tree)
    (produced : Produced) : RecipeEntry → Prop
  | .mod _ => ∀ folder ∈ recipe.info.folders.tail,
      tree.AgreeBelow other (l ++ Path.names ⟨folder⟩)
  | .combination entry => ∀ input ∈ entry.inputs, produced.find? (root.join input) = none →
      ¬recipe.InOutput input.names → tree.file? (l ++ input.names) = other.file? (l ++ input.names)

section Agreement

variable (contained : recipe.Contained) (hroot : root.text ≠ []) {l : Location}
  (hl : tree.walk root = .ok l) (hl' : other.walk root = .ok l) (wf : tree.WellFormed)
  (wf' : other.WellFormed)

include contained hroot hl hl' wf wf'

/-- Trees with the same files in the folders that are searched give the same component. -/
theorem findComponent_congr (hagree : ∀ folder ∈ recipe.info.folders.tail,
      tree.AgreeBelow other (l ++ Path.names ⟨folder⟩))
    (name : Text) (found : Found) :
    (recipe.searchPath root).findComponent tree name = .ok found ↔
      (recipe.searchPath root).findComponent other name = .ok found := by
  have hfind : (recipe.searchPath root).folders.findSome?
        ((recipe.searchPath root).findIn? tree name) =
      (recipe.searchPath root).folders.findSome?
        ((recipe.searchPath root).findIn? other name) := by
    rw [folders_searchPath]
    refine findSome?_congr fun path hpath => ?_
    obtain ⟨folder, hfolder, rfl⟩ := List.mem_map.mp hpath
    have hfiles := Tree.filesOf_congr wf
      (inside_folder contained hroot (List.mem_of_mem_tail hfolder)) hl hl' wf'
      (hagree folder hfolder)
    simp only [SearchPath.findIn?, SearchPath.filesIn, hfiles]
  unfold SearchPath.findComponent
  rw [hfind]
  split <;> simp

theorem findFile_congr (hagree : ∀ folder ∈ recipe.info.folders.tail,
      tree.AgreeBelow other (l ++ Path.names ⟨folder⟩))
    {name : Text} (hinner : (relativeOf name).Inner) (found : Found) :
    (recipe.searchPath root).findFile tree name = .ok found ↔
      (recipe.searchPath root).findFile other name = .ok found := by
  have hfind : ((recipe.sourceFolders root).find? fun folder =>
        tree.isFile (folder.join (relativeOf name))) =
      (recipe.sourceFolders root).find? fun folder =>
        other.isFile (folder.join (relativeOf name)) := by
    refine List.find?_congr fun path hpath => ?_
    obtain ⟨folder, hfolder, rfl⟩ := List.mem_map.mp hpath
    have hinside := (inside_folder contained hroot (List.mem_of_mem_tail hfolder)).join hinner
    refine Tree.isFile_congr hinside hl hl' wf wf' ?_
    rw [← List.append_assoc]
    exact hagree folder hfolder (relativeOf name).names
  rw [findFile_eq_ok_iff, findFile_eq_ok_iff, hfind]

omit contained hroot in
theorem load_congr (hagree : ∀ folder ∈ recipe.info.folders.tail,
      tree.AgreeBelow other (l ++ Path.names ⟨folder⟩))
    {found : Found} (hfound : recipe.FoundInside root found) (file : ComponentFile) :
    (recipe.searchPath root).load tree found = .ok file ↔
      (recipe.searchPath root).load other found = .ok file := by
  obtain ⟨folder, hfolder, hinside⟩ := hfound.inside
  have hread := Tree.read_congr hinside hl hl' wf wf' (by
    rw [← List.append_assoc]
    exact hagree folder hfolder found.relative.names)
  unfold SearchPath.load
  cases ht : tree.read found.path with
  | ok t => rw [(hread t).mp ht]
  | error fault =>
    cases ho : other.read found.path with
    | ok t =>
      rw [(hread t).mpr ho] at ht
      cases ht
    | error fault' => simp

theorem findSource_congr {entry : Mod} (hentry : entry ∈ recipe.mods)
    (hagree : recipe.Agrees root l tree other produced (.mod entry)) (file : ComponentFile) :
    recipe.findSource root tree entry = .ok file ↔
      recipe.findSource root other entry = .ok file := by
  unfold findSource
  split
  · rw [mapError_eq_ok_iff, mapError_eq_ok_iff, SearchPath.loadComponent, SearchPath.loadComponent,
      bind_eq_ok_iff, bind_eq_ok_iff]
    refine exists_congr fun found => ?_
    rw [← findComponent_congr contained hroot hl hl' wf wf' hagree _ found]
    refine and_congr_right fun hfound => ?_
    exact load_congr hl hl' wf wf' hagree
      (foundInside_of_findComponent contained hroot wf hfound) file
  · next name _ hfile =>
    have hinner := contained.files entry hentry name (by simp [hfile])
    rw [mapError_eq_ok_iff, mapError_eq_ok_iff, SearchPath.loadFile, SearchPath.loadFile,
      bind_eq_ok_iff, bind_eq_ok_iff]
    refine exists_congr fun found => ?_
    rw [← findFile_congr contained hroot hl hl' wf wf' hagree hinner found]
    refine and_congr_right fun hfound => ?_
    exact load_congr hl hl' wf wf' hagree (foundInside_of_findFile contained hroot hinner hfound)
      file
  · exact Iff.rfl

theorem readInput_congr {input : Path} (hinner : input.Inner)
    (hagree : produced.find? (root.join input) = none → ¬recipe.InOutput input.names →
      tree.file? (l ++ input.names) = other.file? (l ++ input.names)) (t : Text) :
    recipe.readInput root tree produced (root.join input) = .ok t ↔
      recipe.readInput root other produced (root.join input) = .ok t := by
  have hinside := Path.Inside.of_inner hroot hinner
  unfold readInput
  cases hproduced : produced.find? (root.join input) with
  | some text => exact Iff.rfl
  | none =>
    by_cases houtput : recipe.isOutput root (root.join input) = true
    · rw [if_pos houtput, if_pos houtput]
    · rw [if_neg houtput, if_neg houtput, mapError_eq_ok_iff, mapError_eq_ok_iff]
      rw [isOutput_iff contained hroot hinside] at houtput
      exact Tree.read_congr hinside hl hl' wf wf' (hagree hproduced houtput) t

/-- What an entry makes depends only on the files that it reads. -/
theorem produce_congr [Digest] [Patterns] {entry : RecipeEntry} (hentry : entry ∈ recipe.entries)
    (hagree : recipe.Agrees root l tree other produced entry) (out : Path × Text) :
    recipe.produce root tree produced entry = .ok out ↔
      recipe.produce root other produced entry = .ok out := by
  cases entry with
  | mod entry =>
    have hfile := findSource_congr contained hroot hl hl' wf wf' (mem_entries_mod.mp hentry) hagree
    simp only [produce]
    -- the texts produced are the same for both trees, and so is what continues the component
    rw [loadComponent_eq, loadComponent_eq, bind_eq_ok_iff, bind_eq_ok_iff]
    refine exists_congr fun file => and_congr_left fun _ => ?_
    rw [map_eq_ok_iff, map_eq_ok_iff]
    exact exists_congr fun source => and_congr_left fun _ => hfile source
  | combination entry =>
    have hcombination := mem_entries_combination.mp hentry
    have hsource := readInput_congr contained hroot hl hl' wf wf'
      (contained.sources entry hcombination) (hagree ⟨entry.source⟩ (by simp [Combination.inputs]))
    have hoverride := readInput_congr contained hroot hl hl' wf wf'
      (contained.overrides entry hcombination)
      (hagree ⟨entry.override⟩ (by simp [Combination.inputs]))
    simp only [produce]
    rw [bind_eq_ok_iff, bind_eq_ok_iff]
    refine exists_congr fun source => and_congr (hsource source) ?_
    rw [bind_eq_ok_iff, bind_eq_ok_iff]
    exact exists_congr fun override => and_congr_left fun _ => hoverride override

end Agreement

end Recipe

end Graft
