import Graft.Proofs.Produce
import Graft.Proofs.Write

/-! What a run of a recipe leaves: the texts that it produced lie over the tree that it started
from, and no other file has changed. -/

namespace Graft

open Text

/-- A tree after a text was put into the file of a path: no other file has changed. -/
structure Tree.Stored (before : Tree) (path : Path) (text : Text) (after : Tree) : Prop where
  grows : Grows before after
  wellFormed : before.WellFormed → after.WellFormed
  file : ∃ place, after.locate path = .ok place ∧ after.file? place = some (.text text) ∧
    ∀ m ≠ place, after.file? m = before.file? m

/-- The text produced for what is at a location, in a run whose root is at another. -/
def Produced.at? (produced : Produced) (root : Path) (l m : Location) : Option Text :=
  if l.isPrefixOf m then produced.lookup (root.below (m.drop l.length))
  else none

namespace Recipe

variable {recipe : Recipe} {root : Path} {tree after : Tree} {produced : Produced} {path : Path}
  {text : Text}

/-! ### One entry -/

theorem planWrite_eq_ok_iff {plan : Plan} : planWrite tree path text = .ok plan ↔
    ∃ before, tree.readIfAny path = .ok before ∧ plan = ⟨path, before, text⟩ := by
  unfold planWrite
  rw [bind_eq_ok_iff]
  refine exists_congr fun before => and_congr mapError_eq_ok_iff ?_
  exact ⟨fun h => (Except.ok.inj h).symm, fun h => h ▸ rfl⟩

theorem readIfAny_eq_some_iff :
    tree.readIfAny path = .ok (some text) ↔ tree.read path = .ok text := by
  unfold Tree.readIfAny
  split
  · next t ht => simp [ht]
  · next h => simp [h]
  · next e _ h => simp [h]

theorem stored_of_write {made : Tree} (hmade : Tree.AddsFolders tree made)
    (hwrite : made.write path text = .ok after) : tree.Stored path text after := by
  obtain ⟨folder, name, hname, hfolder, hfree, rfl, hplace⟩ := Tree.write_eq_ok hwrite
  have hne : folder ++ [name] ≠ [] := by simp
  refine ⟨hmade.grows.trans (.of_insert_file hfree),
    fun wf => (hmade.wellFormed wf).insert hname hfolder hfree, _, hplace, ?_, fun m hm => ?_⟩
  · rw [Tree.file?_insert hne, if_pos rfl]
  · rw [Tree.file?_insert hne, if_neg hm, hmade.file? m]

/-- A plan is left alone, stopped where its folder is made, or written into the tree that has the
folder. -/
theorem commit_cases {plan : Plan} {result : Except EntryError Written}
    (h : commit tree plan = (after, result)) :
    plan.isChange = false ∧ after = tree ∧ result = .ok (.unchanged plan.file) ∨
    plan.isChange = true ∧ ∃ made, Tree.AddsFolders tree made ∧
      made = (plan.file.parent?.elim (tree, none) tree.makeFolders).1 ∧
      (after = made ∧ (∃ e, result = .error e) ∨
        made.write plan.file plan.after = .ok after ∧ result = .ok (.applied plan.file)) := by
  have hmade : Tree.AddsFolders tree (plan.file.parent?.elim (tree, none) tree.makeFolders).1 := by
    cases plan.file.parent? with
    | none => exact .refl tree
    | some parent => exact .makeFolders tree parent
  unfold commit at h
  split at h
  · next hsame =>
    obtain ⟨rfl, rfl⟩ := Prod.mk.inj h
    exact .inl ⟨by simpa using hsame, rfl, rfl⟩
  · next hchange =>
    refine .inr ⟨by simpa using hchange, _, hmade, rfl, ?_⟩
    dsimp only at h
    split at h
    · next made fault hparent =>
      obtain ⟨rfl, rfl⟩ := Prod.mk.inj h
      exact .inl ⟨by rw [hparent], _, rfl⟩
    · next made hparent =>
      rw [hparent]
      split at h
      · next written hwrite =>
        obtain ⟨rfl, rfl⟩ := Prod.mk.inj h
        exact .inr ⟨hwrite, rfl⟩
      · next fault hwrite =>
        obtain ⟨rfl, rfl⟩ := Prod.mk.inj h
        exact .inl ⟨rfl, _, rfl⟩

theorem written_of_commit {plan : Plan} {written : Written}
    (h : commit tree plan = (after, .ok written)) :
    written = if plan.isChange then .applied plan.file else .unchanged plan.file := by
  rcases commit_cases h with ⟨hchange, -, hresult⟩ |
    ⟨hchange, made, -, -, ⟨-, e, herror⟩ | ⟨-, hresult⟩⟩
  · rw [Except.ok.inj hresult, hchange]
    rfl
  · cases herror
  · rw [Except.ok.inj hresult, hchange]
    rfl

/-- What a plan that is carried out does to the tree. -/
theorem stored_of_commit {plan : Plan} {written : Written}
    (hplan : planWrite tree path text = .ok plan) (h : commit tree plan = (after, .ok written)) :
    tree.Stored path text after := by
  obtain ⟨before, hbefore, rfl⟩ := planWrite_eq_ok_iff.mp hplan
  rcases commit_cases h with ⟨hchange, rfl, -⟩ |
    ⟨-, made, hadds, -, ⟨-, e, herror⟩ | ⟨hwrite, -⟩⟩
  · have hsame : before = some text := by simpa [Plan.isChange] using hchange
    rw [hsame, readIfAny_eq_some_iff, Tree.read_eq_ok_iff] at hbefore
    obtain ⟨place, hplace, hfile⟩ := hbefore
    exact ⟨.refl _, id, place, hplace, hfile, fun _ _ => rfl⟩
  · cases herror
  · exact stored_of_write hadds hwrite

/-- A plan that is carried out without room for the temporary file changes nothing. -/
theorem eq_of_commit_of_not_hasRoom {plan : Plan} {written : Written}
    (hroom : tree.hasRoom plan.file = false) (h : commit tree plan = (after, .ok written)) :
    after = tree := by
  rcases commit_cases h with ⟨-, rfl, -⟩ | ⟨-, made, hadds, -, ⟨-, e, herror⟩ | ⟨hwrite, -⟩⟩
  · rfl
  · cases herror
  · rw [← Tree.hasRoom_congr hadds.grows.home, Tree.hasRoom_of_write hwrite] at hroom
    cases hroom

/-- A plan that changes a file that is there goes straight to writing the file: no folder is
made. -/
theorem commit_eq_of_file (wf : tree.WellFormed) {l : Location} {old : Text}
    (hl : tree.locate path = .ok l) (hfile : tree.file? l = some (.text old)) (hne : old ≠ text) :
    commit tree ⟨path, some old, text⟩ =
      match tree.write path text with
      | .ok written => (written, .ok (.applied path))
      | .error fault => (tree, .error (.write fault)) := by
  have hparent : path.parent?.elim (tree, none) tree.makeFolders = (tree, none) := by
    cases hq : path.parent? with
    | none => rfl
    | some q => exact Tree.makeFolders_of_file wf hl (by simp [hfile]) hq
  have hchange : Plan.isChange ⟨path, some old, text⟩ = true := by
    simpa [Plan.isChange] using hne
  cases hwrite : tree.write path text <;> simp [commit, hchange, hparent, hwrite]

/-- A plan for a file that is there is carried out without a fault if there is room for the
temporary file, and no folder is made. -/
theorem commit_of_file (wf : tree.WellFormed) {l : Location} {old : Text}
    (hl : tree.locate path = .ok l) (hfile : tree.file? l = some (.text old))
    (hroom : tree.hasRoom path = true) :
    ∃ after written, commit tree ⟨path, some old, text⟩ = (after, .ok written) ∧
      ∀ m, after.entry? m = some .folder ↔ tree.entry? m = some .folder := by
  by_cases hsame : old = text
  · refine ⟨tree, .unchanged path, ?_, fun _ => Iff.rfl⟩
    unfold commit
    rw [if_pos (by simp [Plan.isChange, hsame])]
  · rw [commit_eq_of_file wf hl hfile hsame, Tree.write_of_file wf hl (by simp [hfile]) hroom]
    have hentry := Tree.file?_eq_some_iff.mp hfile
    have hne : l ≠ [] := by
      rintro rfl
      cases hentry
    refine ⟨_, _, rfl, fun m => ?_⟩
    rw [Tree.entry?_insert hne]
    split
    · next hm => simp [hm, hentry]
    · exact Iff.rfl

/-- A plan for a file that is there fails only for want of room for the temporary file, and then it
leaves the tree as it is. -/
theorem commit_error_of_file (wf : tree.WellFormed) {l : Location} {old : Text}
    (hl : tree.locate path = .ok l) (hfile : tree.file? l = some (.text old)) {e : EntryError}
    (h : commit tree ⟨path, some old, text⟩ = (after, .error e)) :
    tree.hasRoom path = false ∧ (∃ temporary, e = .write (.temporaryTooLong temporary)) ∧
      after = tree := by
  have hroom : tree.hasRoom path = false := by
    by_contra hroom
    obtain ⟨done, written, hcommit⟩ : ∃ done written,
        commit tree ⟨path, some old, text⟩ = (done, .ok written) :=
      (commit_of_file wf hl hfile (Bool.not_eq_false _ ▸ hroom)).imp fun _ =>
        .imp fun _ => And.left
    rw [h] at hcommit
    cases (Prod.mk.inj hcommit).2
  by_cases hsame : old = text
  · unfold commit at h
    rw [if_pos (by simp [Plan.isChange, hsame])] at h
    cases h
  · obtain ⟨folder, -, hwrite⟩ := Tree.write_of_not_hasRoom hroom text
    rw [commit_eq_of_file wf hl hfile hsame, hwrite] at h
    obtain ⟨rfl, herror⟩ := Prod.mk.inj h
    exact ⟨hroom, ⟨_, (Except.error.inj herror).symm⟩, rfl⟩

/-- Without room for the temporary file a plan for a file that is there leaves the tree as it is. -/
theorem commit_of_not_hasRoom (wf : tree.WellFormed) {l : Location} {old : Text}
    (hl : tree.locate path = .ok l) (hfile : tree.file? l = some (.text old))
    (hroom : tree.hasRoom path = false) : (commit tree ⟨path, some old, text⟩).1 = tree := by
  cases hcommit : commit tree ⟨path, some old, text⟩ with
  | mk after result =>
    cases result with
    | error e => exact (commit_error_of_file wf hl hfile hcommit).2.2
    | ok written => exact eq_of_commit_of_not_hasRoom hroom hcommit

section Step

variable [Digest] [Patterns]

/-- An entry that is run makes nothing, or it makes a text that is put into its file. -/
theorem step_cases {entry : RecipeEntry}
    (hwrites : (recipe.produce root tree produced entry).isOk →
      (commitPlanned tree (recipe.plan root tree produced entry)).2.isOk) :
    (∃ e, recipe.produce root tree produced entry = .error e ∧
      commitPlanned tree (recipe.plan root tree produced entry) = (tree, .error e) ∧
      record produced (recipe.plan root tree produced entry) = produced) ∨
    (∃ path text after written, recipe.produce root tree produced entry = .ok (path, text) ∧
      commitPlanned tree (recipe.plan root tree produced entry) = (after, .ok written) ∧
      record produced (recipe.plan root tree produced entry) =
        (path.components, text) :: produced ∧ tree.Stored path text after) := by
  rw [plan_eq] at *
  cases hout : recipe.produce root tree produced entry with
  | error e => exact .inl ⟨e, rfl, rfl, rfl⟩
  | ok out =>
    obtain ⟨path, text⟩ := out
    rw [hout] at hwrites
    have hok := hwrites rfl
    change (commitPlanned tree (planWrite tree path text)).2.isOk at hok
    refine .inr ⟨path, text, ?_⟩
    cases hplan : planWrite tree path text with
    | error e =>
      rw [hplan] at hok
      cases hok
    | ok plan =>
      rw [hplan] at hok
      obtain ⟨before, -, rfl⟩ := planWrite_eq_ok_iff.mp hplan
      cases hcommit : commit tree ⟨path, before, text⟩ with
      | mk after result =>
        change (commit tree ⟨path, before, text⟩).2.isOk at hok
        rw [hcommit] at hok
        cases result with
        | error e => cases hok
        | ok written =>
          refine ⟨after, written, rfl, ?_, ?_, stored_of_commit hplan hcommit⟩
          · change commitPlanned tree (planWrite tree path text) = _
            rw [hplan]
            exact hcommit
          · change record produced (planWrite tree path text) = _
            rw [hplan]
            rfl

/-- An entry that makes nothing leaves everything as it is. -/
theorem step_of_not_isOk {entry : RecipeEntry}
    (h : ¬(recipe.produce root tree produced entry).isOk) :
    ∃ e, commitPlanned tree (recipe.plan root tree produced entry) = (tree, .error e) ∧
      record produced (recipe.plan root tree produced entry) = produced := by
  rcases step_cases (fun hok => absurd hok h) with ⟨e, -, hcommit, hrecord⟩ |
    ⟨path, text, after, written, hproduce, -, -, -⟩
  · exact ⟨e, hcommit, hrecord⟩
  · rw [hproduce] at h
    exact absurd rfl h

end Step

/-! ### Runs -/

variable {l m : Location} {base : Tree} {names : List Name}

@[simp] theorem at?_append :
    produced.at? root l (l ++ names) = produced.lookup (root.below names) := by
  simp [Produced.at?]

theorem at?_cons (hpath : Path.Inside root path names) :
    Produced.at? ((path.components, text) :: produced) root l m =
      if m = l ++ names then some text else produced.at? root l m := by
  unfold Produced.at?
  split
  · next hlead =>
    obtain ⟨rest, rfl⟩ := List.isPrefixOf_iff_prefix.mp hlead
    rw [List.drop_left, List.lookup_cons, hpath.components]
    by_cases hrest : rest = names
    · simp [hrest]
    · have hne : (root.below rest == root.below names) = false := by
        simpa [Path.below_inj] using hrest
      simp [hrest, hne]
  · next hlead =>
    rw [if_neg]
    rintro rfl
    exact hlead (by simp)

/-- The texts produced lie over the files of a tree. -/
structure Overlay (root : Path) (l : Location) (base : Tree) (produced : Produced) (tree : Tree) :
    Prop where
  grows : Tree.Grows base tree
  wellFormed : tree.WellFormed
  file : ∀ m, tree.file? m = ((produced.at? root l m).map .text).or (base.file? m)

namespace Overlay

theorem refl (wf : tree.WellFormed) : Overlay root l tree [] tree :=
  ⟨.refl tree, wf, fun m => by simp [Produced.at?]⟩

/-- A text that is put into its file lies over the others. -/
theorem stored (h : Overlay root l base produced tree) (hl : base.walk root = .ok l)
    (hpath : Path.Inside root path names) (hstored : tree.Stored path text after) :
    Overlay root l base ((path.components, text) :: produced) after := by
  obtain ⟨place, hplace, hfile, hother⟩ := hstored.file
  refine ⟨h.grows.trans hstored.grows, hstored.wellFormed h.wellFormed, fun m => ?_⟩
  -- the path leads to the same place before and after folders were made for it
  obtain ⟨rfl, -⟩ := hpath.locate_eq (hstored.grows.walk (h.grows.walk hl)) hplace
  rw [at?_cons hpath]
  by_cases hm : m = l ++ names
  · rw [if_pos hm, hm, hfile]
    rfl
  · rw [if_neg hm, hother m hm]
    exact h.file m

theorem file?_of_lookup (h : Overlay root l base produced tree) (names : List Name)
    (hnone : produced.lookup (root.below names) = none) :
    tree.file? (l ++ names) = base.file? (l ++ names) := by
  rw [h.file, at?_append, hnone]
  rfl

end Overlay

section Run

variable [Digest] [Patterns]

/-- Each text that an entry makes can be written. -/
def Writes (recipe : Recipe) (root : Path) : Tree → Produced → List RecipeEntry → Prop
  | _, _, [] => True
  | tree, produced, entry :: rest =>
    let planned := recipe.plan root tree produced entry
    ((recipe.produce root tree produced entry).isOk → (commitPlanned tree planned).2.isOk) ∧
      recipe.Writes root (commitPlanned tree planned).1 (record produced planned) rest

instance decidableWrites (recipe : Recipe) (root : Path) : (tree : Tree) →
    (produced : Produced) → (entries : List RecipeEntry) →
      Decidable (recipe.Writes root tree produced entries)
  | _, _, [] => .isTrue trivial
  | tree, produced, entry :: rest =>
    have := decidableWrites recipe root
      (commitPlanned tree (recipe.plan root tree produced entry)).1
      (record produced (recipe.plan root tree produced entry)) rest
    inferInstanceAs (Decidable (_ ∧ _))

/-- A file that an entry can be written to. -/
def IsTarget (recipe : Recipe) (root : Path) (entries : List RecipeEntry) (key : List Component) :
    Prop :=
  ∃ entry ∈ entries, ∃ names, key = root.below names ∧ recipe.Targets names entry

theorem runAll_cons {entry : RecipeEntry} {rest : List RecipeEntry}
    {result : Except EntryError Written} {produced' : Produced}
    (hcommit : commitPlanned tree (recipe.plan root tree produced entry) = (after, result))
    (hrecord : record produced (recipe.plan root tree produced entry) = produced') :
    recipe.runAll root tree produced (entry :: rest) =
      { recipe.runAll root after produced' rest with
        results := (entry.id, result) :: (recipe.runAll root after produced' rest).results } := by
  rw [runAll, hcommit, hrecord]

/-- The texts that a run produces lie over the tree that it starts from. -/
theorem runAll_overlay (contained : recipe.Contained) (hroot : root.text ≠ [])
    (hl : base.walk root = .ok l) {entries : List RecipeEntry}
    (hentries : ∀ entry ∈ entries, entry ∈ recipe.entries)
    (hover : Overlay root l base produced tree)
    (hwrites : recipe.Writes root tree produced entries) :
    Overlay root l base (recipe.runAll root tree produced entries).produced
        (recipe.runAll root tree produced entries).tree ∧
      ∃ added, (recipe.runAll root tree produced entries).produced = added ++ produced ∧
        ∀ x ∈ added, recipe.IsTarget root entries x.1 := by
  induction entries generalizing tree produced with
  | nil => exact ⟨hover, [], rfl, by simp⟩
  | cons entry rest ih =>
    obtain ⟨hwrite, hrest⟩ := hwrites
    have hrestEntries := fun e he => hentries e (List.mem_cons_of_mem entry he)
    have hmono : ∀ key, recipe.IsTarget root rest key → recipe.IsTarget root (entry :: rest) key :=
      fun key ⟨e, he, hkey⟩ => ⟨e, List.mem_cons_of_mem entry he, hkey⟩
    rcases step_cases hwrite with ⟨e, -, hcommit, hrecord⟩ |
      ⟨path, text, after, written, hproduce, hcommit, hrecord, hstored⟩
    · rw [hcommit, hrecord] at hrest
      rw [runAll_cons hcommit hrecord]
      obtain ⟨hover', added, hadded, hkeys⟩ := ih hrestEntries hover hrest
      exact ⟨hover', added, hadded, fun x hx => hmono _ (hkeys x hx)⟩
    · rw [hcommit, hrecord] at hrest
      rw [runAll_cons hcommit hrecord]
      obtain ⟨names, hpath, htargets⟩ := produce_target contained hroot hover.wellFormed
        (hentries entry (by simp)) hproduce
      obtain ⟨hover', added, hadded, hkeys⟩ :=
        ih hrestEntries (hover.stored hl hpath hstored) hrest
      refine ⟨hover', added ++ [(path.components, text)], by simp [hadded], fun x hx => ?_⟩
      rcases List.mem_append.mp hx with hx | hx
      · exact hmono _ (hkeys x hx)
      · obtain rfl := List.mem_singleton.mp hx
        exact ⟨entry, by simp, names, hpath.components, htargets⟩

/-- The run of a whole recipe lies over the tree that it was given, and holds only what its entries
write. -/
theorem overlay_entries (contained : recipe.Contained) (hroot : root.text ≠ [])
    (hl : tree.walk root = .ok l) (wf : tree.WellFormed)
    (hwrites : recipe.Writes root tree [] recipe.entries) :
    let run := recipe.runAll root tree [] recipe.entries
    Overlay root l tree run.produced run.tree ∧
      ∀ x ∈ run.produced, recipe.IsTarget root recipe.entries x.1 := by
  obtain ⟨hover, added, hadded, hkeys⟩ :=
    runAll_overlay contained hroot hl (fun _ h => h) (.refl wf) hwrites
  rw [List.append_nil] at hadded
  rw [← hadded] at hkeys
  exact ⟨hover, hkeys⟩

end Run

/-! ### The end of a run -/

section Prune

variable (contained : recipe.Contained) (hroot : root.text ≠ [])

include contained hroot

/-- In the folder for output a file stays if its path is too long or the run produced it. -/
theorem staysIn_file_iff {folder : Text} (hfolder : folder ∈ recipe.info.folders.head?)
    (content : Content) : staysIn produced (root.join ⟨folder⟩) names (.file content) = true ↔
      ((root.join ⟨folder⟩).descend names).isTooLong = true ∨
        (produced.lookup (root.below (Path.names ⟨folder⟩ ++ names))).isSome := by
  have hinside := inside_folder contained hroot (List.mem_of_mem_head? hfolder)
  rw [staysIn, hinside.components, Bool.or_eq_true, Path.below_append]

omit contained hroot in
@[simp] theorem staysIn_folder (folder : Path) : staysIn produced folder names .folder =
    (folder.descend names).isTooLong := by
  simp [staysIn]

/-- A run prunes its folder for output where that is a folder. -/
theorem pruneOutput_cases (produced : Produced) (hl : tree.walk root = .ok l) :
    (∀ folder ∈ recipe.info.folders.head?, tree.isFolder (root.join ⟨folder⟩) = false) ∧
        recipe.pruneOutput root tree produced = tree ∨
      ∃ folder ∈ recipe.info.folders.head?, tree.isFolder (root.join ⟨folder⟩) = true ∧
        recipe.pruneOutput root tree produced =
          tree.prune (l ++ Path.names ⟨folder⟩) (staysIn produced (root.join ⟨folder⟩)) := by
  unfold pruneOutput outputFolder?
  cases hfolder : recipe.info.folders.head? with
  | none => exact .inl ⟨by simp, rfl⟩
  | some folder =>
    have hinside := inside_folder contained hroot (List.mem_of_mem_head? hfolder)
    dsimp only [Option.map_some]
    cases hm : tree.locate (root.join ⟨folder⟩) with
    | error fault =>
      refine .inl ⟨fun folder' h => ?_, rfl⟩
      obtain rfl := Option.some.inj h
      rw [Bool.eq_false_iff, Ne, Tree.isFolder_iff]
      simp [hm]
    | ok m =>
      obtain ⟨rfl, -⟩ := hinside.locate_eq hl hm
      by_cases hat : tree.isFolderAt (l ++ Path.names ⟨folder⟩) = true
      · refine .inr ⟨folder, rfl, Tree.isFolder_iff.mpr ⟨_, hm, Tree.isFolderAt_iff.mp hat⟩, ?_⟩
        dsimp only
        rw [if_pos hat]
      · refine .inl ⟨fun folder' h => ?_, by dsimp only; rw [if_neg hat]⟩
        obtain rfl := Option.some.inj h
        rw [Bool.eq_false_iff, Ne, Tree.isFolder_iff]
        rintro ⟨m, hm', hentry⟩
        rw [hm] at hm'
        obtain rfl := Except.ok.inj hm'
        exact hat (Tree.isFolderAt_iff.mpr hentry)

/-- A tree as a run leaves it: it holds the texts that were produced, and outside the folder for
output nothing else has changed. -/
structure Settled (recipe : Recipe) (root : Path) (l : Location) (base : Tree)
    (produced : Produced) (tree : Tree) : Prop where
  home : tree.home = base.home
  wellFormed : tree.WellFormed
  walk : tree.walk root = .ok l
  kept : ∀ names text, produced.lookup (root.below names) = some text →
    tree.file? (l ++ names) = some (.text text)
  outside : ∀ names, ¬recipe.InOutput names → tree.file? (l ++ names) =
    ((produced.lookup (root.below names)).map .text).or
      (base.file? (l ++ names))

omit contained hroot in
theorem walk_of_folder {other : Tree} (hplain : ['.', '.'] ∉ root.pieces) (wf : other.WellFormed)
    (hhome : other.home = tree.home) (hl : tree.walk root = .ok l)
    (hfolder : other.entry? l = some .folder) : other.walk root = .ok l := by
  have hstart : other.startOf root = tree.startOf root := by
    rw [Tree.startOf, Tree.startOf, hhome]
  rw [Tree.walk, hstart]
  exact wf.foldlM_enter hplain hl (by simp [hfolder]) fun _ => hfolder

/-- A root without `..` is not pruned away. -/
theorem walk_pruneOutput (hplain : ['.', '.'] ∉ root.pieces) (wf : tree.WellFormed)
    (hl : tree.walk root = .ok l) (hfolder : tree.entry? l = some .folder) :
    (recipe.pruneOutput root tree produced).walk root = .ok l := by
  rcases pruneOutput_cases contained hroot produced hl with
    ⟨-, hprune⟩ | ⟨folder, -, -, hprune⟩
  · rw [hprune]
    exact hl
  · rw [hprune]
    refine walk_of_folder hplain (wf.prune _ _) (show _ = tree.home from rfl) hl ?_
    rw [Tree.entry?_prune_of_not_below wf]
    · exact hfolder
    · rintro ⟨hlead, hne⟩
      exact hne (hlead.eq_of_length_le (by simp)).symm

theorem settled_pruneOutput (hl : base.walk root = .ok l)
    (hover : Overlay root l base produced tree)
    (hsettled : (recipe.pruneOutput root tree produced).walk root = .ok l) :
    recipe.Settled root l base produced (recipe.pruneOutput root tree produced) := by
  have wf := hover.wellFormed
  have hwalk := hover.grows.walk hl
  have hsome : ∀ names text,
      produced.lookup (root.below names) = some text →
      tree.file? (l ++ names) = some (.text text) := by
    intro names text h
    rw [hover.file, at?_append, h]
    rfl
  rcases pruneOutput_cases contained hroot produced hwalk with
    ⟨-, hprune⟩ | ⟨folder, hhead, -, hprune⟩
  · rw [hprune] at hsettled ⊢
    exact ⟨hover.grows.home, wf, hsettled, hsome, fun names _ => by rw [hover.file, at?_append]⟩
  · rw [hprune] at hsettled ⊢
    refine ⟨hover.grows.home, wf.prune _ _, hsettled, fun names text h => ?_,
      fun names hnames => ?_⟩
    · have hfile := hsome names text h
      rw [← hfile]
      by_cases hin : Path.names ⟨folder⟩ <+: names
      · obtain ⟨rest, rfl⟩ := hin
        rw [← List.append_assoc] at hfile ⊢
        rw [hfile, Tree.file?_eq_some_iff]
        refine Tree.entry?_prune_of_stays wf (Tree.file?_eq_some_iff.mp hfile) ?_
        rw [staysIn_file_iff contained hroot hhead, h]
        exact .inr rfl
      · unfold Tree.file?
        rw [Tree.entry?_prune_of_not_below wf]
        rintro ⟨hlead, -⟩
        exact hin ((List.prefix_append_right_inj l).mp hlead)
    · rw [← at?_append, ← hover.file]
      unfold Tree.file?
      rw [Tree.entry?_prune_of_not_below wf]
      rintro ⟨hlead, -⟩
      exact hnames ⟨folder, hhead, (List.prefix_append_right_inj l).mp hlead⟩

/-- A run that leaves the same entries finds nothing more to prune. -/
theorem pruneOutput_pruneOutput {other : Tree} (hl : tree.walk root = .ok l)
    (hl' : other.walk root = .ok l) (wf : tree.WellFormed) (wf' : other.WellFormed)
    (hhome : other.home = tree.home)
    (hentry : ∀ m, other.entry? m = Tree.entry? (recipe.pruneOutput root tree produced) m) :
    (recipe.pruneOutput root other produced).home = other.home ∧
      ∀ m, Tree.entry? (recipe.pruneOutput root other produced) m = other.entry? m := by
  rcases pruneOutput_cases contained hroot produced hl with
    ⟨hno, hprune⟩ | ⟨folder, hhead, hfolder, hprune⟩
  · rw [hprune] at hentry
    have hno' : ∀ folder ∈ recipe.info.folders.head?,
        other.isFolder (root.join ⟨folder⟩) = false := by
      intro folder hfolder
      rw [← hno folder hfolder, Bool.eq_iff_iff, Tree.isFolder_iff, Tree.isFolder_iff]
      simp only [Tree.locate_congr hhome hentry, hentry]
    rcases pruneOutput_cases contained hroot produced hl' with
      ⟨-, hprune'⟩ | ⟨folder, hhead, hfolder, -⟩
    · rw [hprune']
      exact ⟨rfl, fun _ => rfl⟩
    · rw [hno' folder hhead] at hfolder
      cases hfolder
  · rw [hprune] at hentry
    rcases pruneOutput_cases contained hroot produced hl' with
      ⟨-, hprune'⟩ | ⟨folder', hhead', -, hprune'⟩
    · rw [hprune']
      exact ⟨rfl, fun _ => rfl⟩
    · obtain rfl := Option.mem_unique hhead hhead'
      rw [hprune']
      exact ⟨rfl, Tree.entry?_prune_prune wf wf' hentry⟩

/-- Where the root is nowhere to be found, nothing is pruned. -/
theorem pruneOutput_of_not_walk (hno : ∀ l, tree.walk root ≠ .ok l) :
    recipe.pruneOutput root tree produced = tree := by
  unfold pruneOutput outputFolder?
  cases hfolder : recipe.info.folders.head? with
  | none => rfl
  | some folder =>
    have hinside := inside_folder contained hroot (List.mem_of_mem_head? hfolder)
    dsimp only [Option.map_some]
    cases hm : tree.locate (root.join ⟨folder⟩) with
    | error fault => rfl
    | ok m =>
      obtain ⟨l, hl, -⟩ := hinside.isFolderAt_root hm
      exact absurd hl (hno l)

end Prune

section Rootless

variable [Digest] [Patterns]

/-- Where the root is nowhere to be found, no entry makes anything. -/
theorem not_isOk_produce (contained : recipe.Contained) (hroot : root.text ≠ [])
    (wf : tree.WellFormed) (hno : ∀ l, tree.walk root ≠ .ok l) {entry : RecipeEntry}
    (hentry : entry ∈ recipe.entries) : ¬(recipe.produce root tree [] entry).isOk := by
  intro hok
  cases hproduce : recipe.produce root tree [] entry with
  | error e =>
    rw [hproduce] at hok
    cases hok
  | ok out =>
    -- what makes something has read a file below the root
    suffices hread : ∃ path names t, Path.Inside root path names ∧ tree.read path = .ok t by
      obtain ⟨path, names, t, hinside, hread⟩ := hread
      obtain ⟨m, hm, -⟩ := Tree.read_eq_ok_iff.mp hread
      obtain ⟨l, hl, -⟩ := hinside.isFolderAt_root hm
      exact hno l hl
    cases entry with
    | mod entry =>
      simp only [produce] at hproduce
      obtain ⟨file, hfile, -⟩ := bind_eq_ok_iff.mp hproduce
      rw [loadComponent_eq, map_eq_ok_iff] at hfile
      obtain ⟨source, hsource, -⟩ := hfile
      obtain ⟨found, hfound, hload⟩ :=
        findSource_eq_ok contained hroot wf (mem_entries_mod.mp hentry) hsource
      obtain ⟨folder, -, hinside⟩ := hfound.inside
      unfold SearchPath.load at hload
      split at hload
      · next t ht => exact ⟨found.path, _, t, hinside, ht⟩
      · cases hload
    | combination entry =>
      simp only [produce] at hproduce
      obtain ⟨source, hsource, -⟩ := bind_eq_ok_iff.mp hproduce
      have hinner := contained.sources entry (mem_entries_combination.mp hentry)
      refine ⟨_, _, source, Path.Inside.of_inner hroot hinner, ?_⟩
      unfold readInput at hsource
      rw [show Produced.find? [] (root.join ⟨entry.source⟩) = none from rfl] at hsource
      dsimp only at hsource
      split at hsource
      · cases hsource
      · exact mapError_eq_ok_iff.mp hsource

theorem runAll_of_not_isOk {entries : List RecipeEntry}
    (h : ∀ entry ∈ entries, ¬(recipe.produce root tree produced entry).isOk) :
    (recipe.runAll root tree produced entries).tree = tree ∧
      (recipe.runAll root tree produced entries).produced = produced := by
  induction entries with
  | nil => exact ⟨rfl, rfl⟩
  | cons entry rest ih =>
    obtain ⟨hfirst, hrest⟩ := List.forall_mem_cons.mp h
    obtain ⟨e, hcommit, hrecord⟩ := step_of_not_isOk hfirst
    rw [runAll_cons hcommit hrecord]
    exact ih hrest

end Rootless

end Recipe

end Graft
