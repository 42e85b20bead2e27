import Graft.Proofs.Output

/-! A run does not depend on what the folder for output held before: two trees that differ only
there are the same after runs whose entries all succeed, but for what is in that folder at a path
that is too long, and the folders that lead to it. -/

namespace Graft

open Text

/-- What is added below a place makes no difference elsewhere. -/
theorem Tree.entry?_append_of_below {tree : Tree} {added : List (Location × Entry)}
    {l m : Location} (hbelow : ∀ x ∈ added, l <+: x.1) (hm : ¬l <+: m) :
    Tree.entry? ⟨tree.home, added ++ tree.entries⟩ m = tree.entry? m := by
  have hnone : added.lookup m = none := by
    rw [List.lookup_eq_none_iff]
    intro x hx
    have hne : m ≠ x.1 := fun heq => hm (heq ▸ hbelow x hx)
    simpa using hne
  simp only [Tree.entry?, List.lookup_append, hnone, Option.none_or]

namespace Recipe

variable {recipe : Recipe} {root : Path} {l m : Location} {base base' tree other : Tree}
  {refused refused' : List (Path × Text)} {produced written : Produced} {names : List Name}

/-! ### What the entries of two runs make -/

/-- Trees that agree outside the folder for output agree where an entry reads. -/
theorem agrees_of_outside [Patterns] (hvalid : recipe.issues = []) (contained : recipe.Contained)
    (hagree : ∀ names, ¬recipe.InOutput names →
      tree.file? (l ++ names) = other.file? (l ++ names)) (entry : RecipeEntry) :
    recipe.Agrees root l tree other produced entry := by
  cases entry with
  | mod entry =>
    intro folder hfolder names
    rw [List.append_assoc]
    exact hagree _ (not_inOutput_of_source hvalid contained hfolder (List.prefix_append _ names))
  | combination entry => exact fun input _ _ hout => hagree _ hout

section Run

variable [Digest] [Patterns] (hvalid : recipe.issues = []) (contained : recipe.Contained)
  (hroot : root.text ≠ [])

/-- An entry that succeeds has made the text that it leaves. -/
theorem produce_of_result {turn : Turn} (wf : turn.tree.WellFormed)
    (hok : (turn.result recipe root).isOk) : ∃ path text,
      recipe.produce root turn.tree turn.produced turn.entry = .ok (path, text) ∧
      turn.output? recipe root = some (path, text) ∧
      turn.recorded recipe root = (path.components, text) :: turn.produced ∧
      turn.tree.Stored path text (turn.after recipe root) := by
  cases Turn.outcome recipe root wf with
  | failed e _ result _ _ _ =>
    rw [result] at hok
    cases hok
  | refused plan _ result _ _ _ _ =>
    obtain ⟨e, he⟩ := result
    rw [he] at hok
    cases hok
  | written plan planned _ output after recorded =>
    exact ⟨plan.file, plan.after, (Turn.planned_eq_ok_iff.mp planned).1, output, recorded, after⟩

/-- Where every entry succeeds, each text that was recorded was written. -/
theorem produced_runAll {entries : List RecipeEntry} (wf : tree.WellFormed)
    (hok : ∀ turn ∈ recipe.turns root tree produced entries, (turn.result recipe root).isOk) :
    (recipe.runAll root tree produced entries).produced =
      Produced.ofOutputs ((recipe.turns root tree produced entries).map
        (·.output? recipe root)) ++ produced := by
  induction entries generalizing tree produced with
  | nil => rfl
  | cons entry rest ih =>
    obtain ⟨hfirst, hrest⟩ := List.forall_mem_cons.mp hok
    have hturn : Turn.tree ⟨entry, tree, produced⟩ = tree := rfl
    obtain ⟨path, text, -, houtput, hrecorded, -⟩ := produce_of_result (hturn ▸ wf) hfirst
    have hwf := (Turn.grows recipe root (hturn ▸ wf)).2
    rw [runAll_cons rfl rfl, turns, List.map_cons, Produced.ofOutputs_cons, List.append_assoc,
      houtput]
    exact (ih hwf hrest).trans (congrArg _ hrecorded)

section Lockstep

variable (hl : base.walk root = .ok l) (hl' : base'.walk root = .ok l)
  (hagree : ∀ names, ¬recipe.InOutput names →
    base'.file? (l ++ names) = base.file? (l ++ names))

include hvalid contained hroot hl hl' hagree

/-- An entry that succeeds in both runs, where they have written the same, writes the same. -/
theorem output_congr {turn turn' : Turn} (hok : (turn.result recipe root).isOk)
    (hok' : (turn'.result recipe root).isOk) (hentry : turn.entry ∈ recipe.entries)
    (hsame : turn'.entry = turn.entry) (hproduced : turn'.produced = turn.produced)
    (h : Overlay root l base turn.produced turn.tree)
    (h' : Overlay root l base' turn.produced turn'.tree) :
    turn'.output? recipe root = turn.output? recipe root ∧
      turn'.recorded recipe root = turn.recorded recipe root ∧
      Overlay root l base (turn.recorded recipe root) (turn.after recipe root) ∧
      Overlay root l base' (turn.recorded recipe root) (turn'.after recipe root) := by
  obtain ⟨path, text, hproduce, houtput, hrecorded, hstored⟩ := produce_of_result h.wellFormed hok
  obtain ⟨path', text', hproduce', houtput', hrecorded', hstored'⟩ :=
    produce_of_result h'.wellFormed hok'
  rw [hsame, hproduced] at hproduce'
  have hfiles : ∀ names, ¬recipe.InOutput names →
      turn.tree.file? (l ++ names) = turn'.tree.file? (l ++ names) := by
    intro names hout
    rw [h.file, h'.file, hagree names hout]
  have hother := (produce_congr contained hroot (h.grows.walk hl) (h'.grows.walk hl') h.wellFormed
    h'.wellFormed hentry (agrees_of_outside hvalid contained hfiles turn.entry) _).mp hproduce
  obtain ⟨rfl, rfl⟩ := Prod.mk.inj (Except.ok.inj (hproduce'.symm.trans hother))
  obtain ⟨names, hpath, -⟩ := produce_target contained hroot h.wellFormed hentry hproduce
  rw [houtput, houtput', hrecorded, hrecorded', hproduced]
  exact ⟨rfl, rfl, h.stored hl hpath hstored, h'.stored hl' hpath hstored'⟩

/-- Runs that have written the same, and whose entries all succeed, go on to write the same. -/
theorem outputs_congr {entries : List RecipeEntry}
    (hentries : ∀ entry ∈ entries, entry ∈ recipe.entries)
    (h : Overlay root l base produced tree) (h' : Overlay root l base' produced other)
    (hok : ∀ turn ∈ recipe.turns root tree produced entries, (turn.result recipe root).isOk)
    (hok' : ∀ turn ∈ recipe.turns root other produced entries,
      (turn.result recipe root).isOk) :
    (recipe.turns root other produced entries).map (·.output? recipe root) =
      (recipe.turns root tree produced entries).map (·.output? recipe root) := by
  induction entries generalizing tree other produced with
  | nil => rfl
  | cons entry rest ih =>
    obtain ⟨hentry, hrest⟩ := List.forall_mem_cons.mp hentries
    obtain ⟨hfirst, hok⟩ := List.forall_mem_cons.mp hok
    obtain ⟨hfirst', hok'⟩ := List.forall_mem_cons.mp hok'
    obtain ⟨houtput, hrecorded, hnext, hnext'⟩ :=
      output_congr hvalid contained hroot hl hl' hagree hfirst hfirst' hentry rfl rfl h h'
    rw [hrecorded] at hok'
    have hlater := ih hrest hnext hnext' hok hok'
    rw [turns, turns, List.map_cons, List.map_cons, houtput, hrecorded]
    exact congrArg _ hlater

end Lockstep

end Run

/-! ### What two runs leave -/

section Settled

variable {folder : Text} (contained : recipe.Contained) (hroot : root.text ≠ [])
  (hhead : folder ∈ recipe.info.folders.head?)

include contained hroot hhead

theorem entry?_pruneOutput_of_outside (hl : tree.walk root = .ok l) (wf : tree.WellFormed)
    (hm : ¬l ++ Path.names ⟨folder⟩ <+: m) :
    Tree.entry? (recipe.pruneOutput root tree produced) m = tree.entry? m := by
  rcases pruneOutput_cases contained hroot produced hl with
    ⟨-, hprune⟩ | ⟨folder', hhead', -, hprune⟩
  · rw [hprune]
  · obtain rfl := Option.mem_unique hhead hhead'
    rw [hprune, Tree.entry?_prune_of_not_below wf]
    rintro ⟨hlead, -⟩
    exact hm hlead

omit hhead in
/-- What leads to a file that was written is a folder to the end. -/
theorem folder_of_written (hl : base.walk root = .ok l)
    (h : Progress root l base refused produced written tree) {rest : List Name}
    (hkey : root.below (names ++ rest) ∈ written.keys) (hrest : rest ≠ []) :
    Tree.entry? (recipe.pruneOutput root tree produced) (l ++ names) = some .folder := by
  obtain ⟨text, htext⟩ := Produced.exists_lookup hkey
  have hfile := h.file?_pruneOutput contained hroot hl htext
  have wf : (recipe.pruneOutput root tree produced).WellFormed :=
    wellFormed_pruneOutput contained hroot (h.overlay.grows.walk hl) h.overlay.wellFormed
  rw [← List.append_assoc] at hfile
  exact (wf.folder_of_append (Tree.isSome_of_file? hfile)).1 hrest

variable (hl : base.walk root = .ok l) (hl' : base'.walk root = .ok l)
  (h : Progress root l base refused written written tree)
  (h' : Progress root l base' refused' written written other)

include h h'

omit contained hroot hhead in
/-- A folder that is in one tree, and in its base only if it is in the other base, is in the
other tree. -/
theorem folder_congr (hbase : base.entry? m = some .folder → base'.entry? m = some .folder)
    (hfolder : tree.entry? m = some .folder) : other.entry? m = some .folder := by
  rcases h.along m hfolder with hold | ⟨names, hkey, rest, hrest⟩
  · exact h'.overlay.grows.folder m (hbase hold)
  · obtain ⟨text, htree⟩ := h.file?_of_mem hkey
    obtain ⟨text', hother⟩ := h'.file?_of_mem hkey
    rw [← hrest] at htree hother
    apply (h'.overlay.wellFormed.folder_of_append (Tree.isSome_of_file? hother)).1
    rintro rfl
    rw [List.append_nil, Tree.file?_eq_none_of_folder hfolder] at htree
    cases htree

include hl hl'

theorem entry?_outside_congr
    (hagree : base'.entry? m = base.entry? m) (hm : ¬l ++ Path.names ⟨folder⟩ <+: m) :
    Tree.entry? (recipe.pruneOutput root other written) m =
      Tree.entry? (recipe.pruneOutput root tree written) m := by
  rw [entry?_pruneOutput_of_outside contained hroot hhead (h'.overlay.grows.walk hl')
      h'.overlay.wellFormed hm,
    entry?_pruneOutput_of_outside contained hroot hhead (h.overlay.grows.walk hl)
      h.overlay.wellFormed hm]
  apply Tree.entry?_congr
  · have hfile : base'.file? m = base.file? m := by
      rw [Tree.file?, Tree.file?, hagree]
    rw [h'.overlay.file, h.overlay.file, hfile]
  · constructor
    · exact folder_congr h' h fun hfolder => hagree ▸ hfolder
    · exact folder_congr h h' fun hfolder => hagree.symm ▸ hfolder

omit h' hl' in
/-- Below the folder for output nothing is left that leads neither to what was written nor to an
entry at a path that is too long. -/
theorem entry?_pruneOutput_eq_none (hcheck : Tree.checkPath (root.join ⟨folder⟩) = .ok ())
    (hne : names ≠ [])
    (hkeys : ∀ rest, root.below (Path.names ⟨folder⟩ ++ (names ++ rest)) ∉ written.keys)
    (hshort : ¬base.LeadsTooFar (root.join ⟨folder⟩) names) :
    Tree.entry? (recipe.pruneOutput root tree written)
      (l ++ Path.names ⟨folder⟩ ++ names) = none := by
  have hinside := inside_folder contained hroot (List.mem_of_mem_head? hhead)
  rw [← Option.not_isSome_iff_eq_none, Option.isSome_iff_exists]
  rintro ⟨e, he⟩
  obtain ⟨-, rest, e', he', hstays, -⟩ := h.exists_stays contained hroot hl hhead hcheck hne he
  have hnot := hkeys rest
  rw [List.append_assoc] at he'
  -- the entry that stays was not written, so its path is too long, and it was there before
  have hlong : ((root.join ⟨folder⟩).descend (names ++ rest)).isTooLong = true := by
    cases e' with
    | file content =>
      rw [staysIn_file_iff contained hroot hhead, Produced.isSome_lookup_iff] at hstays
      exact hstays.resolve_right hnot
    | folder => simpa using hstays
  refine hshort ⟨rest, hlong, ?_⟩
  rw [Tree.place_of_spells hinside.spells, Tree.place_of_walk hl, List.append_assoc]
  cases e' with
  | file content =>
    have hfile := Tree.file?_eq_some_iff.mpr he'
    rw [h.file?_of_not_mem hnot] at hfile
    exact Tree.isSome_of_file? hfile
  | folder =>
    rcases h.along _ he' with hbase | ⟨names', hkey, hlead⟩
    · rw [hbase]
      rfl
    · obtain ⟨further, rfl⟩ := (List.prefix_append_right_inj l).mp hlead
      rw [List.append_assoc, List.append_assoc] at hkey
      exact absurd hkey (hkeys (rest ++ further))

/-- Below the folder for output the trees are the same, where neither leads to an entry at a path
that is too long. -/
theorem entry?_below_congr (hcheck : Tree.checkPath (root.join ⟨folder⟩) = .ok ())
    (hkeys : ∃ names, root.below (Path.names ⟨folder⟩ ++ names) ∈ written.keys)
    (hshort : names ≠ [] → ¬base.LeadsTooFar (root.join ⟨folder⟩) names)
    (hshort' : names ≠ [] → ¬base'.LeadsTooFar (root.join ⟨folder⟩) names) :
    Tree.entry? (recipe.pruneOutput root other written) (l ++ Path.names ⟨folder⟩ ++ names) =
      Tree.entry? (recipe.pruneOutput root tree written) (l ++ Path.names ⟨folder⟩ ++ names) := by
  by_cases hleads : ∃ rest, root.below (Path.names ⟨folder⟩ ++ (names ++ rest)) ∈ written.keys
  · -- the names lead to a text that was written in both runs
    obtain ⟨rest, hkey⟩ := hleads
    rw [← List.append_assoc] at hkey
    by_cases hnil : rest = []
    · subst hnil
      obtain ⟨text, htext⟩ := Produced.exists_lookup (List.append_nil _ ▸ hkey)
      rw [List.append_assoc,
        Tree.file?_eq_some_iff.mp (h.file?_pruneOutput contained hroot hl htext),
        Tree.file?_eq_some_iff.mp (h'.file?_pruneOutput contained hroot hl' htext)]
    · rw [List.append_assoc, folder_of_written contained hroot hl h hkey hnil,
        folder_of_written contained hroot hl' h' hkey hnil]
  · have hnot : ∀ rest, root.below (Path.names ⟨folder⟩ ++ (names ++ rest)) ∉ written.keys :=
      fun rest hkey => hleads ⟨rest, hkey⟩
    have hne : names ≠ [] := by
      rintro rfl
      obtain ⟨rest, hkey⟩ := hkeys
      exact hnot rest hkey
    rw [entry?_pruneOutput_eq_none contained hroot hhead hl h hcheck hne hnot (hshort hne),
      entry?_pruneOutput_eq_none contained hroot hhead hl' h' hcheck hne hnot (hshort' hne)]

/-- Trees that differ only in the folder for output are the same once it was pruned, after runs that
have written the same, but for what leads to an entry there at a path that is too long. -/
theorem pruneOutput_congr (hcheck : Tree.checkPath (root.join ⟨folder⟩) = .ok ())
    (hkeys : ∃ names, root.below (Path.names ⟨folder⟩ ++ names) ∈ written.keys)
    (hhome : base'.home = base.home)
    (hagree : ∀ m, ¬l ++ Path.names ⟨folder⟩ <+: m → base'.entry? m = base.entry? m) :
    (recipe.pruneOutput root other written).home = (recipe.pruneOutput root tree written).home ∧
      ∀ m, Tree.entry? (recipe.pruneOutput root other written) m =
          Tree.entry? (recipe.pruneOutput root tree written) m ∨
        ∃ names ≠ [], m = l ++ Path.names ⟨folder⟩ ++ names ∧
          (base.LeadsTooFar (root.join ⟨folder⟩) names ∨
            base'.LeadsTooFar (root.join ⟨folder⟩) names) := by
  constructor
  · rw [home_pruneOutput contained hroot written (h'.overlay.grows.walk hl'),
      home_pruneOutput contained hroot written (h.overlay.grows.walk hl), h'.overlay.grows.home,
      h.overlay.grows.home, hhome]
  · intro m
    by_cases hlead : l ++ Path.names ⟨folder⟩ <+: m
    · obtain ⟨names, rfl⟩ := hlead
      by_cases hlong : names ≠ [] ∧ (base.LeadsTooFar (root.join ⟨folder⟩) names ∨
          base'.LeadsTooFar (root.join ⟨folder⟩) names)
      · exact .inr ⟨names, hlong.1, rfl, hlong.2⟩
      · exact .inl (entry?_below_congr contained hroot hhead hl hl' h h' hcheck hkeys
          (fun hne hfar => hlong ⟨hne, .inl hfar⟩) fun hne hfar => hlong ⟨hne, .inr hfar⟩)
    · exact .inl (entry?_outside_congr contained hroot hhead hl hl' h h' (hagree m hlead) hlead)

end Settled

/-! ### Two runs -/

theorem inOutput_of_targets
    (hinside : ∀ entry ∈ recipe.combinations, recipe.InOutput entry.target.names)
    {entry : RecipeEntry} (hentry : entry ∈ recipe.entries) (h : recipe.Targets names entry) :
    recipe.InOutput names := by
  cases entry with
  | mod entry => exact h
  | combination entry =>
    obtain rfl : entry.target.names = names := h
    exact hinside entry (mem_entries_combination.mp hentry)

/-- The path of the folder for output can be looked up where that of a file in it can. -/
theorem checkPath_folder [Digest] [Patterns] (plain : recipe.Plain) (hroot : root.text ≠ [])
    (hinside : ∀ entry ∈ recipe.combinations, recipe.InOutput entry.target.names)
    (wf : tree.WellFormed) {entry : RecipeEntry} (hentry : entry ∈ recipe.entries) {path : Path}
    {text folder : Text} (hproduce : recipe.produce root tree produced entry = .ok (path, text))
    (hhead : folder ∈ recipe.info.folders.head?) (hcheck : Tree.checkPath path = .ok ()) :
    Tree.checkPath (root.join ⟨folder⟩) = .ok () := by
  have hplain := plain.folders folder (List.mem_of_mem_head? hhead)
  apply Tree.checkPath_of_isPrefix hcheck
  · cases entry with
    | mod entry =>
      obtain ⟨folder', hhead', inner, hinner, rfl⟩ :=
        produce_mod plain.contained hroot wf (mem_entries_mod.mp hentry) hproduce
      obtain rfl := Option.mem_unique hhead hhead'
      exact Path.text_prefix_join hinner.relative
    | combination entry =>
      have hcombination := mem_entries_combination.mp hentry
      have htarget := plain.target hcombination
      obtain rfl := produce_combination hproduce
      obtain ⟨folder', hhead', hlead⟩ := hinside entry hcombination
      obtain rfl := Option.mem_unique hhead hhead'
      exact Path.join_prefix_join hplain.inner.relative htarget.inner.relative
        (hplain.text_prefix htarget hlead)
  · exact Path.text_join_ne_nil hroot

theorem entries_ne_nil [Patterns] (hvalid : recipe.issues = []) : recipe.entries ≠ [] := by
  intro hnil
  rw [entries, List.append_eq_nil_iff, List.map_eq_nil_iff, List.map_eq_nil_iff] at hnil
  rw [issues, if_pos (by simp [hnil.1, hnil.2])] at hvalid
  cases hvalid

section Whole

variable [Digest] [Patterns]

theorem result_of_apply (hok : ∀ result ∈ (recipe.apply root tree).2, result.2.isOk) :
    ∀ turn ∈ recipe.turns root tree [] recipe.entries, (turn.result recipe root).isOk := by
  intro turn hturn
  refine hok (turn.entry.id, turn.result recipe root) ?_
  rw [apply, results_runAll]
  exact List.mem_map_of_mem hturn

/-- Where all entries succeed, what a run has recorded is what it has written. -/
theorem progress_of_isOk (contained : recipe.Contained) (hroot : root.text ≠ [])
    (hl : tree.walk root = .ok l) (hfolder : tree.entry? l = some .folder) (wf : tree.WellFormed)
    (hok : ∀ result ∈ (recipe.apply root tree).2, result.2.isOk) :
    let run := recipe.runAll root tree [] recipe.entries
    let written := Produced.ofOutputs (recipe.outputs root tree)
    (recipe.apply root tree).1 = recipe.pruneOutput root run.tree written ∧
      Progress root l tree (recipe.refused root tree) written written run.tree := by
  intro run written
  have hproduced : run.produced = written := by
    rw [← List.append_nil written]
    exact produced_runAll wf (result_of_apply hok)
  have hrun : Progress root l tree (recipe.refused root tree) run.produced written run.tree :=
    progress_entries contained hroot hl hfolder wf
  rw [hproduced] at hrun
  refine ⟨?_, hrun⟩
  rw [← hproduced]
  rfl

/-- The first entry writes below the folder for output, so that its path can be looked up. -/
theorem exists_written (hvalid : recipe.issues = []) (plain : recipe.Plain)
    (hroot : root.text ≠ [])
    (hinside : ∀ entry ∈ recipe.combinations, recipe.InOutput entry.target.names)
    (wf : tree.WellFormed) (hok : ∀ result ∈ (recipe.apply root tree).2, result.2.isOk) :
    ∃ folder ∈ recipe.info.folders.head?, Tree.checkPath (root.join ⟨folder⟩) = .ok () ∧
      ∃ names, root.below (Path.names ⟨folder⟩ ++ names) ∈
        (Produced.ofOutputs (recipe.outputs root tree)).keys := by
  obtain ⟨entry, rest, hentries⟩ := List.exists_cons_of_ne_nil (entries_ne_nil hvalid)
  have hmem : entry ∈ recipe.entries := by simp [hentries]
  have hturn : (⟨entry, tree, []⟩ : Turn) ∈ recipe.turns root tree [] recipe.entries := by
    rw [hentries, turns]
    exact List.mem_cons_self
  obtain ⟨path, text, hproduce, houtput, -, hstored⟩ :=
    produce_of_result (mem_turns wf hturn).2.1 (result_of_apply hok _ hturn)
  obtain ⟨names, hpath, htargets⟩ := produce_target plain.contained hroot wf hmem hproduce
  obtain ⟨folder, hhead, names, rfl⟩ := inOutput_of_targets hinside hmem htargets
  obtain ⟨place, hplace, -⟩ := hstored.file
  refine ⟨folder, hhead, ?_, names, ?_⟩
  · exact checkPath_folder plain hroot hinside wf hmem hproduce hhead
      (Tree.locate_eq_ok_iff.mp hplace).1
  · rw [Produced.mem_keys_ofOutputs, ← hpath.components]
    exact ⟨(path, text), List.mem_map.mpr ⟨_, hturn, houtput⟩, rfl⟩

/-- Two trees that differ only in the folder for output, and in which every entry of a valid recipe
succeeds, get the same texts in the same files and are the same afterwards, but for what leads to an
entry in that folder at a path that is too long. -/
theorem apply_congr (hvalid : recipe.issues = []) (plain : recipe.Plain)
    (hinside : ∀ entry ∈ recipe.combinations, recipe.InOutput entry.target.names)
    (wf : tree.WellFormed) (wf' : other.WellFormed) (hhome : other.home = tree.home)
    (hfolder : tree.isFolder root = true) (hfolder' : other.isFolder root = true)
    (hagree : ∀ folder ∈ recipe.outputFolder? root, ∀ m, ¬tree.place folder <+: m →
      other.entry? m = tree.entry? m)
    (hok : ∀ result ∈ (recipe.apply root tree).2, result.2.isOk)
    (hok' : ∀ result ∈ (recipe.apply root other).2, result.2.isOk) :
    let after := (recipe.apply root tree).1
    let after' := (recipe.apply root other).1
    recipe.outputs root other = recipe.outputs root tree ∧ after'.home = after.home ∧
      ∀ m, after'.entry? m = after.entry? m ∨
        ∃ folder ∈ recipe.outputFolder? root, ∃ names ≠ [], m = tree.place folder ++ names ∧
          (tree.LeadsTooFar folder names ∨ other.LeadsTooFar folder names) := by
  have contained := plain.contained
  have hroot := text_ne_nil_of_isFolder hfolder
  obtain ⟨l, hlocate, hentry⟩ := Tree.isFolder_iff.mp hfolder
  obtain ⟨l', hlocate', hentry'⟩ := Tree.isFolder_iff.mp hfolder'
  have hl := (Tree.locate_eq_ok_iff.mp hlocate).2
  have hl' := (Tree.locate_eq_ok_iff.mp hlocate').2
  obtain rfl := Tree.walk_unique hhome hl hl'
  obtain ⟨folder, hhead, hcheck, hkey⟩ := exists_written hvalid plain hroot hinside wf hok
  have houtput : root.join ⟨folder⟩ ∈ recipe.outputFolder? root :=
    Option.map_eq_some_iff.mpr ⟨folder, hhead, rfl⟩
  have hplace : tree.place (root.join ⟨folder⟩) = l' ++ Path.names ⟨folder⟩ := by
    rw [Tree.place_join root (contained.folders folder (List.mem_of_mem_head? hhead)),
      Tree.place_of_walk hl]
  have houtside : ∀ m, ¬l' ++ Path.names ⟨folder⟩ <+: m → other.entry? m = tree.entry? m :=
    fun m hm => hagree (root.join ⟨folder⟩) houtput m (by rwa [hplace])
  have hfiles : ∀ names, ¬recipe.InOutput names →
      other.file? (l' ++ names) = tree.file? (l' ++ names) := by
    intro names hout
    unfold Tree.file?
    rw [houtside]
    intro hlead
    exact hout ⟨folder, hhead, (List.prefix_append_right_inj l').mp hlead⟩
  have houtputs : recipe.outputs root other = recipe.outputs root tree :=
    outputs_congr hvalid contained hroot hl hl' hfiles (fun _ h => h) (.refl wf) (.refl wf')
      (result_of_apply hok) (result_of_apply hok')
  obtain ⟨hafter, hrun⟩ := progress_of_isOk contained hroot hl hentry wf hok
  obtain ⟨hafter', hrun'⟩ := progress_of_isOk contained hroot hl' hentry' wf' hok'
  rw [houtputs] at hafter' hrun'
  rw [hafter, hafter']
  obtain ⟨hhome', hentries⟩ :=
    pruneOutput_congr contained hroot hhead hl hl' hrun hrun' hcheck hkey hhome houtside
  refine ⟨houtputs, hhome', fun m => (hentries m).imp_right ?_⟩
  rw [← hplace]
  rintro ⟨names, hne, hm, hfar⟩
  exact ⟨_, houtput, names, hne, hm, hfar⟩

omit [Digest] [Patterns] in
/-- What an earlier run left, and what else is in the folder for output, makes no difference. -/
theorem apply_congr_of_stale_output :
    let _ := Digest.multiplicative
    let _ := Patterns.leftmostFirst
    let recipe : Recipe :=
      { info := { folders := ["out".toList, "core".toList] }
        mods := [{ id := ['m'], component := some "card".toList,
                   steps := [.findFirst, .setAttribute ['a'] ['1']] }]
        combinations := [{ id := ['c'], source := "out/Card.vue".toList,
                           override := "b.vue".toList }] }
    let root : Path := ⟨"/shop".toList⟩
    let tree : Tree := ⟨[], [(["shop".toList], .folder), (["shop".toList, "core".toList], .folder),
      (["shop".toList, "core".toList, "Card.vue".toList],
        .file (.text "<template><p></p></template>".toList)),
      (["shop".toList, "b.vue".toList], .file (.text "<style>.b{}</style>".toList))]⟩
    let stale : List (Location × Entry) := [(["shop".toList, "out".toList], .folder),
      (["shop".toList, "out".toList, "Card.vue".toList], .file (.text "edited".toList)),
      (["shop".toList, "out".toList, "Old.vue".toList], .file (.text "old".toList)),
      (["shop".toList, "out".toList, "empty".toList], .folder)]
    let other : Tree := ⟨[], stale ++ tree.entries⟩
    let after := (recipe.apply root tree).1
    let after' := (recipe.apply root other).1
    recipe.outputs root other = recipe.outputs root tree ∧ after'.home = after.home ∧
      ∀ m, after'.entry? m = after.entry? m := by
  intro digest patterns recipe root tree stale other
  have hvalid : recipe.issues = [] := by decide +kernel
  have hagree : ∀ folder ∈ recipe.outputFolder? root, ∀ m, ¬tree.place folder <+: m →
      other.entry? m = tree.entry? m := by
    intro folder hfolder m hm
    obtain rfl : ⟨"/shop/out".toList⟩ = folder := Option.some.inj hfolder
    exact Tree.entry?_append_of_below (by decide +kernel) hm
  have hok : (recipe.apply root tree).2.all (·.2.isOk) = true := by decide +kernel
  have hok' : (recipe.apply root other).2.all (·.2.isOk) = true := by decide +kernel
  rw [List.all_eq_true] at hok hok'
  obtain ⟨houtputs, hhome, hentries⟩ :=
    apply_congr hvalid (by decide +kernel) (by decide +kernel)
      (show tree.WellFormed by decide +kernel) (show other.WellFormed by decide +kernel) rfl
      (by decide +kernel) (by decide +kernel) hagree hok hok'
  refine ⟨houtputs, hhome, fun m => (hentries m).resolve_right ?_⟩
  rintro ⟨folder, hfolder, names, hne, -, hfar⟩
  obtain rfl : ⟨"/shop/out".toList⟩ = folder := Option.some.inj hfolder
  have hshort : ¬tree.LeadsTooFar ⟨"/shop/out".toList⟩ names :=
    Tree.not_leadsTooFar hne (by decide +kernel)
  have hshort' : ¬other.LeadsTooFar ⟨"/shop/out".toList⟩ names :=
    Tree.not_leadsTooFar hne (by decide +kernel)
  exact hfar.elim hshort hshort'

omit [Digest] [Patterns] in
/-- A file at a path that is too long is left in the folder for output, so that the tree that had
none there differs from the one that had. -/
theorem not_apply_congr_of_long_path :
    let _ := Digest.multiplicative
    let _ := Patterns.leftmostFirst
    ¬∀ (recipe : Recipe) (root : Path) (tree other : Tree), recipe.issues = [] → recipe.Plain →
      (∀ entry ∈ recipe.combinations, recipe.InOutput entry.target.names) →
      tree.WellFormed → other.WellFormed → other.home = tree.home →
      tree.isFolder root = true → other.isFolder root = true →
      (∀ folder ∈ recipe.outputFolder? root, ∀ m, ¬tree.place folder <+: m →
        other.entry? m = tree.entry? m) →
      (∀ result ∈ (recipe.apply root tree).2, result.2.isOk) →
      (∀ result ∈ (recipe.apply root other).2, result.2.isOk) →
      ∀ m, Tree.entry? (recipe.apply root other).1 m =
        Tree.entry? (recipe.apply root tree).1 m := by
  intro digest patterns hall
  let recipe : Recipe :=
    { info := { folders := ["out".toList, "core".toList] }
      combinations := [{ id := ['c'], source := "a.vue".toList, override := "b.vue".toList,
                         output := some "out/c.vue".toList }] }
  let root : Path := ⟨"/shop".toList⟩
  let tree : Tree := ⟨[], [(["shop".toList], .folder),
    (["shop".toList, "a.vue".toList], .file (.text "<style>.a{}</style>".toList)),
    (["shop".toList, "b.vue".toList], .file (.text "<style>.b{}</style>".toList))]⟩
  let output : Location := ["shop".toList, "out".toList]
  let name : Name := List.replicate 255 'd'
  let stale : List (Location × Entry) :=
    (List.range 16).map (fun depth => (output ++ List.replicate depth name, .folder)) ++
      [(output ++ List.replicate 16 name, .file (.text "old".toList))]
  let other : Tree := ⟨[], stale ++ tree.entries⟩
  have hagree : ∀ folder ∈ recipe.outputFolder? root, ∀ m, ¬tree.place folder <+: m →
      other.entry? m = tree.entry? m := by
    intro folder hfolder m hm
    obtain rfl : ⟨"/shop/out".toList⟩ = folder := Option.some.inj hfolder
    exact Tree.entry?_append_of_below (by decide +kernel) hm
  have hok : (recipe.apply root tree).2.all (·.2.isOk) = true := by decide +kernel
  have hok' : (recipe.apply root other).2.all (·.2.isOk) = true := by decide +kernel
  rw [List.all_eq_true] at hok hok'
  have hsame := hall recipe root tree other (by decide +kernel) (by decide +kernel)
    (by decide +kernel) (by decide +kernel) (by decide +kernel) rfl (by decide +kernel)
    (by decide +kernel) hagree hok hok' (output ++ List.replicate 16 name)
  have hgone : Tree.entry? (recipe.apply root tree).1 (output ++ List.replicate 16 name) =
      none := by
    decide +kernel
  have hleft : Tree.entry? (recipe.apply root other).1 (output ++ List.replicate 16 name) =
      some (.file (.text "old".toList)) := by
    decide +kernel
  rw [hgone, hleft] at hsame
  cases hsame

end Whole

end Recipe

end Graft
