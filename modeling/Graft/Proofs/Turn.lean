import Graft.Proofs.Commit
import Mathlib.Data.List.ReduceOption

/-! The turns of a run: what each entry finds, what it writes, and what it leaves to the next. The
texts that were written lie over the tree that the run starts from; a text that was planned and
could not be written leaves folders at most, and there is no file at its place but one that was
there before. -/

namespace Graft

open Text

/-- The file that an entry was written to. -/
def Written.file : Written → Path
  | .applied file => file
  | .unchanged file => file

namespace Produced

variable {produced : Produced} {key key' : List Component} {text : Text}

/-- The files that texts were produced for. -/
def keys (produced : Produced) : List (List Component) := produced.map (·.1)

@[simp] theorem mem_keys_cons :
    key ∈ Produced.keys ((key', text) :: produced) ↔ key = key' ∨ key ∈ produced.keys := by
  simp [keys]

theorem isSome_lookup_iff : (produced.lookup key).isSome ↔ key ∈ produced.keys := by
  rw [List.lookup_isSome_iff]
  simp only [keys, List.mem_map, beq_iff_eq]
  exact exists_congr fun x => and_congr_right fun _ => eq_comm

theorem exists_lookup (h : key ∈ produced.keys) : ∃ text, produced.lookup key = some text :=
  Option.isSome_iff_exists.mp (isSome_lookup_iff.mpr h)

theorem lookup_eq_none_iff : produced.lookup key = none ↔ key ∉ produced.keys := by
  rw [← isSome_lookup_iff, Option.not_isSome_iff_eq_none]

/-- The texts of outputs, the latest first. -/
def ofOutputs (outputs : List (Option (Path × Text))) : Produced :=
  (outputs.reduceOption.map fun out => (out.1.components, out.2)).reverse

theorem ofOutputs_append (front back : List (Option (Path × Text))) :
    ofOutputs (front ++ back) = ofOutputs back ++ ofOutputs front := by
  simp [ofOutputs, List.reduceOption_append]

theorem ofOutputs_cons (out : Option (Path × Text)) (outputs : List (Option (Path × Text))) :
    ofOutputs (out :: outputs) = ofOutputs outputs ++ ofOutputs [out] :=
  ofOutputs_append [out] outputs

theorem mem_keys_ofOutputs {outputs : List (Option (Path × Text))} :
    key ∈ keys (ofOutputs outputs) ↔ ∃ out, some out ∈ outputs ∧ out.1.components = key := by
  simp [keys, ofOutputs, List.reduceOption_mem_iff]

theorem lookup_ofOutputs {front back : List (Option (Path × Text))} {path : Path}
    (h : ∀ out, some out ∈ back → out.1.components ≠ path.components) :
    (ofOutputs (front ++ some (path, text) :: back)).lookup path.components = some text := by
  have hback : (ofOutputs back).lookup path.components = none := by
    rw [lookup_eq_none_iff, mem_keys_ofOutputs]
    rintro ⟨out, hout, heq⟩
    exact h out hout heq
  rw [ofOutputs_append, ofOutputs_cons, List.append_assoc, List.lookup_append, hback]
  exact congrArg _ List.lookup_cons_self

end Produced

/-- One entry's turn in a run: the entry, and the tree and the texts that it finds. -/
structure Turn where
  entry : RecipeEntry
  tree : Tree
  produced : Produced

namespace Turn

variable [Digest] [Patterns] (recipe : Recipe) (root : Path) (turn : Turn)

def planned : Except EntryError Plan := recipe.plan root turn.tree turn.produced turn.entry

/-- The tree that is left to the next entry. -/
def after : Tree := (Recipe.commitPlanned turn.tree (turn.planned recipe root)).1

def result : Except EntryError Written :=
  (Recipe.commitPlanned turn.tree (turn.planned recipe root)).2

/-- The texts that are left to the next entry. -/
def recorded : Produced := Recipe.record turn.produced (turn.planned recipe root)

/-- The file and the text of an entry that succeeded. -/
def output? : Option (Path × Text) :=
  match turn.planned recipe root, turn.result recipe root with
  | .ok plan, .ok _ => some (plan.file, plan.after)
  | _, _ => none

/-- The file and the text of an entry that was planned and not written, since the path of the
temporary file is too long. -/
def refused? : Option (Path × Text) :=
  match turn.planned recipe root, turn.result recipe root with
  | .ok plan, .error (.write (.temporaryTooLong _)) => some (plan.file, plan.after)
  | _, _ => none

variable {recipe root turn}

/-- What can become of an entry: it fails before anything is recorded, its text is recorded and
cannot be written, or it is written. -/
inductive Outcome (recipe : Recipe) (root : Path) (turn : Turn) : Prop
  | failed (e : EntryError) (planned : turn.planned recipe root = .error e)
      (result : turn.result recipe root = .error e) (output : turn.output? recipe root = none)
      (after : turn.after recipe root = turn.tree)
      (recorded : turn.recorded recipe root = turn.produced)
  | refused (plan : Plan) (planned : turn.planned recipe root = .ok plan)
      (result : ∃ e, turn.result recipe root = .error e)
      (output : turn.output? recipe root = none)
      (missed : turn.tree.readIfAny plan.file = .ok none ∨
        turn.tree.hasRoom plan.file = false ∧
          turn.refused? recipe root = some (plan.file, plan.after))
      (after : turn.tree.AddsFolders (turn.after recipe root))
      (recorded : turn.recorded recipe root = (plan.file.components, plan.after) :: turn.produced)
  | written (plan : Plan) (planned : turn.planned recipe root = .ok plan)
      (result : ∃ written, turn.result recipe root = .ok written ∧ written.file = plan.file)
      (output : turn.output? recipe root = some (plan.file, plan.after))
      (after : turn.tree.Stored plan.file plan.after (turn.after recipe root))
      (recorded : turn.recorded recipe root = (plan.file.components, plan.after) :: turn.produced)

/-- A plan is what the entry makes, with what is found at its file. -/
theorem planned_eq_ok_iff {plan : Plan} : turn.planned recipe root = .ok plan ↔
    recipe.produce root turn.tree turn.produced turn.entry = .ok (plan.file, plan.after) ∧
      turn.tree.readIfAny plan.file = .ok plan.before := by
  rw [planned, Recipe.plan_eq, bind_eq_ok_iff]
  constructor
  · rintro ⟨⟨path, text⟩, hproduce, hplan⟩
    obtain ⟨before, hbefore, rfl⟩ := Recipe.planWrite_eq_ok_iff.mp hplan
    exact ⟨hproduce, hbefore⟩
  · rintro ⟨hproduce, hbefore⟩
    exact ⟨_, hproduce, Recipe.planWrite_eq_ok_iff.mpr ⟨_, hbefore, rfl⟩⟩

theorem commit_of_planned {plan : Plan} (h : turn.planned recipe root = .ok plan) :
    Recipe.commit turn.tree plan = (turn.after recipe root, turn.result recipe root) := by
  rw [after, result, h]
  rfl

theorem of_error {e : EntryError} (h : turn.planned recipe root = .error e) :
    turn.result recipe root = .error e ∧ turn.output? recipe root = none ∧
      turn.after recipe root = turn.tree ∧ turn.recorded recipe root = turn.produced := by
  rw [result, output?, after, recorded, h]
  exact ⟨rfl, rfl, rfl, rfl⟩

theorem recorded_of_planned {plan : Plan} (h : turn.planned recipe root = .ok plan) :
    turn.recorded recipe root = (plan.file.components, plan.after) :: turn.produced := by
  rw [recorded, h]
  rfl

theorem output_of_result {plan : Plan} (h : turn.planned recipe root = .ok plan)
    {written : Written} (hok : turn.result recipe root = .ok written) :
    turn.output? recipe root = some (plan.file, plan.after) := by
  rw [output?, h, hok]

theorem outcome (recipe : Recipe) (root : Path) (wf : turn.tree.WellFormed) :
    turn.Outcome recipe root := by
  cases hplan : turn.planned recipe root with
  | error e =>
    obtain ⟨hresult, houtput, hafter, hrecord⟩ := of_error hplan
    exact .failed e hplan hresult houtput hafter hrecord
  | ok plan =>
    have hbefore := (planned_eq_ok_iff.mp hplan).2
    have hcommit := commit_of_planned hplan
    have hrecord := recorded_of_planned hplan
    cases hresult : turn.result recipe root with
    | error e =>
      rw [hresult] at hcommit
      obtain ⟨hadds, hmissed⟩ := Recipe.commit_eq_error wf hbefore hcommit
      refine .refused plan hplan ⟨e, hresult⟩ (by rw [output?, hplan, hresult])
        (hmissed.imp_right fun ⟨hroom, temporary, herror⟩ => ⟨hroom, ?_⟩) hadds hrecord
      rw [refused?, hplan, hresult, herror]
    | ok written =>
      rw [hresult] at hcommit
      have hfile : written.file = plan.file := by
        rw [Recipe.written_of_commit hcommit]
        split <;> rfl
      exact .written plan hplan ⟨written, hresult, hfile⟩ (output_of_result hplan hresult)
        (Recipe.stored_of_commit (Recipe.planWrite_eq_ok_iff.mpr ⟨_, hbefore, rfl⟩) hcommit)
        hrecord

theorem planned_of_output {out : Path × Text} (h : turn.output? recipe root = some out) :
    ∃ plan, turn.planned recipe root = .ok plan ∧ out = (plan.file, plan.after) := by
  unfold output? at h
  split at h
  · next plan _ hplan _ => exact ⟨plan, hplan, (Option.some.inj h).symm⟩
  · cases h

theorem file_result (wf : turn.tree.WellFormed) :
    (turn.result recipe root).toOption.map Written.file =
      (turn.output? recipe root).map Prod.fst := by
  cases outcome recipe root wf with
  | failed e _ result output _ _ =>
    rw [result, output]
    rfl
  | refused plan _ result output _ _ _ =>
    obtain ⟨e, he⟩ := result
    rw [he, output]
    rfl
  | written plan _ result output _ _ =>
    obtain ⟨written, hwritten, hfile⟩ := result
    rw [hwritten, output]
    exact congrArg some hfile

/-- What an entry leaves keeps what it finds. -/
theorem grows (recipe : Recipe) (root : Path) (wf : turn.tree.WellFormed) :
    Tree.Grows turn.tree (turn.after recipe root) ∧ (turn.after recipe root).WellFormed := by
  cases outcome recipe root wf with
  | failed e _ _ _ after _ =>
    rw [after]
    exact ⟨.refl _, wf⟩
  | refused plan _ _ _ _ after _ => exact ⟨after.grows, after.wellFormed wf⟩
  | written plan _ _ _ after _ => exact ⟨after.grows, after.wellFormed wf⟩

end Turn

namespace Recipe

variable [Digest] [Patterns] {recipe : Recipe} {root : Path} {tree : Tree} {produced : Produced}
  {entries : List RecipeEntry}

/-- The turns of entries that are run one after the other. -/
def turns (recipe : Recipe) (root : Path) : Tree → Produced → List RecipeEntry → List Turn
  | _, _, [] => []
  | tree, produced, entry :: rest =>
    let turn : Turn := ⟨entry, tree, produced⟩
    turn :: recipe.turns root (turn.after recipe root) (turn.recorded recipe root) rest

/-- The files and texts of the entries that succeed in a run of a recipe, one for each entry. -/
def outputs (recipe : Recipe) (root : Path) (tree : Tree) : List (Option (Path × Text)) :=
  (recipe.turns root tree [] recipe.entries).map (·.output? recipe root)

/-- The files and texts that were planned in a run of a recipe and not written, since the path of
the temporary file is too long. -/
def refused (recipe : Recipe) (root : Path) (tree : Tree) : List (Path × Text) :=
  (recipe.turns root tree [] recipe.entries).filterMap (·.refused? recipe root)

theorem results_runAll : (recipe.runAll root tree produced entries).results =
    (recipe.turns root tree produced entries).map fun turn =>
      (turn.entry.id, turn.result recipe root) := by
  induction entries generalizing tree produced with
  | nil => rfl
  | cons entry rest ih =>
    rw [runAll_cons rfl rfl, turns, List.map_cons, ← ih]
    rfl

theorem results_apply : (recipe.apply root tree).2 =
    (recipe.turns root tree [] recipe.entries).map fun turn =>
      (turn.entry.id, turn.result recipe root) :=
  results_runAll

theorem mem_turns (wf : tree.WellFormed) {turn : Turn}
    (h : turn ∈ recipe.turns root tree produced entries) :
    turn.entry ∈ entries ∧ turn.tree.WellFormed ∧ Tree.Grows tree turn.tree := by
  induction entries generalizing tree produced with
  | nil => cases h
  | cons entry rest ih =>
    rcases List.mem_cons.mp h with rfl | h
    · exact ⟨List.mem_cons_self, wf, .refl tree⟩
    · have hturn : Turn.tree ⟨entry, tree, produced⟩ = tree := rfl
      obtain ⟨hgrows, hwf⟩ := Turn.grows recipe root (hturn ▸ wf)
      obtain ⟨hentry, hwf', hgrows'⟩ := ih hwf h
      exact ⟨List.mem_cons_of_mem entry hentry, hwf', hgrows.trans hgrows'⟩

theorem reports_apply (wf : tree.WellFormed) :
    (recipe.apply root tree).2.map (fun result => (result.1, result.2.toOption.map Written.file)) =
      (recipe.turns root tree [] recipe.entries).map fun turn =>
        (turn.entry.id, (turn.output? recipe root).map Prod.fst) := by
  rw [apply, results_runAll, List.map_map]
  apply List.map_congr_left
  intro turn hturn
  exact congrArg _ (Turn.file_result (mem_turns wf hturn).2.1)

/-- The files that a run reports are those of its outputs. -/
theorem files_apply (wf : tree.WellFormed) :
    (recipe.apply root tree).2.map (fun result => result.2.toOption.map Written.file) =
      (recipe.outputs root tree).map (·.map Prod.fst) := by
  calc (recipe.apply root tree).2.map (fun result => result.2.toOption.map Written.file)
    _ = ((recipe.apply root tree).2.map fun result =>
          (result.1, result.2.toOption.map Written.file)).map Prod.snd := by
      rw [List.map_map]
      rfl
    _ = (recipe.outputs root tree).map (·.map Prod.fst) := by
      rw [reports_apply wf, outputs, List.map_map, List.map_map]
      rfl

/-! ### What a run has left so far -/

/-- A tree in a run: what was written lies over the tree that the run started from, each folder that
was made leads to a file that was planned, and where a file could not be written there is none, or
there was no room for the temporary file. -/
structure Progress (root : Path) (l : Location) (base : Tree) (refused : List (Path × Text))
    (produced written : Produced) (tree : Tree) : Prop where
  overlay : Overlay root l base written tree
  along : ∀ m, tree.entry? m = some .folder → base.entry? m = some .folder ∨
    ∃ names, root.below names ∈ produced.keys ∧ m <+: l ++ names
  recorded : written.keys ⊆ produced.keys
  missed : ∀ names, root.below names ∈ produced.keys → root.below names ∉ written.keys →
    base.file? (l ++ names) = none ∨ ∃ out ∈ refused, out.1.components = root.below names

variable {l : Location} {base : Tree} {refused : List (Path × Text)} {written : Produced}

omit [Digest] [Patterns] in
theorem Progress.refl (wf : tree.WellFormed) : Progress root l tree refused [] [] tree :=
  ⟨.refl wf, fun _ h => .inl h, List.Subset.refl [], fun names h => by simp [Produced.keys] at h⟩

omit [Digest] [Patterns] in
theorem Progress.file?_of_mem {names : List Name}
    (h : Progress root l base refused produced written tree)
    (hkey : root.below names ∈ written.keys) :
    ∃ text, tree.file? (l ++ names) = some (.text text) := by
  obtain ⟨text, htext⟩ := Produced.exists_lookup hkey
  exact ⟨text, by rw [h.overlay.file, at?_append, htext]; rfl⟩

omit [Digest] [Patterns] in
theorem Progress.file?_of_not_mem {names : List Name}
    (h : Progress root l base refused produced written tree)
    (hkey : root.below names ∉ written.keys) :
    tree.file? (l ++ names) = base.file? (l ++ names) :=
  h.overlay.file?_of_lookup names (Produced.lookup_eq_none_iff.mpr hkey)

section Progress

variable (contained : recipe.Contained) (hroot : root.text ≠ []) (hl : base.walk root = .ok l)
  (hfolder : base.entry? l = some .folder)

include contained hroot

theorem inside_of_planned {turn : Turn} (hentry : turn.entry ∈ recipe.entries)
    (wf : turn.tree.WellFormed) {plan : Plan} (h : turn.planned recipe root = .ok plan) :
    ∃ names, Path.Inside root plan.file names ∧ recipe.Targets names turn.entry :=
  produce_target contained hroot wf hentry (Turn.planned_eq_ok_iff.mp h).1

theorem inside_of_output (wf : tree.WellFormed) {out : Path × Text}
    (h : some out ∈ recipe.outputs root tree) : ∃ names, Path.Inside root out.1 names := by
  obtain ⟨turn, hturn, hout⟩ := List.mem_map.mp h
  obtain ⟨hentry, hwf, -⟩ := mem_turns wf hturn
  obtain ⟨plan, hplan, rfl⟩ := Turn.planned_of_output hout
  obtain ⟨names, hpath, -⟩ := inside_of_planned contained hroot hentry hwf hplan
  exact ⟨names, hpath⟩

include hl hfolder

/-- A commit, whatever becomes of it, makes folders that lead to the file of its plan. -/
theorem Progress.along_of_planned (turn : Turn) (hentry : turn.entry ∈ recipe.entries)
    (h : Progress root l base refused turn.produced written turn.tree) {plan : Plan}
    (hplan : turn.planned recipe root = .ok plan) (m : Location)
    (hm : Tree.entry? (turn.after recipe root) m = some .folder) :
    base.entry? m = some .folder ∨
      ∃ names, root.below names ∈ (turn.recorded recipe root).keys ∧ m <+: l ++ names := by
  have wf := h.overlay.wellFormed
  have hwalk := h.overlay.grows.walk hl
  have hat := h.overlay.grows.folder l hfolder
  obtain ⟨names, hpath, -⟩ := inside_of_planned contained hroot hentry wf hplan
  have hne := ne_nil_of_readIfAny hroot hpath.spells hwalk wf hat
    (Turn.planned_eq_ok_iff.mp hplan).2
  rw [Turn.recorded_of_planned hplan]
  rcases folder_of_commit hroot hpath.spells hwalk hat hne rfl (Turn.commit_of_planned hplan) hm
    with hold | hlead
  · rcases h.along m hold with hbase | ⟨names', hkey, hlead⟩
    · exact .inl hbase
    · exact .inr ⟨names', by simp [hkey], hlead⟩
  · exact .inr ⟨names, by simp [hpath.components], hlead⟩

/-- Each turn keeps to what was said of a run. -/
theorem Progress.turn (turn : Turn) (hentry : turn.entry ∈ recipe.entries)
    (hrefused : ∀ out ∈ turn.refused? recipe root, out ∈ refused)
    (h : Progress root l base refused turn.produced written turn.tree) :
    Progress root l base refused (turn.recorded recipe root)
      (Produced.ofOutputs [turn.output? recipe root] ++ written) (turn.after recipe root) := by
  have wf := h.overlay.wellFormed
  have hwalk := h.overlay.grows.walk hl
  cases Turn.outcome recipe root wf with
  | failed e _ _ output after recorded =>
    rw [output, after, recorded]
    exact h
  | refused plan planned _ output missed after recorded =>
    obtain ⟨names, hpath, -⟩ := inside_of_planned contained hroot hentry wf planned
    have halong := h.along_of_planned contained hroot hl hfolder turn hentry planned
    rw [recorded] at halong ⊢
    rw [output]
    refine ⟨⟨h.overlay.grows.trans after.grows, after.wellFormed wf, fun m => ?_⟩, halong, ?_, ?_⟩
    · rw [after.file?]
      exact h.overlay.file m
    · intro key hkey
      exact Produced.mem_keys_cons.mpr (.inr (h.recorded hkey))
    · intro names' hkey hnot
      rcases Produced.mem_keys_cons.mp hkey with heq | hkey
      · obtain rfl := Path.below_inj.mp (heq.trans hpath.components)
        refine missed.imp (fun hnone => ?_) fun ⟨_, hmem⟩ => ⟨_, hrefused _ hmem, heq.symm⟩
        obtain ⟨-, hfree⟩ := Tree.free_of_readIfAny hpath.spells hwalk hroot wf hnone
        rw [← h.file?_of_not_mem hnot]
        exact hfree.file names' List.prefix_rfl
      · exact h.missed names' hkey hnot
  | written plan planned _ output after recorded =>
    obtain ⟨names, hpath, -⟩ := inside_of_planned contained hroot hentry wf planned
    have halong := h.along_of_planned contained hroot hl hfolder turn hentry planned
    rw [recorded] at halong ⊢
    rw [output]
    refine ⟨h.overlay.stored hl hpath after, halong, ?_, ?_⟩
    · intro key hkey
      rcases Produced.mem_keys_cons.mp hkey with heq | hkey
      · exact Produced.mem_keys_cons.mpr (.inl heq)
      · exact Produced.mem_keys_cons.mpr (.inr (h.recorded hkey))
    · intro names' hkey hnot
      have hnot : root.below names' ∉
          Produced.keys ((plan.file.components, plan.after) :: written) := hnot
      rw [Produced.mem_keys_cons, not_or] at hnot
      exact h.missed names' ((Produced.mem_keys_cons.mp hkey).resolve_left hnot.1) hnot.2

/-- What holds of a run so far holds of it to its end. -/
theorem Progress.runAll (hentries : ∀ entry ∈ entries, entry ∈ recipe.entries)
    (hrefused : ∀ out ∈ (recipe.turns root tree produced entries).filterMap
      (·.refused? recipe root), out ∈ refused)
    (h : Progress root l base refused produced written tree) :
    Progress root l base refused (recipe.runAll root tree produced entries).produced
      (Produced.ofOutputs ((recipe.turns root tree produced entries).map
        (·.output? recipe root)) ++ written)
      (recipe.runAll root tree produced entries).tree := by
  induction entries generalizing tree produced written with
  | nil => exact h
  | cons entry rest ih =>
    obtain ⟨hentry, hrest⟩ := List.forall_mem_cons.mp hentries
    rw [turns] at hrefused
    simp only [List.mem_filterMap, List.mem_cons] at hrefused ih
    have hrun := ih hrest (fun out ⟨turn, hturn, hout⟩ => hrefused out ⟨turn, .inr hturn, hout⟩)
      (Progress.turn contained hroot hl hfolder ⟨entry, tree, produced⟩ hentry
        (fun out hout => hrefused out ⟨_, .inl rfl, hout⟩) h)
    rw [turns, List.map_cons, Produced.ofOutputs_cons, List.append_assoc, runAll_cons rfl rfl]
    exact hrun

/-- A run of a whole recipe, before anything is removed. -/
theorem progress_entries (wf : base.WellFormed) :
    let run := recipe.runAll root base [] recipe.entries
    Progress root l base (recipe.refused root base) run.produced
      (.ofOutputs (recipe.outputs root base)) run.tree := by
  have hrun := Progress.runAll contained hroot hl hfolder (fun _ h => h) (fun _ h => h) (.refl wf)
  rw [List.append_nil] at hrun
  exact hrun

end Progress

end Recipe

end Graft
