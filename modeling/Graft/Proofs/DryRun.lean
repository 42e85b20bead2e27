import Graft.Proofs.Rebuild
import Graft.Proofs.Turn

/-! A dry run goes in step with a run: it plans over the tree that the run starts from what the run
plans over the tree that it has reached. The two can part only where a file cannot be written. -/

namespace Graft

open Text

namespace Tree

variable {tree other : Tree} {root p : Path} {l : Location} {names : List Name}

theorem entry?_startOf (h : tree.walk p = .ok l) : tree.entry? (tree.startOf p) = some .folder := by
  obtain ⟨first, rest, hpieces⟩ := List.exists_cons_of_ne_nil p.pieces_ne_nil
  rw [walk, hpieces] at h
  obtain ⟨next, hnext, -⟩ := foldlM_enter_cons.mp h
  exact (enter_eq_ok_iff.mp hnext).1

/-- A file that is missed in a tree that has grown was missed before. -/
theorem Grows.readIfAny_eq_none (h : Grows tree other) (wf : tree.WellFormed)
    (hp : Path.Spells root p names) (hroot : root.text ≠ []) (hl : tree.walk root = .ok l)
    (hnone : other.readIfAny p = .ok none) : tree.readIfAny p = .ok none := by
  rw [readIfAny_eq_none_iff, locate_eq_notFound_iff (hp.text_ne_nil hroot)] at hnone ⊢
  obtain ⟨hcheck, hmiss⟩ := hnone
  have hstart : other.startOf p = tree.startOf p := by
    rw [startOf, startOf, h.home]
  have hfolder : tree.startOf p = tree.startOf root := by
    rw [startOf, startOf, hp.isAbsolute]
  rw [Tree.walk, hstart] at hmiss
  refine ⟨hcheck, h.foldlM_enter_notFound wf ?_ hmiss⟩
  rw [hfolder, entry?_startOf hl]
  rfl

/-- A path that is looked up without a fault is one that can be looked up. -/
theorem checkPath_of_readIfAny {before : Option Text} (hp : p.text ≠ [])
    (h : tree.readIfAny p = .ok before) : checkPath p = .ok () := by
  cases before with
  | none => exact ((locate_eq_notFound_iff hp).mp (readIfAny_eq_none_iff.mp h)).1
  | some t =>
    obtain ⟨m, hm, -⟩ := read_eq_ok_iff.mp (Recipe.readIfAny_eq_some_iff.mp h)
    exact (locate_eq_ok_iff.mp hm).1

/-- The place of a file whose path spells its names. -/
theorem file?_of_readIfAny {t : Text} (hp : Path.Spells root p names) (hl : tree.walk root = .ok l)
    (h : tree.readIfAny p = .ok (some t)) : tree.locate p = .ok (l ++ names) ∧
      tree.file? (l ++ names) = some (.text t) := by
  obtain ⟨m, hm, hfile⟩ := read_eq_ok_iff.mp (Recipe.readIfAny_eq_some_iff.mp h)
  have hplace := place_of_locate hm
  rw [place_of_spells hp, place_of_walk hl] at hplace
  rw [hplace]
  exact ⟨hm, hfile⟩

end Tree

namespace Recipe

variable {recipe : Recipe} {root : Path} {l : Location} {base tree : Tree} {produced : Produced}
  {plans : List Plan} {done rest : List RecipeEntry} {entry : RecipeEntry} {names : List Name}

/-- No file of a list of plans lies below the file of another. -/
def Apart (plans : List Plan) : Prop :=
  ∀ plan ∈ plans, ∀ other ∈ plans, plan.file.startsWith other.file = true →
    plan.file.same other.file = true

instance (plans : List Plan) : Decidable (Apart plans) :=
  inferInstanceAs (Decidable (∀ plan ∈ plans, ∀ other ∈ plans, _ → _))

theorem Apart.eq (h : Apart plans) {plan other : Plan} (hplan : plan ∈ plans)
    (hother : other ∈ plans) (hlead : other.file.components <+: plan.file.components) :
    plan.file.components = other.file.components := by
  have hsame := h plan hplan other hother (List.isPrefixOf_iff_prefix.mpr hlead)
  simpa [Path.same] using hsame

/-! ### The mods come first -/

theorem pairwise_entries : recipe.entries.Pairwise fun entry later =>
    later.combination? = none → entry.combination? = none := by
  rw [entries, List.pairwise_append, List.pairwise_map, List.pairwise_map]
  refine ⟨List.pairwise_of_forall fun _ _ _ => rfl, List.pairwise_of_forall fun _ _ h => ?_, ?_⟩
  · cases h
  · intro entry hentry later _ _
    obtain ⟨entry, -, rfl⟩ := List.mem_map.mp hentry
    rfl

theorem exists_mod_of_before {later : Mod} (h : recipe.entries = done ++ .mod later :: rest)
    (hentry : entry ∈ done) : ∃ earlier, entry = .mod earlier := by
  have hpairs := recipe.pairwise_entries
  rw [h, List.pairwise_append] at hpairs
  have hnone := hpairs.2.2 entry hentry (.mod later) (by simp) rfl
  cases entry with
  | mod earlier => exact ⟨earlier, rfl⟩
  | combination earlier => cases hnone

/-! ### A run in step with a dry run -/

/-- A run that is in step with a dry run: it has written all that it has recorded, and each of its
files was planned by the dry run as well. -/
structure InStep (recipe : Recipe) (root : Path) (l : Location) (base : Tree) (plans : List Plan)
    (done : List RecipeEntry) (produced : Produced) (tree : Tree) : Prop where
  progress : Progress root l base [] produced produced tree
  target : ∀ key ∈ produced.keys, recipe.IsTarget root done key
  plan : ∀ key ∈ produced.keys, ∃ plan ∈ plans, plan.file.components = key ∧
    base.readIfAny plan.file = .ok plan.before

theorem InStep.refl (wf : tree.WellFormed) : InStep recipe root l tree plans [] [] tree :=
  ⟨.refl wf, fun key h => by simp [Produced.keys] at h, fun key h => by simp [Produced.keys] at h⟩

section InStep

variable (h : InStep recipe root l base plans done produced tree)

include h

theorem InStep.file?_of_not_mem (hnot : root.below names ∉ produced.keys) :
    tree.file? (l ++ names) = base.file? (l ++ names) :=
  h.progress.overlay.file?_of_lookup names (Produced.lookup_eq_none_iff.mpr hnot)

/-- What an entry reads is as it was when the run started. -/
theorem InStep.agrees [Patterns] (hvalid : recipe.issues = []) (contained : recipe.Contained)
    (hroot : root.text ≠ []) (hentries : recipe.entries = done ++ entry :: rest) :
    recipe.Agrees root l base tree produced entry := by
  cases entry with
  | mod later =>
    intro folder hfolder names
    rw [List.append_assoc]
    refine (h.file?_of_not_mem fun hkey => ?_).symm
    -- the mods before it have written to the folder for output only
    obtain ⟨earlier, hearlier, names', heq, htargets⟩ := h.target _ hkey
    obtain rfl := Path.below_inj.mp heq
    obtain ⟨earlier, rfl⟩ := exists_mod_of_before hentries hearlier
    exact not_inOutput_of_source hvalid contained hfolder (List.prefix_append _ names) htargets
  | combination entry =>
    intro input hinput hnone hout
    have hcombination : entry ∈ recipe.combinations := by
      rw [← mem_entries_combination, hentries]
      simp
    have hinner : input.Inner := by
      rcases List.mem_pair.mp hinput with rfl | rfl
      · exact contained.sources entry hcombination
      · exact contained.overrides entry hcombination
    refine (h.file?_of_not_mem ?_).symm
    rwa [Produced.find?, (Path.Inside.of_inner hroot hinner).components,
      Produced.lookup_eq_none_iff] at hnone

/-- What the run finds at a file, a dry run finds as well. -/
theorem InStep.isOk_readIfAny (hroot : root.text ≠ []) (wf : base.WellFormed)
    (hl : base.walk root = .ok l) (hfolder : base.entry? l = some .folder) {path : Path}
    (hpath : Path.Spells root path names) {before : Option Text}
    (hread : tree.readIfAny path = .ok before) : ∃ before, base.readIfAny path = .ok before := by
  have hcheck := Tree.checkPath_of_readIfAny (hpath.text_ne_nil hroot) hread
  have hwalk := h.progress.overlay.grows.walk hl
  have wf' := h.progress.overlay.wellFormed
  cases before with
  | none => exact ⟨none, h.progress.overlay.grows.readIfAny_eq_none wf hpath hroot hl hread⟩
  | some text =>
    obtain ⟨hlocate, hfile⟩ := Tree.file?_of_readIfAny hpath hwalk hread
    obtain ⟨before, place, name, hpieces, -, hname, -⟩ :=
      Tree.pieces_of_file wf' hlocate (by simp [hfile])
    have hlast : ∀ piece ∈ path.pieces.getLast?, Path.isPassed piece = false := by
      simpa [hpieces] using hname.proper
    by_cases hkey : root.below names ∈ produced.keys
    · obtain ⟨plan, -, hcomponents, hplan⟩ := h.plan _ hkey
      have hspells : Path.Spells root plan.file names :=
        ⟨hcomponents, hpath.proper, hpath.noParent⟩
      cases hbefore : plan.before with
      | none =>
        rw [hbefore] at hplan
        obtain ⟨-, hfree⟩ := Tree.free_of_readIfAny hspells hl hroot wf hplan
        have hnames := (wf'.folder_of_append (Tree.isSome_of_file? hfile)).2
        exact ⟨none, Tree.readIfAny_of_free hpath hl hcheck hroot hfolder hnames hfree⟩
      | some old =>
        rw [hbefore] at hplan
        obtain ⟨-, hold⟩ := Tree.file?_of_readIfAny hspells hl hplan
        have hlocate := Tree.locate_of_last hpath hl hcheck wf hlast (Tree.isSome_of_file? hold)
        exact ⟨some old, Tree.readIfAny_of_file hlocate hold⟩
    · rw [h.file?_of_not_mem hkey] at hfile
      have hlocate := Tree.locate_of_last hpath hl hcheck wf hlast (Tree.isSome_of_file? hfile)
      exact ⟨some text, Tree.readIfAny_of_file hlocate hfile⟩

/-- Where nothing is in the way of a file that was planned, nothing the run has written is. -/
theorem InStep.free (apart : Apart plans) {plan : Plan} (hplan : plan ∈ plans)
    (hcomponents : plan.file.components = root.below names)
    (hkey : root.below names ∉ produced.keys) (hfree : base.Free l names) :
    tree.Free l names := by
  have hnone : tree.file? (l ++ names) = none := by
    rw [h.file?_of_not_mem hkey]
    exact hfree.file names List.prefix_rfl
  refine ⟨Tree.entry?_eq_none hnone fun hfolder => ?_, fun front hfront => ?_⟩
  · rcases h.progress.along _ hfolder with hbase | ⟨names', hkey', hlead⟩
    · rw [hfree.entry] at hbase
      cases hbase
    · obtain ⟨other, hother, heq, -⟩ := h.plan _ hkey'
      have hlead : root.below names <+: root.below names' :=
        Path.below_prefix_iff.mpr ((List.prefix_append_right_inj l).mp hlead)
      rw [← hcomponents, ← heq] at hlead
      rw [← heq, apart.eq hother hplan hlead, hcomponents] at hkey'
      exact absurd hkey' hkey
  · by_cases hkey' : root.below front ∈ produced.keys
    · obtain ⟨other, hother, heq, -⟩ := h.plan _ hkey'
      have hlead : root.below front <+: root.below names := Path.below_prefix_iff.mpr hfront
      rw [← hcomponents, ← heq] at hlead
      rw [← heq, ← apart.eq hplan hother hlead, hcomponents] at hkey'
      exact absurd hkey' hkey
    · rw [h.file?_of_not_mem hkey']
      exact hfree.file front hfront

/-- A file that was planned is found in the run, and can be written there. -/
theorem InStep.found (hroot : root.text ≠ []) (wf : base.WellFormed) (hl : base.walk root = .ok l)
    (hfolder : base.entry? l = some .folder) (apart : Apart plans) {plan : Plan}
    (hmem : plan ∈ plans) (hwritable : base.Writable plan.file)
    (hpath : Path.Spells root plan.file names)
    (hread : base.readIfAny plan.file = .ok plan.before) :
    ∃ before, Ready tree plan.file plan.after before ∧
      (plan.file.components ∉ produced.keys → before = plan.before) := by
  have hcheck := Tree.checkPath_of_readIfAny (hpath.text_ne_nil hroot) hread
  have hwalk := h.progress.overlay.grows.walk hl
  have wf' := h.progress.overlay.wellFormed
  have hwritable := hwritable.congr h.progress.overlay.grows.home
  by_cases hkey : root.below names ∈ produced.keys
  · obtain ⟨text, htext⟩ := h.progress.file?_of_mem hkey
    exact ⟨some text, ready_of_file hpath hwalk wf' hwritable hcheck htext,
      fun hnot => absurd (hpath.components ▸ hkey) hnot⟩
  · refine ⟨plan.before, ?_, fun _ => rfl⟩
    cases hbefore : plan.before with
    | some text =>
      rw [hbefore] at hread
      obtain ⟨-, htext⟩ := Tree.file?_of_readIfAny hpath hl hread
      rw [← h.file?_of_not_mem hkey] at htext
      exact ready_of_file hpath hwalk wf' hwritable hcheck htext
    | none =>
      rw [hbefore] at hread
      obtain ⟨-, hfree⟩ := Tree.free_of_readIfAny hpath hl hroot wf hread
      exact ready_of_free hroot hpath hwalk (h.progress.overlay.grows.folder l hfolder) wf'
        hwritable hcheck (h.free apart hmem hpath.components hkey hfree)

end InStep

section Step

variable [Digest] [Patterns] (contained : recipe.Contained) (hroot : root.text ≠ [])
  (wf : base.WellFormed) (hl : base.walk root = .ok l) (hfolder : base.entry? l = some .folder)
  (h : InStep recipe root l base plans done produced tree)
  (hentries : recipe.entries = done ++ entry :: rest)

include contained hroot wf hl hfolder h hentries

/-- What fails in a dry run fails in the run. -/
theorem InStep.error (hvalid : recipe.issues = []) {e : EntryError}
    (hplan : recipe.plan root base produced entry = .error e) :
    ∃ e, Turn.planned recipe root ⟨entry, tree, produced⟩ = .error e := by
  cases hturn : Turn.planned recipe root ⟨entry, tree, produced⟩ with
  | error e => exact ⟨e, rfl⟩
  | ok plan =>
    obtain ⟨hproduce, hread⟩ := Turn.planned_eq_ok_iff.mp hturn
    have hmem : entry ∈ recipe.entries := by simp [hentries]
    have hproduce' := (produce_congr contained hroot hl (h.progress.overlay.grows.walk hl) wf
      h.progress.overlay.wellFormed hmem (h.agrees hvalid contained hroot hentries) _).mpr hproduce
    obtain ⟨names, hpath, -⟩ := produce_target contained hroot wf hmem hproduce'
    obtain ⟨before, hread'⟩ := h.isOk_readIfAny hroot wf hl hfolder hpath.spells hread
    have hbase : Turn.planned recipe root ⟨entry, base, produced⟩ =
        .ok ⟨plan.file, before, plan.after⟩ := Turn.planned_eq_ok_iff.mpr ⟨hproduce', hread'⟩
    rw [show Turn.planned recipe root ⟨entry, base, produced⟩ = _ from hplan] at hbase
    cases hbase

/-- What is planned in a dry run is planned and written in the run. -/
theorem InStep.planned (hvalid : recipe.issues = []) (apart : Apart plans)
    (hwritable : ∀ plan ∈ plans, base.Writable plan.file) {plan : Plan}
    (hplan : recipe.plan root base produced entry = .ok plan) (hmem : plan ∈ plans) :
    ∃ before written, Turn.planned recipe root ⟨entry, tree, produced⟩ =
        .ok ⟨plan.file, before, plan.after⟩ ∧
      Turn.result recipe root ⟨entry, tree, produced⟩ = .ok written ∧
      (plan.file.components ∉ produced.keys → before = plan.before) := by
  have hentry : entry ∈ recipe.entries := by simp [hentries]
  have hbase : Turn.planned recipe root ⟨entry, base, produced⟩ = .ok plan := hplan
  obtain ⟨hproduce, hread⟩ := Turn.planned_eq_ok_iff.mp hbase
  obtain ⟨names, hpath, -⟩ := produce_target contained hroot wf hentry hproduce
  have hproduce' := (produce_congr contained hroot hl (h.progress.overlay.grows.walk hl) wf
    h.progress.overlay.wellFormed hentry (h.agrees hvalid contained hroot hentries) _).mp hproduce
  obtain ⟨before, ⟨hread', after, written, hcommit⟩, hbefore⟩ :=
    h.found hroot wf hl hfolder apart hmem (hwritable plan hmem) hpath.spells hread
  have hturn : Turn.planned recipe root ⟨entry, tree, produced⟩ =
      .ok ⟨plan.file, before, plan.after⟩ := Turn.planned_eq_ok_iff.mpr ⟨hproduce', hread'⟩
  have hsame := hcommit.symm.trans (Turn.commit_of_planned hturn)
  exact ⟨before, written, hturn, (Prod.mk.inj hsame).2.symm, hbefore⟩

end Step

section Run

variable [Digest] [Patterns] {entries : List RecipeEntry}

/-- What is reported of a plan that is carried out. -/
def carriedOut (plan : Plan) : Written :=
  if plan.isChange then .applied plan.file else .unchanged plan.file

/-- What a dry run expects of the output of an entry. -/
def expected? (planned : Except EntryError Plan) : Option (Path × Text) :=
  planned.toOption.map fun plan => (plan.file, plan.after)

variable (hvalid : recipe.issues = []) (contained : recipe.Contained) (hroot : root.text ≠ [])
  (wf : base.WellFormed) (hl : base.walk root = .ok l) (hfolder : base.entry? l = some .folder)
  (apart : Apart plans) (hwritable : ∀ plan ∈ plans, base.Writable plan.file)
  (h : InStep recipe root l base plans done produced tree)

include hvalid contained hroot wf hl hfolder apart hwritable h

/-- An entry has the outcome that the dry run expects of it, and leaves the run in step. -/
theorem InStep.step (hentries : recipe.entries = done ++ entry :: rest)
    {planned : Except EntryError Plan} (hplanned : recipe.plan root base produced entry = planned)
    (hplans : ∀ plan, planned = .ok plan → plan ∈ plans) {turn : Turn}
    (hturn : turn = ⟨entry, tree, produced⟩) : turn.output? recipe root = expected? planned ∧
      turn.recorded recipe root = record produced planned ∧
      InStep recipe root l base plans (done ++ [entry]) (record produced planned)
        (turn.after recipe root) ∧
      ∀ plan, planned = .ok plan → plan.file.components ∉ produced.keys →
        turn.result recipe root = .ok (carriedOut plan) := by
  subst hturn
  have hentry : entry ∈ recipe.entries := by simp [hentries]
  have htarget : ∀ key ∈ produced.keys, recipe.IsTarget root (done ++ [entry]) key := by
    intro key hkey
    obtain ⟨earlier, hmem, hearlier⟩ := h.target key hkey
    exact ⟨earlier, List.mem_append_left _ hmem, hearlier⟩
  cases planned with
  | error e =>
    obtain ⟨e', herror⟩ := h.error contained hroot wf hl hfolder hentries hvalid hplanned
    obtain ⟨-, houtput, hafter, hrecorded⟩ := Turn.of_error herror
    rw [houtput, hafter, hrecorded]
    exact ⟨rfl, rfl, ⟨h.progress, htarget, h.plan⟩, fun plan hplan => by cases hplan⟩
  | ok plan =>
    have hmem := hplans plan rfl
    obtain ⟨before, written, hplan, hresult, hbefore⟩ :=
      h.planned contained hroot wf hl hfolder hentries hvalid apart hwritable hplanned hmem
    have houtput := Turn.output_of_result hplan hresult
    have hrecorded := Turn.recorded_of_planned hplan
    have hprogress := Progress.turn contained hroot hl hfolder ⟨entry, tree, produced⟩ hentry
      (by simp [Turn.refused?, hplan, hresult]) h.progress
    rw [houtput, hrecorded] at hprogress
    have hbase : Turn.planned recipe root ⟨entry, base, produced⟩ = .ok plan := hplanned
    obtain ⟨hproduce, hread⟩ := Turn.planned_eq_ok_iff.mp hbase
    obtain ⟨names, hpath, htargets⟩ := produce_target contained hroot wf hentry hproduce
    refine ⟨houtput, hrecorded, ⟨hprogress, fun key hkey => ?_, fun key hkey => ?_⟩, ?_⟩
    · rcases Produced.mem_keys_cons.mp hkey with rfl | hkey
      · exact ⟨entry, by simp, names, hpath.components, htargets⟩
      · exact htarget key hkey
    · rcases Produced.mem_keys_cons.mp hkey with rfl | hkey
      · exact ⟨plan, hmem, rfl, hread⟩
      · exact h.plan key hkey
    · rintro plan' hsame hnot
      obtain rfl := Except.ok.inj hsame
      rw [hbefore hnot] at hplan
      have hcommit := Turn.commit_of_planned hplan
      rw [hresult] at hcommit
      rw [hresult, written_of_commit hcommit]
      rfl

/-- A run stays in step with a dry run to its end. -/
theorem InStep.run (hentries : recipe.entries = done ++ entries)
    (hplans : ∀ planned ∈ recipe.planAll root base produced entries, ∀ plan,
      planned.2 = .ok plan → plan ∈ plans) :
    ((recipe.turns root tree produced entries).map fun turn =>
        (turn.entry.id, turn.output? recipe root)) =
      (recipe.planAll root base produced entries).map (fun planned =>
        (planned.1, expected? planned.2)) ∧
    ∀ front id plan back,
      recipe.planAll root base produced entries = front ++ (id, .ok plan) :: back →
      plan.file.components ∉ produced.keys →
      (∀ x ∈ front, ∀ other, x.2 = .ok other →
        other.file.components ≠ plan.file.components) →
      ((recipe.turns root tree produced entries).map fun turn =>
        (turn.entry.id, turn.result recipe root))[front.length]? =
        some (id, .ok (carriedOut plan)) := by
  induction entries generalizing done produced tree with
  | nil =>
    refine ⟨rfl, fun front id plan back hsplit => ?_⟩
    simp [planAll] at hsplit
  | cons entry rest ih =>
    rw [planAll] at hplans ⊢
    obtain ⟨hfirst, hrest⟩ := List.forall_mem_cons.mp hplans
    obtain ⟨houtput, hrecorded, hstep, hresult⟩ := h.step hvalid contained hroot wf hl hfolder
      apart hwritable hentries rfl hfirst rfl
    obtain ⟨houtputs, hresults⟩ := ih hstep (by simp [hentries]) hrest
    rw [turns, List.map_cons, List.map_cons, List.map_cons, houtput, hrecorded]
    refine ⟨congrArg _ houtputs, fun front id plan back hsplit hnot hother => ?_⟩
    cases front with
    | nil =>
      obtain ⟨hid, hplan⟩ := Prod.mk.inj (List.cons.inj hsplit).1
      rw [hresult plan hplan hnot, ← hid]
      rfl
    | cons x front =>
      obtain ⟨rfl, hback⟩ := List.cons.inj hsplit
      obtain ⟨hx, hother⟩ := List.forall_mem_cons.mp hother
      refine hresults front id plan back hback ?_ hother
      -- the plan of this entry is not for the file either
      cases hplan : recipe.plan root base produced entry with
      | error e => exact hnot
      | ok earlier =>
        rintro hkey
        rcases Produced.mem_keys_cons.mp hkey with heq | hkey
        · exact hx earlier hplan heq.symm
        · exact hnot hkey

end Run

/-- The plans of a dry run. -/
def dryPlans [Digest] [Patterns] (recipe : Recipe) (root : Path) (tree : Tree) : List Plan :=
  (recipe.check root tree).filterMap (·.2.toOption)

/-- A dry run foretells the run: the entries that succeed, their files and their texts, and for the
first entry of a file also whether it changes it. The files that are planned lie apart, and each
ends in a name, with no name that is too long and with room for the temporary file. -/
theorem apply_of_check [Digest] [Patterns] (hvalid : recipe.issues = [])
    (contained : recipe.Contained) (wf : base.WellFormed) (hisFolder : base.isFolder root = true)
    (apart : Apart (recipe.dryPlans root base))
    (hwritable : ∀ plan ∈ recipe.dryPlans root base, base.Writable plan.file) :
    let planned := recipe.check root base
    let results := (recipe.apply root base).2
    results.map (fun result => (result.1, result.2.toOption.map Written.file)) =
        planned.map (fun planned => (planned.1, planned.2.toOption.map Plan.file)) ∧
      recipe.outputs root base = planned.map (fun planned =>
        planned.2.toOption.map fun plan => (plan.file, plan.after)) ∧
      ∀ front id plan back, planned = front ++ (id, .ok plan) :: back →
        (∀ x ∈ front, ∀ other, x.2 = .ok other →
          other.file.components ≠ plan.file.components) →
        results[front.length]? =
          some (id, .ok (if plan.isChange then .applied plan.file else .unchanged plan.file)) := by
  have hroot := text_ne_nil_of_isFolder hisFolder
  obtain ⟨l, hlocate, hfolder⟩ := Tree.isFolder_iff.mp hisFolder
  have hl := (Tree.locate_eq_ok_iff.mp hlocate).2
  have hplans : ∀ planned ∈ recipe.check root base, ∀ plan, planned.2 = .ok plan →
      plan ∈ recipe.dryPlans root base := by
    intro planned hmem plan hplan
    refine List.mem_filterMap.mpr ⟨planned, hmem, ?_⟩
    rw [hplan]
    rfl
  have hstart : InStep recipe root l base (recipe.dryPlans root base) [] [] base := .refl wf
  obtain ⟨houtputs, hresults⟩ := hstart.run hvalid contained hroot wf hl hfolder apart hwritable
    (List.nil_append _).symm hplans
  intro planned results
  refine ⟨?_, ?_, fun front id plan back hsplit hother => ?_⟩
  · have hfiles := congrArg (List.map fun x : Text × Option (Path × Text) =>
      (x.1, x.2.map Prod.fst)) houtputs
    rw [List.map_map, List.map_map] at hfiles
    refine (reports_apply wf).trans (hfiles.trans (List.map_congr_left fun x _ => ?_))
    simp only [Function.comp_apply, expected?, Option.map_map]
    rfl
  · have hmap := congrArg (List.map Prod.snd) houtputs
    rwa [List.map_map, List.map_map] at hmap
  · rw [show results = _ from results_runAll]
    exact hresults front id plan back hsplit (by simp [Produced.keys]) hother

/-- Of two mods the second finds no component, and a combination goes on with the first: the dry run
says so. -/
theorem apply_of_check_of_failure :
    let _ := Digest.multiplicative
    let _ := Patterns.leftmostFirst
    let recipe : Recipe :=
      { info := { folders := ["out".toList, "core".toList] }
        mods := [
          { id := "m1".toList, component := some "card".toList,
            steps := [.findFirst, .setAttribute ['a'] ['1']] },
          { id := "m2".toList, component := some "none".toList, steps := [.findFirst] }]
        combinations := [{ id := ['c'], source := "out/Card.vue".toList,
                           override := "b.vue".toList }] }
    let root : Path := ⟨"/shop".toList⟩
    let tree : Tree := ⟨[], [(["shop".toList], .folder), (["shop".toList, "core".toList], .folder),
      (["shop".toList, "core".toList, "Card.vue".toList],
        .file (.text "<template><p></p></template>".toList)),
      (["shop".toList, "b.vue".toList], .file (.text "<style>.b{}</style>".toList))]⟩
    let file : Path := ⟨"/shop/out/Card.vue".toList⟩
    (recipe.check root tree).map (fun planned =>
        (planned.1, planned.2.toOption.map Plan.file)) =
      [("m1".toList, some file), ("m2".toList, none), (['c'], some file)] ∧
      (recipe.apply root tree).2.map (fun result =>
        (result.1, result.2.toOption.map Written.file)) =
      [("m1".toList, some file), ("m2".toList, none), (['c'], some file)] := by
  intro digest patterns recipe root tree file
  have hvalid : recipe.issues = [] := by decide +kernel
  have hcheck : (recipe.check root tree).map (fun planned =>
        (planned.1, planned.2.toOption.map Plan.file)) =
      [("m1".toList, some file), ("m2".toList, none), (['c'], some file)] := by
    decide +kernel
  obtain ⟨hresults, -, -⟩ :=
    apply_of_check hvalid (show recipe.Contained by decide +kernel)
      (show tree.WellFormed by decide +kernel) (show tree.isFolder root = true by decide +kernel)
      (by decide +kernel) (by decide +kernel)
  exact ⟨hcheck, hresults.trans hcheck⟩

/-- A dry run does not see that a name is too long for a file. -/
theorem not_apply_of_check_of_long_name :
    let _ := Digest.multiplicative
    let _ := Patterns.leftmostFirst
    ¬∀ (recipe : Recipe) (root : Path) (tree : Tree), recipe.issues = [] → recipe.Plain →
      tree.WellFormed → tree.isFolder root = true → Apart (recipe.dryPlans root tree) →
      (recipe.apply root tree).2.map (fun result => (result.1, result.2.isOk)) =
        (recipe.check root tree).map fun planned => (planned.1, planned.2.isOk) := by
  intro digest patterns hall
  let recipe : Recipe :=
    { info := { folders := ["out".toList, "core".toList] }
      mods := [{ id := ['m'], component := some "card".toList,
                 output := some (List.replicate 256 'a'),
                 steps := [.findFirst, .setAttribute ['a'] ['1']] }] }
  let root : Path := ⟨"/shop".toList⟩
  let tree : Tree := ⟨[], [(["shop".toList], .folder), (["shop".toList, "core".toList], .folder),
    (["shop".toList, "core".toList, "Card.vue".toList],
      .file (.text "<template><p></p></template>".toList))]⟩
  have hcheck : (recipe.check root tree).map (fun planned => (planned.1, planned.2.isOk)) =
      [(['m'], true)] := by
    decide +kernel
  have happly : (recipe.apply root tree).2.map (fun result => (result.1, result.2.isOk)) =
      [(['m'], false)] := by
    decide +kernel
  have hsame := hall recipe root tree (by decide +kernel) (by decide +kernel) (by decide +kernel)
    (by decide +kernel) (by decide +kernel)
  rw [hcheck, happly] at hsame
  revert hsame
  decide

end Recipe

end Graft
