import Graft.Pattern
import Graft.Proofs.Run
import Graft.Recipe.Issue

/-! Running a recipe again: where no entry reads what it or a later entry leaves outside the folder
for output, the second run makes what the first one made and leaves the tree as it is. -/

namespace Graft

open Text

/-- The combination that an entry is. -/
def RecipeEntry.combination? : RecipeEntry → Option Combination
  | .mod _ => none
  | .combination entry => some entry

/-! ### Folders without issues -/

namespace Issue

theorem components_of_isPlain {path : Path} (h : Issue.isPlain path = true) (hinner : path.Inner) :
    path.components = path.names.map .normal := by
  have hall : ∀ component ∈ path.components, component ≠ .current := by
    intro component hcomponent
    unfold Issue.isPlain at h
    rw [Bool.and_eq_true, List.all_eq_true] at h
    rintro rfl
    simpa using h.2 _ hcomponent
  rw [← hinner.filter_components, List.filter_eq_self.mpr]
  simpa using hall

theorem overlaps_eq_false_iff {output source : Path} (hplain : isPlain output = true)
    (houtput : output.Inner) (hsource : source.Inner) : overlaps output source = false ↔
      ¬output.names <+: source.names ∧ ¬source.names <+: output.names := by
  rw [overlaps, hsource.filter_components, components_of_isPlain hplain houtput,
    Bool.or_eq_false_iff, Bool.eq_false_iff, Bool.eq_false_iff, Ne, Ne,
    List.isPrefixOf_iff_prefix, List.isPrefixOf_iff_prefix,
    List.prefix_map_iff_of_injective Path.normal_injective,
    List.prefix_map_iff_of_injective Path.normal_injective]

theorem ofFolders_eq_nil_iff {output : Text} {sources : List Text} :
    ofFolders (output :: sources) = [] ↔ isPlain ⟨output⟩ = true ∧ sources ≠ [] ∧
      ∀ source ∈ sources, overlaps ⟨output⟩ ⟨source⟩ = false := by
  simp [ofFolders]

end Issue

namespace Recipe

/-- What a combination leaves outside the folder for output is not read again: the folders of the
mods do not hold it, and neither the combination itself nor one before it reads it. -/
structure FeedsForward (recipe : Recipe) : Prop where
  mods : recipe.mods ≠ [] → ∀ entry ∈ recipe.combinations, ∀ folder ∈ recipe.info.folders.tail,
    ¬Path.names ⟨folder⟩ <+: entry.target.names
  own : ∀ entry ∈ recipe.combinations, ∀ input ∈ entry.inputs,
    entry.target.names = input.names → recipe.InOutput input.names
  earlier : recipe.combinations.Pairwise fun entry later => ∀ input ∈ entry.inputs,
    later.target.names = input.names → recipe.InOutput input.names

instance (recipe : Recipe) : Decidable recipe.FeedsForward :=
  decidable_of_iff ((recipe.mods ≠ [] → ∀ entry ∈ recipe.combinations,
        ∀ folder ∈ recipe.info.folders.tail, ¬Path.names ⟨folder⟩ <+: entry.target.names) ∧
      (∀ entry ∈ recipe.combinations, ∀ input ∈ entry.inputs,
        entry.target.names = input.names → recipe.InOutput input.names) ∧
      recipe.combinations.Pairwise fun entry later => ∀ input ∈ entry.inputs,
        later.target.names = input.names → recipe.InOutput input.names)
    ⟨fun ⟨h1, h2, h3⟩ => ⟨h1, h2, h3⟩, fun h => ⟨h.1, h.2, h.3⟩⟩

variable {recipe : Recipe} {root : Path} {l : Location} {base tree other settled : Tree}
  {produced final : Produced} {names : List Name}

/-- A recipe without combinations feeds nothing on. -/
theorem FeedsForward.of_mods (h : recipe.combinations = []) : recipe.FeedsForward := by
  constructor <;> simp [h]

/-! ### The folders of a valid recipe -/

/-- The folder for output and the ones that are searched lie apart. -/
theorem not_inOutput_of_source [Patterns] (hvalid : recipe.issues = [])
    (contained : recipe.Contained) {folder : Text} (hfolder : folder ∈ recipe.info.folders.tail)
    (hnames : Path.names ⟨folder⟩ <+: names) : ¬recipe.InOutput names := by
  rintro ⟨output, houtput, hlead⟩
  obtain ⟨sources, hfolders⟩ : ∃ sources, recipe.info.folders = output :: sources :=
    List.head?_eq_some_iff.mp houtput
  have hsource : folder ∈ sources := by simpa [hfolders] using hfolder
  have hissues : Issue.ofFolders (output :: sources) = [] := by
    simp only [issues, List.append_eq_nil_iff] at hvalid
    simpa [hfolders] using hvalid.1.1.2
  obtain ⟨hplain, -, hapart⟩ := Issue.ofFolders_eq_nil_iff.mp hissues
  have hinner := contained.folders output (by simp [hfolders])
  have hinner' := contained.folders folder (by simp [hfolders, hsource])
  obtain ⟨hnot, hnot'⟩ :=
    (Issue.overlaps_eq_false_iff hplain hinner hinner').mp (hapart folder hsource)
  rcases List.prefix_or_prefix_of_prefix hlead hnames with h | h
  · exact hnot h
  · exact hnot' h

/-! ### What the entries of a run do not write to -/

theorem isTarget_iff {entries : List RecipeEntry} :
    recipe.IsTarget root entries (root.below names) ↔
      ∃ entry ∈ entries, recipe.Targets names entry := by
  constructor
  · rintro ⟨entry, hentry, names', hkey, htargets⟩
    obtain rfl := Path.below_inj.mp hkey
    exact ⟨entry, hentry, htargets⟩
  · rintro ⟨entry, hentry, htargets⟩
    exact ⟨entry, hentry, names, rfl, htargets⟩

theorem lookup_eq_none {entries : List RecipeEntry}
    (hkeys : ∀ x ∈ produced, recipe.IsTarget root entries x.1)
    (hnot : ∀ entry ∈ entries, ¬recipe.Targets names entry) :
    produced.lookup (root.below names) = none := by
  rw [List.lookup_eq_none_iff]
  intro x hx
  have hne : root.below names ≠ x.1 := by
    intro h
    obtain ⟨entry, hentry, htargets⟩ := isTarget_iff.mp (h ▸ hkeys x hx)
    exact hnot entry hentry htargets
  simpa using hne

/-- No entry writes to the folders that the mods search. -/
theorem not_targets_source [Patterns] (hvalid : recipe.issues = []) (contained : recipe.Contained)
    (forward : recipe.FeedsForward) (hmods : recipe.mods ≠ []) {folder : Text}
    (hfolder : folder ∈ recipe.info.folders.tail) (hnames : Path.names ⟨folder⟩ <+: names) :
    ∀ entry ∈ recipe.entries, ¬recipe.Targets names entry := by
  intro entry hentry htargets
  cases entry with
  | mod entry => exact not_inOutput_of_source hvalid contained hfolder hnames htargets
  | combination entry =>
    obtain rfl : entry.target.names = names := htargets
    exact forward.mods hmods entry (mem_entries_combination.mp hentry) folder hfolder hnames

theorem filterMap_entries :
    recipe.entries.filterMap RecipeEntry.combination? = recipe.combinations := by
  have hmods : (recipe.mods.map RecipeEntry.mod).filterMap RecipeEntry.combination? = [] := by
    simp [RecipeEntry.combination?]
  have hall : (recipe.combinations.map RecipeEntry.combination).filterMap
      RecipeEntry.combination? = recipe.combinations := by
    rw [List.filterMap_map]
    exact List.filterMap_some
  rw [entries, List.filterMap_append, hmods, hall, List.nil_append]

/-- No combination from one on writes to what that one reads from the tree. -/
theorem not_targets_input (forward : recipe.FeedsForward) {done rest : List RecipeEntry}
    {entry : Combination} (hentries : recipe.entries = done ++ .combination entry :: rest)
    {input : Path} (hinput : input ∈ entry.inputs) (hout : ¬recipe.InOutput input.names) :
    ∀ later ∈ .combination entry :: rest, ¬recipe.Targets input.names later := by
  intro later hlater htargets
  have hcombinations : recipe.combinations = done.filterMap RecipeEntry.combination? ++
      entry :: rest.filterMap RecipeEntry.combination? := by
    rw [← filterMap_entries, hentries, List.filterMap_append]
    rfl
  cases later with
  | mod later => exact hout htargets
  | combination later =>
    rcases List.mem_cons.mp hlater with heq | hlater
    · obtain rfl := RecipeEntry.combination.inj heq
      exact hout (forward.own later (by simp [hcombinations]) input hinput htargets)
    · have hpairs := forward.earlier
      rw [hcombinations, List.pairwise_append, List.pairwise_cons] at hpairs
      have hmem : later ∈ rest.filterMap RecipeEntry.combination? :=
        List.mem_filterMap.mpr ⟨.combination later, hlater, rfl⟩
      exact hout (hpairs.2.1.1 later hmem input hinput htargets)

/-! ### Two runs entry by entry -/

section Step

variable [Digest] [Patterns]

/-- What is planned for an entry whose file is there. -/
theorem plan_of_file {entry : RecipeEntry} {path : Path} {text : Text}
    (hproduce : recipe.produce root tree produced entry = .ok (path, text)) {place : Location}
    {old : Text} (hplace : tree.locate path = .ok place)
    (hfile : tree.file? place = some (.text old)) :
    recipe.plan root tree produced entry = .ok ⟨path, some old, text⟩ := by
  have hread : tree.readIfAny path = .ok (some old) :=
    readIfAny_eq_some_iff.mpr (Tree.read_eq_ok_iff.mpr ⟨place, hplace, hfile⟩)
  rw [plan_eq, hproduce]
  exact planWrite_eq_ok_iff.mpr ⟨some old, hread, rfl⟩

omit [Digest] [Patterns] in
/-- The path of a file that was written leads to it in each tree that has a file there. -/
theorem locate_of_stored {path : Path} {text : Text} {after : Tree} (hl : tree.walk root = .ok l)
    (hl' : other.walk root = .ok l) (wf : other.WellFormed) (hpath : Path.Inside root path names)
    (hstored : tree.Stored path text after) (hfile : (other.file? (l ++ names)).isSome) :
    other.locate path = .ok (l ++ names) := by
  have hl'' := hstored.grows.walk hl
  obtain ⟨place, hplace, hplaced, -⟩ := hstored.file
  obtain ⟨rfl, -⟩ := hpath.locate_eq hl'' hplace
  exact hpath.locate_of_file? hl'' hl' wf hplace (by simp [hplaced]) hfile

/-- What an entry wrote, or a later one wrote in its place, is there after the run. -/
theorem kept_of_stored (contained : recipe.Contained) (hroot : root.text ≠ [])
    (hl : base.walk root = .ok l) (hsettled : recipe.Settled root l base final settled)
    {path : Path} {text : Text} {rest : List RecipeEntry}
    (hrest : ∀ entry ∈ rest, entry ∈ recipe.entries) (hpath : Path.Inside root path names)
    (hover : Overlay root l base ((path.components, text) :: produced) tree)
    (hwrites : recipe.Writes root tree ((path.components, text) :: produced) rest)
    (hfinal : (recipe.runAll root tree ((path.components, text) :: produced) rest).produced =
      final) :
    ∃ last, final.lookup path.components = some last ∧
      settled.file? (l ++ names) = some (.text last) := by
  obtain ⟨-, later, hlater, -⟩ := runAll_overlay contained hroot hl hrest hover hwrites
  obtain ⟨last, hlast⟩ : ∃ last, final.lookup path.components = some last := by
    rw [← hfinal, hlater, List.lookup_append, List.lookup_cons_self]
    cases later.lookup path.components <;> simp
  exact ⟨last, hlast, hsettled.kept names last (hpath.components ▸ hlast)⟩

/-- What the first run wrote to a file that is still there, the second run writes again, or there is
no room for the temporary file and it leaves the tree as it is. -/
theorem step_again {entry : RecipeEntry} {path : Path} {text : Text} {after : Tree}
    (hl : tree.walk root = .ok l) (hl' : other.walk root = .ok l) (wf : other.WellFormed)
    (hpath : Path.Inside root path names) (hstored : tree.Stored path text after)
    (hproduce : recipe.produce root other produced entry = .ok (path, text)) {old : Text}
    (hold : other.file? (l ++ names) = some (.text old)) :
    ∃ after' result, commitPlanned other (recipe.plan root other produced entry) =
        (after', result) ∧
      record produced (recipe.plan root other produced entry) =
        (path.components, text) :: produced ∧
      (other.Stored path text after' ∧
          (∀ m, after'.entry? m = some .folder ↔ other.entry? m = some .folder) ∨
        other.hasRoom path = false ∧ after' = other) := by
  have hplace := locate_of_stored hl hl' wf hpath hstored (by simp [hold])
  have hplan := plan_of_file hproduce hplace hold
  rw [hplan]
  cases hroom : other.hasRoom path with
  | false =>
    exact ⟨_, _, rfl, rfl, .inr ⟨rfl, commit_of_not_hasRoom wf hplace hold hroom⟩⟩
  | true =>
    obtain ⟨after', written, hcommit, hfolders⟩ := commit_of_file wf hplace hold hroom
    have hbefore : planWrite other path text = .ok ⟨path, some old, text⟩ := by
      rw [← hplan, plan_eq, hproduce]
      rfl
    exact ⟨after', .ok written, hcommit, rfl, .inl ⟨stored_of_commit hbefore hcommit, hfolders⟩⟩

/-- What the first run wrote without room for the temporary file was there already. -/
theorem file?_of_not_hasRoom {entry : RecipeEntry} {path : Path} {text : Text} {after : Tree}
    {written : Written} (hl : tree.walk root = .ok l) (hpath : Path.Inside root path names)
    (hproduce : recipe.produce root tree produced entry = .ok (path, text))
    (hcommit : commitPlanned tree (recipe.plan root tree produced entry) = (after, .ok written))
    (hstored : tree.Stored path text after) (hroom : tree.hasRoom path = false) :
    tree.file? (l ++ names) = some (.text text) := by
  obtain rfl : after = tree := by
    rw [plan_eq, hproduce] at hcommit
    change commitPlanned tree (planWrite tree path text) = _ at hcommit
    cases hplan : planWrite tree path text with
    | error e =>
      rw [hplan] at hcommit
      cases (Prod.mk.inj hcommit).2
    | ok plan =>
      obtain ⟨before, -, rfl⟩ := planWrite_eq_ok_iff.mp hplan
      rw [hplan] at hcommit
      exact eq_of_commit_of_not_hasRoom hroom hcommit
  obtain ⟨place, hplace, hfile, -⟩ := hstored.file
  obtain ⟨rfl, -⟩ := hpath.locate_eq hl hplace
  exact hfile

end Step

/-! ### A tree in the second run -/

/-- A tree that the second run has reached: each file holds what the first run left in it or the
text that was last produced for it. -/
structure Again (root : Path) (l : Location) (settled : Tree) (produced : Produced) (tree : Tree) :
    Prop where
  grows : Tree.Grows settled tree
  wellFormed : tree.WellFormed
  folders : ∀ m, tree.entry? m = some .folder ↔ settled.entry? m = some .folder
  file : ∀ m, tree.file? m = settled.file? m ∨
    ∃ text, produced.at? root l m = some text ∧ tree.file? m = some (.text text)

namespace Again

variable {path : Path} {text : Text} {after : Tree}

theorem refl (wf : tree.WellFormed) : Again root l tree [] tree :=
  ⟨.refl tree, wf, fun _ => Iff.rfl, fun _ => .inl rfl⟩

variable (h : Again root l settled produced tree)

include h

/-- A text that is put into its file is the one last produced for it. -/
theorem stored (hl : settled.walk root = .ok l) (hpath : Path.Inside root path names)
    (hstored : tree.Stored path text after)
    (hfolders : ∀ m, after.entry? m = some .folder ↔ tree.entry? m = some .folder) :
    Again root l settled ((path.components, text) :: produced) after := by
  obtain ⟨place, hplace, hfile, hother⟩ := hstored.file
  refine ⟨h.grows.trans hstored.grows, hstored.wellFormed h.wellFormed,
    fun m => (hfolders m).trans (h.folders m), fun m => ?_⟩
  obtain ⟨rfl, -⟩ := hpath.locate_eq (hstored.grows.walk (h.grows.walk hl)) hplace
  rw [at?_cons hpath]
  by_cases hm : m = l ++ names
  · exact .inr ⟨text, if_pos hm, hm ▸ hfile⟩
  · rw [if_neg hm, hother m hm]
    exact h.file m

/-- A text that is recorded and not written is the one produced for its file before, if any was. -/
theorem recorded (hpath : Path.Inside root path names)
    (hsame : ∀ earlier, produced.lookup (root.below names) = some earlier → earlier = text) :
    Again root l settled ((path.components, text) :: produced) tree := by
  refine ⟨h.grows, h.wellFormed, h.folders, fun m => (h.file m).imp_right ?_⟩
  rintro ⟨earlier, hearlier, hfile⟩
  rw [at?_cons hpath]
  by_cases hm : m = l ++ names
  · rw [hm, at?_append] at hearlier
    exact ⟨text, if_pos hm, hsame earlier hearlier ▸ hfile⟩
  · exact ⟨earlier, (if_neg hm).trans hearlier, hfile⟩

theorem file?_of_lookup (names : List Name) (hnone : produced.lookup (root.below names) = none) :
    tree.file? (l ++ names) = settled.file? (l ++ names) := by
  rcases h.file (l ++ names) with hsame | ⟨text, htext, -⟩
  · exact hsame
  · rw [at?_append, hnone] at htext
    cases htext

theorem file?_of_settled {m : Location} (hm : settled.file? m = some (.text text)) :
    ∃ old, tree.file? m = some (.text old) := by
  rcases h.file m with hsame | ⟨old, -, hold⟩
  · exact ⟨text, hsame.trans hm⟩
  · exact ⟨old, hold⟩

end Again

/-- A tree that the second run has reached stays one when an entry is run: its text is put into the
file, or there is no room for that, and as there was none for the first run either, the file held
the text before both. -/
theorem Again.next [Digest] [Patterns] {path : Path} {text : Text} {entry : RecipeEntry}
    {after after' : Tree} {written : Written} (h : Again root l settled produced other)
    (hsettled : settled.walk root = .ok l) (hl : tree.walk root = .ok l)
    (hover : Overlay root l base produced tree) (hhome : other.home = tree.home)
    (hpath : Path.Inside root path names)
    (hproduce : recipe.produce root tree produced entry = .ok (path, text))
    (hcommit : commitPlanned tree (recipe.plan root tree produced entry) = (after, .ok written))
    (hstored : tree.Stored path text after)
    (hafter : other.Stored path text after' ∧
        (∀ m, after'.entry? m = some .folder ↔ other.entry? m = some .folder) ∨
      other.hasRoom path = false ∧ after' = other) :
    Again root l settled ((path.components, text) :: produced) after' := by
  rcases hafter with ⟨hstored', hfolders⟩ | ⟨hroom, rfl⟩
  · exact h.stored hsettled hpath hstored' hfolders
  · rw [Tree.hasRoom_congr hhome] at hroom
    have hfile := file?_of_not_hasRoom hl hpath hproduce hcommit hstored hroom
    rw [hover.file, at?_append] at hfile
    refine h.recorded hpath fun earlier hearlier => ?_
    rw [hearlier] at hfile
    exact Content.text.inj (Option.some.inj hfile)

section Again

variable [Patterns] (hvalid : recipe.issues = []) (contained : recipe.Contained)
  (forward : recipe.FeedsForward) (hroot : root.text ≠ [])
  (hsettled : recipe.Settled root l base final settled)
  (hkeys : ∀ x ∈ final, recipe.IsTarget root recipe.entries x.1)

include hvalid contained forward hroot hsettled hkeys

/-- The files that an entry reads are the same before and after the first run. -/
theorem agrees_of_settled {done rest : List RecipeEntry} {entry : RecipeEntry}
    (hentries : recipe.entries = done ++ entry :: rest) {added : Produced}
    (hfinal : final = added ++ produced)
    (hadded : ∀ x ∈ added, recipe.IsTarget root (entry :: rest) x.1)
    (hover : Overlay root l base produced tree)
    (hother : ∀ names, produced.lookup (root.below names) = none →
      other.file? (l ++ names) = settled.file? (l ++ names)) :
    recipe.Agrees root l tree other produced entry := by
  cases entry with
  | mod entry =>
    have hmods : recipe.mods ≠ [] := by
      have hentry : .mod entry ∈ recipe.entries := by simp [hentries]
      exact List.ne_nil_of_mem (mem_entries_mod.mp hentry)
    -- no entry at all writes to a folder that is searched
    intro folder hfolder names
    have hlead : Path.names ⟨folder⟩ <+: Path.names ⟨folder⟩ ++ names := List.prefix_append _ _
    have hnone := lookup_eq_none hkeys
      (not_targets_source hvalid contained forward hmods hfolder hlead)
    have hsame := hsettled.outside _ (not_inOutput_of_source hvalid contained hfolder hlead)
    have hproduced := hnone
    rw [hfinal, List.lookup_append, Option.or_eq_none_iff] at hproduced
    rw [hnone] at hsame
    rw [List.append_assoc, hover.file?_of_lookup _ hproduced.2, hother _ hproduced.2, hsame]
    rfl
  | combination entry =>
    intro input hinput hproduced hout
    have hcombination : entry ∈ recipe.combinations := by
      rw [← mem_entries_combination, hentries]
      simp
    have hinner : input.Inner := by
      rcases List.mem_pair.mp hinput with rfl | rfl
      · exact contained.sources entry hcombination
      · exact contained.overrides entry hcombination
    have hinside := Path.Inside.of_inner hroot hinner
    rw [Produced.find?, hinside.components] at hproduced
    -- an input that was not produced before this entry is not produced later either
    have hnone : final.lookup (root.below input.names) = none := by
      rw [hfinal, List.lookup_append, hproduced,
        lookup_eq_none hadded (not_targets_input forward hentries hinput hout)]
      rfl
    have hsame := hsettled.outside _ hout
    rw [hnone] at hsame
    rw [hover.file?_of_lookup _ hproduced, hother _ hproduced, hsame]
    rfl

variable [Digest] (hl : base.walk root = .ok l)

include hl

/-- An entry makes the same in the second run as in the first. -/
theorem produce_again {done rest : List RecipeEntry} {entry : RecipeEntry}
    (hentries : recipe.entries = done ++ entry :: rest) (hover : Overlay root l base produced tree)
    (hwrites : recipe.Writes root tree produced (entry :: rest))
    (hfinal : (recipe.runAll root tree produced (entry :: rest)).produced = final)
    (hl' : other.walk root = .ok l) (wf : other.WellFormed)
    (hother : ∀ names, produced.lookup (root.below names) = none →
      other.file? (l ++ names) = settled.file? (l ++ names)) (out : Path × Text) :
    recipe.produce root tree produced entry = .ok out ↔
      recipe.produce root other produced entry = .ok out := by
  have hmem : ∀ e ∈ entry :: rest, e ∈ recipe.entries := fun e he => by simp [hentries, he]
  obtain ⟨-, added, hadded, haddedKeys⟩ := runAll_overlay contained hroot hl hmem hover hwrites
  have hagree := agrees_of_settled hvalid contained forward hroot hsettled hkeys hentries
    (hfinal.symm.trans hadded) haddedKeys hover hother
  exact produce_congr contained hroot (hover.grows.walk hl) hl' hover.wellFormed wf
    (hmem entry (by simp)) hagree out

/-- A second run makes what the first one made, and makes no folder. -/
theorem runAll_lockstep {done entries : List RecipeEntry}
    (hentries : recipe.entries = done ++ entries)
    (hover : Overlay root l base produced tree) (hagain : Again root l settled produced other)
    (hwrites : recipe.Writes root tree produced entries)
    (hfinal : (recipe.runAll root tree produced entries).produced = final) :
    (recipe.runAll root other produced entries).produced = final ∧
      Again root l settled final (recipe.runAll root other produced entries).tree := by
  induction entries generalizing done tree other produced with
  | nil =>
    obtain rfl : produced = final := hfinal
    exact ⟨rfl, hagain⟩
  | cons entry rest ih =>
    have hentry : entry ∈ recipe.entries := by simp [hentries]
    have hmem : ∀ e ∈ rest, e ∈ recipe.entries := fun e he => by simp [hentries, he]
    have hentries' : recipe.entries = (done ++ [entry]) ++ rest := by simp [hentries]
    have hwalk := hover.grows.walk hl
    have hwalk' := hagain.grows.walk hsettled.walk
    have hsame := produce_again hvalid contained forward hroot hsettled hkeys hl hentries hover
      hwrites hfinal hwalk' hagain.wellFormed hagain.file?_of_lookup
    obtain ⟨hwrite, hrest⟩ := hwrites
    rcases step_cases hwrite with ⟨e, hproduce, hcommit, hrecord⟩ |
      ⟨path, text, after, written, hproduce, hcommit, hrecord, hstored⟩
    · rw [hcommit, hrecord] at hrest
      rw [runAll_cons hcommit hrecord] at hfinal
      have hfail : ¬(recipe.produce root other produced entry).isOk := by
        rw [← isOk_congr hsame, hproduce]
        exact Bool.false_ne_true
      obtain ⟨e', hcommit', hrecord'⟩ := step_of_not_isOk hfail
      rw [runAll_cons hcommit' hrecord']
      exact ih hentries' hover hagain hrest hfinal
    · rw [hcommit, hrecord] at hrest
      rw [runAll_cons hcommit hrecord] at hfinal
      obtain ⟨names, hpath, -⟩ := produce_target contained hroot hover.wellFormed hentry hproduce
      have hnext := hover.stored hl hpath hstored
      obtain ⟨last, -, hlast⟩ :=
        kept_of_stored contained hroot hl hsettled hmem hpath hnext hrest hfinal
      -- a file is there already: the first run left one, and this run may have replaced it
      obtain ⟨old, hold⟩ := hagain.file?_of_settled hlast
      obtain ⟨after', result', hcommit', hrecord', hafter⟩ := step_again hwalk hwalk'
        hagain.wellFormed hpath hstored ((hsame _).mp hproduce) hold
      rw [runAll_cons hcommit' hrecord']
      have hhome : other.home = tree.home :=
        hagain.grows.home.trans (hsettled.home.trans hover.grows.home.symm)
      exact ih hentries' hnext (hagain.next hsettled.walk hwalk hover hhome hpath hproduce hcommit
        hstored hafter) hrest hfinal

end Again

/-! ### Running again -/

theorem text_ne_nil_of_isFolder (h : tree.isFolder root = true) : root.text ≠ [] := by
  intro hnil
  obtain ⟨l, hl, -⟩ := Tree.isFolder_iff.mp h
  have hcheck := (Tree.locate_eq_ok_iff.mp hl).1
  have hroot : root = ⟨[]⟩ := by rw [← hnil]
  rw [hroot] at hcheck
  cases hcheck

theorem home_pruneOutput (contained : recipe.Contained) (hroot : root.text ≠ [])
    (produced : Produced) (hl : tree.walk root = .ok l) :
    (recipe.pruneOutput root tree produced).home = tree.home := by
  rcases pruneOutput_cases contained hroot produced hl with
    ⟨-, hprune⟩ | ⟨folder, -, -, hprune⟩ <;> rw [hprune]
  rfl

theorem wellFormed_pruneOutput (contained : recipe.Contained) (hroot : root.text ≠ [])
    (hl : tree.walk root = .ok l) (wf : tree.WellFormed) :
    (recipe.pruneOutput root tree produced).WellFormed := by
  rcases pruneOutput_cases contained hroot produced hl with
    ⟨-, hprune⟩ | ⟨folder, -, -, hprune⟩ <;> rw [hprune]
  · exact wf
  · exact wf.prune _ _

/-- A second run that has produced what the first one did has each file as the first run left it. -/
theorem Settled.file?_again (hsettled : recipe.Settled root l base final settled)
    (hagain : Again root l settled final tree) (m : Location) :
    tree.file? m = settled.file? m := by
  rcases hagain.file m with hsame | ⟨last, hlast, hfile⟩
  · exact hsame
  · unfold Produced.at? at hlast
    split at hlast
    · next hlead =>
      obtain ⟨names, rfl⟩ := List.isPrefixOf_iff_prefix.mp hlead
      rw [List.drop_left] at hlast
      rw [hfile, hsettled.kept names last hlast]
    · cases hlast

/-- Running a valid recipe again leaves the tree as the first run left it, where the paths of the
recipe stay below the root, the first run could write what it made, and no file outside the folder
for output is read after it was written. -/
theorem apply_apply [Digest] [Patterns] (hvalid : recipe.issues = []) (contained : recipe.Contained)
    (forward : recipe.FeedsForward) (wf : tree.WellFormed) (hfolder : tree.isFolder root = true)
    (hwrites : recipe.Writes root tree [] recipe.entries) :
    let first := (recipe.apply root tree).1
    let second := (recipe.apply root first).1
    second.home = first.home ∧ ∀ m, second.entry? m = first.entry? m := by
  have hroot := text_ne_nil_of_isFolder hfolder
  obtain ⟨l, hlocate, -⟩ := Tree.isFolder_iff.mp hfolder
  have hl := (Tree.locate_eq_ok_iff.mp hlocate).2
  obtain ⟨hover, hkeys⟩ := overlay_entries contained hroot hl wf hwrites
  have hwalk := hover.grows.walk hl
  have hhome := home_pruneOutput contained hroot
    (recipe.runAll root tree [] recipe.entries).produced hwalk
  intro first second
  by_cases hfirst : first.walk root = .ok l
  · have hsettled := settled_pruneOutput contained hroot hl hover hfirst
    obtain ⟨hproduced, hagain⟩ := runAll_lockstep hvalid contained forward hroot hsettled hkeys hl
      (List.nil_append _).symm (.refl wf) (.refl hsettled.wellFormed) hwrites rfl
    have hsame : ∀ m,
        (recipe.runAll root first [] recipe.entries).tree.entry? m = first.entry? m :=
      fun m => Tree.entry?_congr (hsettled.file?_again hagain m) (hagain.folders m)
    obtain ⟨hhome', hprune⟩ := pruneOutput_pruneOutput contained hroot hwalk
      (hagain.grows.walk hsettled.walk) hover.wellFormed hagain.wellFormed
      (hagain.grows.home.trans hhome) hsame
    have hsecond : second = recipe.pruneOutput root
        (recipe.runAll root first [] recipe.entries).tree
        (recipe.runAll root tree [] recipe.entries).produced := by
      rw [← hproduced]
      rfl
    rw [hsecond]
    exact ⟨hhome'.trans hagain.grows.home, fun m => (hprune m).trans (hsame m)⟩
  · -- the root was pruned away, so that the second run finds nothing
    have hno : ∀ l', first.walk root ≠ .ok l' := by
      intro l' hl'
      exact hfirst (Tree.walk_unique hhome hwalk hl' ▸ hl')
    have wf' : first.WellFormed := wellFormed_pruneOutput contained hroot hwalk hover.wellFormed
    have hnone : ∀ entry ∈ recipe.entries, ¬(recipe.produce root first [] entry).isOk :=
      fun entry hentry => not_isOk_produce contained hroot wf' hno hentry
    obtain ⟨htree, -⟩ := runAll_of_not_isOk hnone
    have hsecond : second = first := by
      rw [← htree] at hno
      exact (pruneOutput_of_not_walk contained hroot hno).trans htree
    rw [hsecond]
    exact ⟨rfl, fun _ => rfl⟩

/-- A component that a mod changes and a combination continues is built the same way twice. -/
theorem apply_apply_of_mod_and_combination :
    let _ := Digest.multiplicative
    let _ := Patterns.leftmostFirst
    let recipe : Recipe :=
      { info := { folders := ["out".toList, "core".toList] }
        mods := [{ id := ['m'], component := some "card".toList,
                   steps := [.findFirst, .setAttribute ['a'] ['1']] }]
        combinations := [{ id := ['c'], source := "out/Card.vue".toList,
                           override := "b.vue".toList }] }
    let root : Path := ⟨"/shop".toList⟩
    let tree : Tree := ⟨[], [(["shop".toList], .folder), (["shop".toList, "core".toList], .folder),
      (["shop".toList, "core".toList, "Card.vue".toList],
        .file (.text "<template><p></p></template>".toList)),
      (["shop".toList, "b.vue".toList], .file (.text "<style>.b{}</style>".toList))]⟩
    let first := (recipe.apply root tree).1
    let second := (recipe.apply root first).1
    (recipe.apply root tree).2 = [(['m'], .ok (.applied ⟨"/shop/out/Card.vue".toList⟩)),
        (['c'], .ok (.applied ⟨"/shop/out/Card.vue".toList⟩))] ∧
      second.home = first.home ∧ ∀ m, second.entry? m = first.entry? m := by
  intro digest patterns recipe root tree first second
  have hvalid : recipe.issues = [] := by decide +kernel
  have hwrites : recipe.Writes root tree [] recipe.entries := by decide +kernel
  refine ⟨by decide +kernel, ?_⟩
  exact apply_apply hvalid (by decide +kernel) (by decide +kernel) (by decide +kernel)
    (by decide +kernel) hwrites

/-- A combination that is written over its own source is merged into it once more by each run. -/
theorem not_apply_apply_of_own_source :
    let _ := Digest.multiplicative
    let _ := Patterns.leftmostFirst
    ¬∀ (recipe : Recipe) (root : Path) (tree : Tree), recipe.issues = [] → tree.WellFormed →
      tree.isFolder root = true →
      let first := (recipe.apply root tree).1
      let second := (recipe.apply root first).1
      ∀ m, second.entry? m = first.entry? m := by
  intro digest patterns hall
  let recipe : Recipe :=
    { combinations := [{ id := ['c'], source := "a.vue".toList, override := "b.vue".toList }] }
  let root : Path := ⟨"/shop".toList⟩
  let tree : Tree := ⟨[], [(["shop".toList], .folder),
    (["shop".toList, "a.vue".toList], .file (.text "<style>.a{}</style>".toList)),
    (["shop".toList, "b.vue".toList], .file (.text "<style>.b{}</style>".toList))]⟩
  let first := (recipe.apply root tree).1
  let second := (recipe.apply root first).1
  have hfirst : first.entry? ["shop".toList, "a.vue".toList] =
      some (.file (.text "<style>.a{}\n.b{}</style>".toList)) := by decide +kernel
  have hsecond : second.entry? ["shop".toList, "a.vue".toList] =
      some (.file (.text "<style>.a{}\n.b{}\n.b{}</style>".toList)) := by decide +kernel
  have hsame : second.entry? ["shop".toList, "a.vue".toList] =
      first.entry? ["shop".toList, "a.vue".toList] :=
    hall recipe root tree (by decide +kernel) (by decide +kernel) (by decide +kernel) _
  rw [hfirst, hsecond] at hsame
  revert hsame
  decide

end Recipe

end Graft
