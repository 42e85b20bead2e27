import Graft.Proofs.Place
import Graft.Proofs.Rebuild
import Graft.Proofs.Target

/-! The folder for output and the folders that are searched. When no issue is found with the folders
of a recipe, a folder that is searched and is written without `..` lies apart from the folder for
output, once both paths are resolved by the text alone. What lies apart from the folder for output
is not pruned with it. -/

namespace Graft

open Text

namespace Path

/-- Neither of two paths leads to the other or on to it, once both are resolved. -/
structure Apart (p q : Path) : Prop where
  not_leads : ¬p.resolved <+: q.resolved
  not_led : ¬q.resolved <+: p.resolved

instance (p q : Path) : Decidable (p.Apart q) :=
  decidable_of_iff (¬p.resolved <+: q.resolved ∧ ¬q.resolved <+: p.resolved)
    ⟨fun h => ⟨h.1, h.2⟩, fun h => ⟨h.1, h.2⟩⟩

variable {p q : Path}

/-! ### Paths without `..` -/

theorem parent_mem_components_iff : .parent ∈ p.components ↔ ['.', '.'] ∈ p.pieces := by
  have hsteps : .parent ∈ p.components ↔ .parent ∈ p.names.map part := by
    rw [← filter_isStep_components, List.mem_filter]
    simp [isStep]
  rw [hsteps, List.mem_map]
  constructor
  · rintro ⟨piece, hpiece, heq⟩
    unfold part at heq
    split at heq
    · next hparent => exact hparent ▸ List.mem_of_mem_filter hpiece
    · cases heq
  · intro h
    exact ⟨_, List.mem_filter.mpr ⟨h, by simp [isPassed]⟩, if_pos rfl⟩

theorem inner_iff : p.Inner ↔ p.isAbsolute = false ∧ .parent ∉ p.components := by
  rw [parent_mem_components_iff]
  exact ⟨fun h => ⟨h.relative, h.noParent⟩, fun h => ⟨h.1, h.2⟩⟩

theorem foldl_onto_normal (names : List Name) (above : List Component) :
    (names.map Component.normal).foldl Component.onto above =
      (names.map .normal).reverse ++ above := by
  induction names generalizing above with
  | nil => rfl
  | cons name names ih =>
    rw [List.map_cons, List.foldl_cons, ih, List.reverse_cons, List.append_assoc]
    rfl

theorem Inner.resolved_eq (h : p.Inner) : p.resolved = p.names.map .normal := by
  rw [resolved_of_relative h.relative, filterMap_componentOf? h.noParent, foldl_onto_normal,
    List.append_nil, List.reverse_reverse]
  rfl

theorem inner_of_isPlain (h : Issue.isPlain p = true) : p.Inner := by
  rw [Issue.isPlain, Bool.and_eq_true, List.all_eq_true] at h
  refine inner_iff.mpr ⟨?_, fun hparent => by simpa using h.2 _ hparent⟩
  rw [Bool.eq_false_iff, Ne, ← root_mem_components_iff]
  exact fun hroot => by simpa using h.2 _ hroot

theorem names_ne_nil_of_isPlain (h : Issue.isPlain p = true) : p.names ≠ [] := by
  intro hnames
  have hcomponents := Issue.components_of_isPlain h (inner_of_isPlain h)
  rw [hnames] at hcomponents
  simp [Issue.isPlain, hcomponents] at h

/-! ### Where a path leads that stays -/

/-- A piece that does not lead out leads on to the names that it comes to. -/
theorem step_of_stays {piece : Text} {names : List Name} (hproper : isPassed piece = false)
    (h : .parent ∉ Component.onto (names.map .normal).reverse (part piece)) :
    ∃ next, Component.onto (names.map .normal).reverse (part piece) =
        (next.map .normal).reverse ∧
      ∀ l, Tree.step (l ++ names) piece = l ++ next := by
  by_cases hparent : piece = ['.', '.']
  · rw [part, if_pos hparent] at h ⊢
    rcases List.eq_nil_or_concat' names with rfl | ⟨front, name, rfl⟩
    · -- there is no name that the piece could take away
      simp [Component.onto] at h
    · refine ⟨front, by simp [Component.onto], fun l => ?_⟩
      rw [Tree.step, if_neg (by simp [hproper]), if_pos hparent, ← List.append_assoc,
        List.dropLast_concat]
  · rw [part, if_neg hparent]
    refine ⟨names ++ [piece], by simp [Component.onto], fun l => ?_⟩
    rw [Tree.step, if_neg (by simp [hproper]), if_neg hparent, List.append_assoc]

/-- Pieces that never lead out of where they start lead on to the names that they come to. -/
theorem foldl_step_of_stays {pieces : List Text} (names : List Name)
    (h : .parent ∉ (pieces.filterMap componentOf?).foldl Component.onto
      (names.map .normal).reverse) :
    ∃ last, (pieces.filterMap componentOf?).foldl Component.onto (names.map .normal).reverse =
        (last.map .normal).reverse ∧
      ∀ l, pieces.foldl Tree.step (l ++ names) = l ++ last := by
  induction pieces generalizing names with
  | nil => exact ⟨names, rfl, fun l => rfl⟩
  | cons piece pieces ih =>
    cases hpassed : isPassed piece with
    | true =>
      rw [List.filterMap_cons_none (componentOf?_eq_none_iff.mpr hpassed)] at h ⊢
      obtain ⟨last, hlast, hsteps⟩ := ih names h
      refine ⟨last, hlast, fun l => ?_⟩
      rw [List.foldl_cons, Tree.step, if_pos hpassed, hsteps]
    | false =>
      rw [List.filterMap_cons_some (componentOf?_eq_part hpassed), List.foldl_cons] at h ⊢
      obtain ⟨next, hnext, hstep⟩ :=
        step_of_stays hpassed fun hparent => h (parent_mem_foldl hparent _)
      rw [hnext] at h ⊢
      obtain ⟨last, hlast, hsteps⟩ := ih next h
      refine ⟨last, hlast, fun l => ?_⟩
      rw [List.foldl_cons, hstep, hsteps]

theorem Stays.exists_names (h : p.Stays) : ∃ names, p.resolved = names.map .normal ∧
    ∀ (tree : Tree) (base : Path), tree.place (base.join p) = tree.place base ++ names := by
  have hparent := h.noParent
  rw [resolved_of_relative h.relative, List.mem_reverse] at hparent
  obtain ⟨names, hnames, hsteps⟩ := foldl_step_of_stays [] hparent
  refine ⟨names, ?_, fun tree base => ?_⟩
  · rw [resolved_of_relative h.relative, ← List.reverse_reverse (names.map _), ← hnames]
    rfl
  · rw [Tree.place_join_of_relative base h.relative, ← hsteps, List.append_nil]

theorem Inner.apart_iff (hp : p.Inner) (hq : q.Inner) :
    p.Apart q ↔ ¬p.names <+: q.names ∧ ¬q.names <+: p.names := by
  have hleads_iff : ∀ {p q : Path}, p.Inner → q.Inner →
      (p.resolved <+: q.resolved ↔ p.names <+: q.names) := by
    intro p q hp hq
    rw [hp.resolved_eq, hq.resolved_eq, List.prefix_map_iff_of_injective normal_injective]
  rw [← hleads_iff hp hq, ← hleads_iff hq hp]
  exact ⟨fun h => ⟨h.not_leads, h.not_led⟩, fun h => ⟨h.1, h.2⟩⟩

end Path

namespace Tree

variable {tree : Tree} {root p q : Path} {names : List Name}

/-- Neither of two paths leads to the place of the other or to one below it. -/
structure Apart (tree : Tree) (p q : Path) : Prop where
  not_leads : ¬tree.place p <+: tree.place q
  not_led : ¬tree.place q <+: tree.place p

/-- Paths that stay where they start lie apart wherever that is. -/
theorem apart_join_iff (hp : p.Stays) (hq : q.Stays) :
    tree.Apart (root.join p) (root.join q) ↔ p.Apart q := by
  have hleads_iff : ∀ {p q : Path}, p.Stays → q.Stays →
      (tree.place (root.join p) <+: tree.place (root.join q) ↔ p.resolved <+: q.resolved) := by
    intro p q hp hq
    obtain ⟨names, hresolved, hplace⟩ := hp.exists_names
    obtain ⟨names', hresolved', hplace'⟩ := hq.exists_names
    rw [hplace, hplace', hresolved, hresolved', List.prefix_append_right_inj,
      List.prefix_map_iff_of_injective Path.normal_injective]
  constructor
  · rintro ⟨hleads, hled⟩
    exact ⟨mt (hleads_iff hp hq).mpr hleads, mt (hleads_iff hq hp).mpr hled⟩
  · rintro ⟨hleads, hled⟩
    exact ⟨mt (hleads_iff hp hq).mp hleads, mt (hleads_iff hq hp).mp hled⟩

/-- Nothing at the place of a path or below it is at the place of the other or below that. -/
theorem Apart.not_below (h : tree.Apart p q) (names : List Name) :
    ¬tree.place p <+: tree.place q ++ names := by
  intro hlead
  have hself := List.prefix_append (tree.place q) names
  rcases List.prefix_or_prefix_of_prefix hlead hself with h' | h'
  · exact h.not_leads h'
  · exact h.not_led h'

end Tree

namespace Issue

/-- Whether an issue is one of a recipe's folders. -/
def concernsFolders : Issue → Bool
  | .missingField _ .folders | .conflict _ (.outputNotBelowRoot _) | .conflict _ .noSourceFolder
  | .conflict _ (.overlap _ _) => true
  | _ => false

theorem concernsFolders_of_mem {issue : Issue} {folders : List Text}
    (h : issue ∈ ofFolders folders) : issue.concernsFolders = true := by
  cases folders with
  | nil => cases h
  | cons output sources =>
    simp only [ofFolders, List.mem_append, List.mem_map] at h
    rcases h with (h | h) | ⟨source, -, rfl⟩
    · split at h <;> simp_all [concernsFolders]
    · split at h <;> simp_all [concernsFolders]
    · rfl

end Issue

namespace Recipe

variable {recipe : Recipe} {output : Text} {sources : List Text}

theorem ofFolders_eq_nil [Patterns] (hfolders : recipe.info.folders = output :: sources)
    (hvalid : ∀ issue ∈ recipe.issues, issue.concernsFolders = false) :
    Issue.ofFolders (output :: sources) = [] := by
  rw [List.eq_nil_iff_forall_not_mem]
  intro issue hissue
  have hmem : issue ∈ recipe.issues := by
    simp [issues, hfolders, hissue]
  have hfalse := hvalid issue hmem
  rw [Issue.concernsFolders_of_mem hissue] at hfalse
  cases hfalse

/-- Only what is below the place of the folder for output is taken away. -/
theorem entry?_pruneOutput_of_not_below (hfolders : recipe.info.folders = output :: sources)
    {root : Path} {tree : Tree} (wf : tree.WellFormed) (produced : Produced) {m : Location}
    (hm : ¬tree.place (root.join ⟨output⟩) <+: m) :
    Tree.entry? (recipe.pruneOutput root tree produced) m = tree.entry? m := by
  have hfolder : recipe.outputFolder? root = some (root.join ⟨output⟩) := by
    rw [outputFolder?, hfolders]
    rfl
  unfold pruneOutput
  rw [hfolder]
  dsimp only
  split
  · rfl
  · next l hlocate =>
    split
    · rw [Tree.place_of_locate hlocate] at hm
      exact Tree.entry?_prune_of_not_below wf fun hbelow => hm hbelow.1
    · rfl

/-- The folder for output is below the root, and a folder that is searched and is written without
`..` lies apart from it, when a recipe has no issue with its folders. That holds of the places to
which the paths lead too, and what is in a folder that lies apart is not pruned. -/
theorem folders_apart [Patterns] (recipe : Recipe) (output : Text) (sources : List Text)
    (hfolders : recipe.info.folders = output :: sources)
    (hvalid : ∀ issue ∈ recipe.issues, issue.concernsFolders = false) :
    (∃ names ≠ [], Path.resolved ⟨output⟩ = names.map .normal) ∧
    ∀ source ∈ sources, Path.isAbsolute ⟨source⟩ = false →
      (.parent ∉ Path.components ⟨source⟩ →
        Path.Stays ⟨source⟩ ∧ Path.Apart ⟨output⟩ ⟨source⟩) ∧
      ∀ (root : Path) (tree : Tree), tree.WellFormed →
        (Path.Stays ⟨source⟩ → (tree.Apart (root.join ⟨output⟩) (root.join ⟨source⟩) ↔
          Path.Apart ⟨output⟩ ⟨source⟩)) ∧
        (tree.Apart (root.join ⟨output⟩) (root.join ⟨source⟩) → ∀ names,
          ¬tree.place (root.join ⟨output⟩) <+: tree.place (root.join ⟨source⟩) ++ names ∧
          ∀ produced, Tree.entry? (recipe.pruneOutput root tree produced)
              (tree.place (root.join ⟨source⟩) ++ names) =
            tree.entry? (tree.place (root.join ⟨source⟩) ++ names)) := by
  obtain ⟨hplain, -, hoverlaps⟩ :=
    Issue.ofFolders_eq_nil_iff.mp (ofFolders_eq_nil hfolders hvalid)
  have houtput := Path.inner_of_isPlain hplain
  refine ⟨⟨_, Path.names_ne_nil_of_isPlain hplain, houtput.resolved_eq⟩,
    fun source hsource hrelative => ⟨fun hparent => ?_, fun root tree wf =>
      ⟨fun hstays => Tree.apart_join_iff houtput.stays hstays, fun hapart names => ?_⟩⟩⟩
  · have hinner : Path.Inner ⟨source⟩ := Path.inner_iff.mpr ⟨hrelative, hparent⟩
    exact ⟨hinner.stays, (houtput.apart_iff hinner).mpr
      ((Issue.overlaps_eq_false_iff hplain houtput hinner).mp (hoverlaps source hsource))⟩
  · have hbelow := hapart.not_below names
    exact ⟨hbelow, fun produced => entry?_pruneOutput_of_not_below hfolders wf produced hbelow⟩

/-- A folder that is written with `.` and doubled slashes lies apart, and so does one whose `..`
leads elsewhere, so that its file stays where it is. -/
theorem folders_apart_of_spellings :
    let _ := Patterns.leftmostFirst
    let recipe : Recipe :=
      { info := { folders := ["out/new".toList, "./core//".toList, "lib/../out/old".toList] }
        combinations := [{ id := ['c'], source := ['a'], override := ['b'] }] }
    let root : Path := ⟨"/shop".toList⟩
    let place : Location := ["shop".toList, "out".toList, "old".toList, "Card.vue".toList]
    let tree : Tree := ⟨[], [(["shop".toList], .folder), (["shop".toList, "out".toList], .folder),
      (["shop".toList, "out".toList, "new".toList], .folder),
      (["shop".toList, "out".toList, "old".toList], .folder), (place, .file (.text []))]⟩
    Path.Apart ⟨"out/new".toList⟩ ⟨"./core//".toList⟩ ∧
      Tree.entry? (recipe.pruneOutput root tree []) place = some (.file (.text [])) := by
  intro patterns recipe root place tree
  have hfolders := (folders_apart recipe "out/new".toList
    ["./core//".toList, "lib/../out/old".toList] rfl (by decide +kernel)).2
  refine ⟨((hfolders _ (by decide) rfl).1 (by decide +kernel)).2, ?_⟩
  obtain ⟨hplaces, hkept⟩ := (hfolders "lib/../out/old".toList (by decide) rfl).2 root tree
    (by decide +kernel)
  have hstays : Path.Stays ⟨"lib/../out/old".toList⟩ := ⟨by decide +kernel, by decide +kernel⟩
  have hapart := (hplaces hstays).mpr (by decide +kernel)
  exact ((hkept hapart ["Card.vue".toList]).2 []).trans (by decide +kernel)

/-- A folder that is searched can be the folder for output itself, when it is written with `..`. -/
theorem not_folders_apart_of_parent :
    let _ := Patterns.leftmostFirst
    ¬∀ (recipe : Recipe) (output : Text) (sources : List Text),
      recipe.info.folders = output :: sources →
        (∀ issue ∈ recipe.issues, issue.concernsFolders = false) →
          ∀ source ∈ sources, Path.isAbsolute ⟨source⟩ = false →
            Path.Apart ⟨output⟩ ⟨source⟩ := by
  intro patterns hall
  let recipe : Recipe :=
    { info := { folders := ["out".toList, "core/../out".toList] }
      combinations := [{ id := ['c'], source := ['a'], override := ['b'] }] }
  have hapart := hall recipe "out".toList ["core/../out".toList] rfl (by decide +kernel)
    "core/../out".toList List.mem_cons_self (by decide +kernel)
  exact absurd hapart (by decide +kernel)

end Recipe

end Graft
