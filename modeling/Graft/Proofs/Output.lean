import Graft.Proofs.Rebuild
import Graft.Proofs.Turn

/-! What a run leaves in the folder for output: the last text of each entry that succeeded, and
nothing else that pruning can reach. What is at a path that is too long stays, with the folders that
lead to it. -/

namespace Graft

open Text

/-- What names lead to from a folder leads on to an entry at a path that is too long. -/
def Tree.LeadsTooFar (tree : Tree) (folder : Path) (names : List Name) : Prop :=
  ∃ rest, (folder.descend (names ++ rest)).isTooLong = true ∧
    (tree.entry? (tree.place folder ++ (names ++ rest))).isSome

theorem Tree.not_leadsTooFar {tree : Tree} {folder : Path} {names : List Name} (hne : names ≠ [])
    (h : ∀ x ∈ tree.entries,
      (folder.descend (x.1.drop (tree.place folder).length)).isTooLong = false) :
    ¬tree.LeadsTooFar folder names := by
  rintro ⟨rest, hlong, hsome⟩
  obtain ⟨e, he⟩ := Option.isSome_iff_exists.mp hsome
  rw [Tree.entry?_of_ne_nil (by simp [hne]), List.lookup_eq_some_iff] at he
  obtain ⟨front, back, hentries, -⟩ := he
  have hshort := h (tree.place folder ++ (names ++ rest), e) (by simp [hentries])
  rw [List.drop_left, hlong] at hshort
  cases hshort

namespace Recipe

variable {recipe : Recipe} {root : Path} {l : Location} {base tree : Tree}
  {refused : List (Path × Text)} {produced written : Produced} {names : List Name} {text : Text}
  {folder : Text}

/-! ### The end of a run -/

section Settled

variable (contained : recipe.Contained) (hroot : root.text ≠ []) (hl : base.walk root = .ok l)
  (h : Progress root l base refused produced written tree)

include contained hroot hl h

/-- What was written stays. -/
theorem Progress.file?_pruneOutput (hlookup : written.lookup (root.below names) = some text) :
    (recipe.pruneOutput root tree produced).file? (l ++ names) = some (.text text) := by
  have wf := h.overlay.wellFormed
  have hfile : tree.file? (l ++ names) = some (.text text) := by
    rw [h.overlay.file, at?_append, hlookup]
    rfl
  have hkey : root.below names ∈ produced.keys :=
    h.recorded (Produced.isSome_lookup_iff.mp (by simp [hlookup]))
  rcases pruneOutput_cases contained hroot produced (h.overlay.grows.walk hl) with
    ⟨-, hprune⟩ | ⟨folder, hhead, -, hprune⟩
  · rw [hprune, hfile]
  · rw [hprune, ← hfile]
    by_cases hin : Path.names ⟨folder⟩ <+: names
    · obtain ⟨rest, rfl⟩ := hin
      rw [← List.append_assoc] at hfile ⊢
      rw [hfile, Tree.file?_eq_some_iff]
      refine Tree.entry?_prune_of_stays wf (Tree.file?_eq_some_iff.mp hfile) ?_
      rw [staysIn_file_iff contained hroot hhead, Produced.isSome_lookup_iff]
      exact .inr hkey
    · unfold Tree.file?
      rw [Tree.entry?_prune_of_not_below wf]
      rintro ⟨hlead, -⟩
      exact hin ((List.prefix_append_right_inj l).mp hlead)

/-- What is below the folder for output is there to be pruned. -/
theorem Progress.pruneOutput_eq (hhead : folder ∈ recipe.info.folders.head?)
    (hcheck : Tree.checkPath (root.join ⟨folder⟩) = .ok ())
    (hfolder : tree.entry? (l ++ Path.names ⟨folder⟩) = some .folder) :
    recipe.pruneOutput root tree produced =
      tree.prune (l ++ Path.names ⟨folder⟩) (staysIn produced (root.join ⟨folder⟩)) := by
  have hwalk := h.overlay.grows.walk hl
  rcases pruneOutput_cases contained hroot produced hwalk with
    ⟨hno, -⟩ | ⟨folder', hhead', -, hprune⟩
  · have hinside := inside_folder contained hroot (List.mem_of_mem_head? hhead)
    have hlocate := Tree.locate_of_folder hinside.spells hwalk hcheck h.overlay.wellFormed hfolder
    have hisFolder := Tree.isFolder_iff.mpr ⟨_, hlocate, hfolder⟩
    rw [hno folder hhead] at hisFolder
    cases hisFolder
  · obtain rfl := Option.mem_unique hhead hhead'
    exact hprune

/-- The path of a folder can be looked up if that of an entry that is left below it can: the names
that lead there are names of entries, so that the one path begins with the other. -/
theorem Progress.checkPath_folder {m : Location}
    (hcheck : Tree.checkPath ((root.join ⟨folder⟩).descend names) = .ok ())
    (hsome : (Tree.entry? (recipe.pruneOutput root tree produced) (m ++ names)).isSome) :
    Tree.checkPath (root.join ⟨folder⟩) = .ok () := by
  have wf : (recipe.pruneOutput root tree produced).WellFormed :=
    wellFormed_pruneOutput contained hroot (h.overlay.grows.walk hl) h.overlay.wellFormed
  have hnames : ∀ name ∈ names, '/' ∉ name := fun name hname =>
    ((wf.folder_of_append hsome).2 name hname).noSlash
  exact Tree.checkPath_of_isPrefix hcheck (Path.text_prefix_descend hnames)
    (Path.text_join_ne_nil hroot)

section Below

variable (hhead : folder ∈ recipe.info.folders.head?)
  (hcheck : Tree.checkPath (root.join ⟨folder⟩) = .ok ()) (hne : names ≠ [])

include hhead hcheck hne

theorem Progress.pruneOutput_below {e : Entry}
    (he : Tree.entry? (recipe.pruneOutput root tree produced)
      (l ++ Path.names ⟨folder⟩ ++ names) = some e) :
    recipe.pruneOutput root tree produced =
      tree.prune (l ++ Path.names ⟨folder⟩) (staysIn produced (root.join ⟨folder⟩)) := by
  have wf := h.overlay.wellFormed
  apply h.pruneOutput_eq contained hroot hl hhead hcheck
  have hentry : tree.entry? (l ++ Path.names ⟨folder⟩ ++ names) = some e := by
    rcases pruneOutput_cases contained hroot produced (h.overlay.grows.walk hl) with
      ⟨-, hprune⟩ | ⟨folder', -, -, hprune⟩
    · rwa [hprune] at he
    · rw [hprune, Tree.entry?_prune wf] at he
      split at he
      · cases he
      · exact he
  exact (wf.folder_of_append (by rw [hentry]; rfl)).1 hne

/-- What is left below the folder for output was there before the pruning, and leads on to an entry
that was to stay. -/
theorem Progress.exists_stays {e : Entry}
    (he : Tree.entry? (recipe.pruneOutput root tree produced)
      (l ++ Path.names ⟨folder⟩ ++ names) = some e) :
    tree.entry? (l ++ Path.names ⟨folder⟩ ++ names) = some e ∧ ∃ rest e',
      tree.entry? (l ++ Path.names ⟨folder⟩ ++ (names ++ rest)) = some e' ∧
      staysIn produced (root.join ⟨folder⟩) (names ++ rest) e' = true ∧
      Tree.entry? (recipe.pruneOutput root tree produced)
        (l ++ Path.names ⟨folder⟩ ++ (names ++ rest)) = some e' := by
  have wf := h.overlay.wellFormed
  have hprune := h.pruneOutput_below contained hroot hl hhead hcheck hne he
  rw [hprune] at he ⊢
  obtain ⟨hentry, rest, e', he', hstays⟩ := Tree.exists_stays_of_prune wf hne he
  exact ⟨hentry, rest, e', he', hstays, Tree.entry?_prune_of_stays wf he' hstays⟩

/-- A file that is left below the folder for output was written, or it was there before and was
refused, if its path is not too long. -/
theorem Progress.written_of_file?_pruneOutput
    (hshort : ((root.join ⟨folder⟩).descend names).isTooLong = false)
    (hfile : ((recipe.pruneOutput root tree produced).file?
      (l ++ Path.names ⟨folder⟩ ++ names)).isSome) :
    root.below (Path.names ⟨folder⟩ ++ names) ∈ written.keys ∨
      (base.file? (l ++ Path.names ⟨folder⟩ ++ names)).isSome ∧
        ∃ out ∈ refused, out.1.components = root.below (Path.names ⟨folder⟩ ++ names) := by
  have wf := h.overlay.wellFormed
  obtain ⟨content, hcontent⟩ := Option.isSome_iff_exists.mp hfile
  rw [h.pruneOutput_below contained hroot hl hhead hcheck hne
    (Tree.file?_eq_some_iff.mp hcontent)] at hcontent
  obtain ⟨htree, hstays⟩ := Tree.stays_of_file?_prune wf hne hcontent
  rw [staysIn_file_iff contained hroot hhead, hshort, Produced.isSome_lookup_iff] at hstays
  have hkey := hstays.resolve_left Bool.false_ne_true
  by_cases hnot : root.below (Path.names ⟨folder⟩ ++ names) ∈ written.keys
  · exact .inl hnot
  · rw [List.append_assoc] at htree ⊢
    have hold := h.file?_of_not_mem hnot
    rw [htree] at hold
    rcases h.missed _ hkey hnot with hnone | hout
    · rw [hnone] at hold
      cases hold
    · exact .inr ⟨by rw [← hold]; rfl, hout⟩

/-- A folder that is left below the folder for output leads to a file or to an entry at a path that
is too long, if its own path is not. -/
theorem Progress.exists_of_folder_pruneOutput
    (hshort : ((root.join ⟨folder⟩).descend names).isTooLong = false)
    (hfolder : Tree.entry? (recipe.pruneOutput root tree produced)
      (l ++ Path.names ⟨folder⟩ ++ names) = some .folder) :
    ∃ rest ≠ [], ((recipe.pruneOutput root tree produced).file?
        (l ++ Path.names ⟨folder⟩ ++ (names ++ rest))).isSome ∨
      ((root.join ⟨folder⟩).descend (names ++ rest)).isTooLong = true ∧
        (Tree.entry? (recipe.pruneOutput root tree produced)
          (l ++ Path.names ⟨folder⟩ ++ (names ++ rest))).isSome := by
  obtain ⟨he, rest, e', he', hstays, hleft⟩ :=
    h.exists_stays contained hroot hl hhead hcheck hne hfolder
  refine ⟨rest, ?_, ?_⟩
  · rintro rfl
    rw [List.append_nil, he] at he'
    obtain rfl := Option.some.inj he'
    rw [List.append_nil, staysIn_folder, hshort] at hstays
    cases hstays
  · cases e' with
    | file content => exact .inl (by rw [Tree.file?_eq_some_iff.mpr hleft]; rfl)
    | folder => exact .inr ⟨by simpa using hstays, by rw [hleft]; rfl⟩

end Below

end Settled

/-- What was written below a folder, by its path. -/
theorem mem_keys_below_iff (outputs : List (Option (Path × Text)))
    (hinside : Path.Inside root (root.join ⟨folder⟩) (Path.names ⟨folder⟩)) (names : List Name) :
    root.below (Path.names ⟨folder⟩ ++ names) ∈ (Produced.ofOutputs outputs).keys ↔
      ∃ out, some out ∈ outputs ∧
        out.1.components = (root.join ⟨folder⟩).components ++ names.map .normal := by
  rw [Produced.mem_keys_ofOutputs, hinside.components, Path.below_append]

/-- After a run, also of entries that fail, each file that was written holds the text that was last
written to it. Below the folder for output, as far as paths are not too long (and have no NUL), the
files are those that were written there, but for one that was there before and for which a text was
refused, and each folder leads to a file or to an entry at a path that is too long. -/
theorem apply_exact [Digest] [Patterns] (contained : recipe.Contained) (wf : tree.WellFormed)
    (hfolder : tree.isFolder root = true) :
    let after := (recipe.apply root tree).1
    let outputs := recipe.outputs root tree
    (recipe.apply root tree).2.map (fun result => result.2.toOption.map Written.file) =
        outputs.map (·.map Prod.fst) ∧
      (∀ front path text back, outputs = front ++ some (path, text) :: back →
        (∀ out, some out ∈ back → out.1.components ≠ path.components) →
        after.file? (tree.place path) = some (.text text)) ∧
      ∀ folder ∈ recipe.outputFolder? root, ∀ names ≠ [],
        Tree.checkPath (folder.descend names) = .ok () →
        ((∃ out, some out ∈ outputs ∧
            out.1.components = folder.components ++ names.map .normal) →
          (after.file? (tree.place folder ++ names)).isSome) ∧
        ((after.file? (tree.place folder ++ names)).isSome →
          (∃ out, some out ∈ outputs ∧
            out.1.components = folder.components ++ names.map .normal) ∨
          (tree.file? (tree.place folder ++ names)).isSome ∧
            ∃ out ∈ recipe.refused root tree,
              out.1.components = folder.components ++ names.map .normal) ∧
        (after.entry? (tree.place folder ++ names) = some .folder →
          (∃ rest ≠ [], (after.file? (tree.place folder ++ (names ++ rest))).isSome) ∨
            after.LeadsTooFar folder names) := by
  have hroot := text_ne_nil_of_isFolder hfolder
  obtain ⟨l, hlocate, hentry⟩ := Tree.isFolder_iff.mp hfolder
  have hl := (Tree.locate_eq_ok_iff.mp hlocate).2
  have hrun := progress_entries contained hroot hl hentry wf
  have hlast : ∀ names text, (Produced.ofOutputs (recipe.outputs root tree)).lookup
      (root.below names) = some text →
      (recipe.apply root tree).1.file? (l ++ names) = some (.text text) :=
    fun names text => hrun.file?_pruneOutput contained hroot hl
  intro after outputs
  refine ⟨files_apply wf, fun front path text back houtputs hback => ?_, fun folder houtput => ?_⟩
  · obtain ⟨names, hpath⟩ := inside_of_output contained hroot wf
      (show some (path, text) ∈ outputs by simp [houtputs])
    rw [Tree.place_of_spells hpath.spells, Tree.place_of_walk hl]
    apply hlast
    rw [show recipe.outputs root tree = _ from houtputs, ← hpath.components]
    exact Produced.lookup_ofOutputs hback
  · obtain ⟨folder, hhead, rfl⟩ := Option.map_eq_some_iff.mp houtput
    intro names hne hcheck
    have hinside := inside_folder contained hroot (List.mem_of_mem_head? hhead)
    have hkeys := mem_keys_below_iff outputs hinside names
    have hshort := Tree.isTooLong_of_checkPath hcheck
    have hplace : tree.place (root.join ⟨folder⟩) = l ++ Path.names ⟨folder⟩ := by
      rw [Tree.place_of_spells hinside.spells, Tree.place_of_walk hl]
    rw [hplace]
    refine ⟨fun hout => ?_, fun hfile => ?_, fun hleft => ?_⟩
    · obtain ⟨text, htext⟩ := Produced.exists_lookup (hkeys.mpr hout)
      rw [List.append_assoc, hlast _ _ htext]
      rfl
    · obtain ⟨content, hcontent⟩ := Option.isSome_iff_exists.mp hfile
      have hcheck := hrun.checkPath_folder contained hroot hl hcheck (Tree.isSome_of_file? hcontent)
      have hwritten :=
        hrun.written_of_file?_pruneOutput contained hroot hl hhead hcheck hne hshort hfile
      rwa [hkeys, Path.below_append, ← hinside.components] at hwritten
    · have hcheck := hrun.checkPath_folder contained hroot hl hcheck
        (Option.isSome_iff_exists.mpr ⟨_, hleft⟩)
      obtain ⟨rest, hrest, hfile | ⟨hlong, hsome⟩⟩ :=
        hrun.exists_of_folder_pruneOutput contained hroot hl hhead hcheck hne hshort hleft
      · exact .inl ⟨rest, hrest, hfile⟩
      · have hhome : after.home = tree.home :=
          (home_pruneOutput contained hroot _ (hrun.overlay.grows.walk hl)).trans
            hrun.overlay.grows.home
        exact .inr ⟨rest, hlong, by rwa [Tree.place_congr hhome, hplace]⟩

/-- A mod fails and the other one is written: what was in the folder for output is removed. -/
theorem apply_exact_of_failure :
    let _ := Digest.multiplicative
    let _ := Patterns.leftmostFirst
    let recipe : Recipe :=
      { info := { folders := ["out".toList, "core".toList] }
        mods := [
          { id := "m1".toList, component := some "none".toList, steps := [.findFirst] },
          { id := "m2".toList, component := some "card".toList,
            steps := [.findFirst, .setAttribute ['a'] ['1']] }] }
    let root : Path := ⟨"/shop".toList⟩
    let tree : Tree := ⟨[], [(["shop".toList], .folder), (["shop".toList, "core".toList], .folder),
      (["shop".toList, "core".toList, "Card.vue".toList],
        .file (.text "<template><p></p></template>".toList)),
      (["shop".toList, "out".toList], .folder),
      (["shop".toList, "out".toList, "Old.vue".toList], .file (.text "old".toList)),
      (["shop".toList, "out".toList, "empty".toList], .folder)]⟩
    let after := (recipe.apply root tree).1
    let outputs := recipe.outputs root tree
    let text := "<template>\n<p a=\"1\"></p>\n\n<!-- Kombinator: m2 -->\n</template>".toList
    outputs = [none, some (⟨"/shop/out/Card.vue".toList⟩, text)] ∧
      after.file? (tree.place ⟨"/shop/out/Card.vue".toList⟩) = some (.text text) ∧
      ∀ names ≠ [], Tree.checkPath (Path.descend ⟨"/shop/out".toList⟩ names) = .ok () →
        (after.file? (["shop".toList, "out".toList] ++ names)).isSome →
        ∃ out, some out ∈ outputs ∧ out.1.components =
          Path.components ⟨"/shop/out".toList⟩ ++ names.map .normal := by
  intro digest patterns recipe root tree after outputs text
  have houtputs : outputs = [none, some (⟨"/shop/out/Card.vue".toList⟩, text)] := by
    decide +kernel
  obtain ⟨-, hlast, hbelow⟩ :=
    apply_exact (show recipe.Contained by decide +kernel) (show tree.WellFormed by decide +kernel)
      (show tree.isFolder root = true by decide +kernel)
  have hrefused : recipe.refused root tree = [] := by decide +kernel
  refine ⟨houtputs, hlast [none] _ text [] houtputs (by simp), fun names hne hcheck hfile => ?_⟩
  refine ((hbelow ⟨"/shop/out".toList⟩ rfl names hne hcheck).2.1 hfile).resolve_right ?_
  rintro ⟨-, out, hout, -⟩
  rw [hrefused] at hout
  cases hout

/-- A file at a path that is too long stays in the folder for output, though no entry wrote it. -/
theorem not_apply_exact_of_long_path :
    let _ := Digest.multiplicative
    let _ := Patterns.leftmostFirst
    ¬∀ (recipe : Recipe) (root : Path) (tree : Tree), recipe.issues = [] → recipe.Plain →
      tree.WellFormed → tree.isFolder root = true →
      ∀ folder ∈ recipe.outputFolder? root, ∀ names ≠ [],
        ((recipe.apply root tree).1.file? (tree.place folder ++ names)).isSome →
          ∃ out, some out ∈ recipe.outputs root tree ∧
            out.1.components = folder.components ++ names.map .normal := by
  intro digest patterns hall
  let recipe : Recipe :=
    { info := { folders := ["out".toList, "core".toList] }
      combinations := [{ id := ['c'], source := "a.vue".toList, override := "b.vue".toList,
                         output := some "out/c.vue".toList }] }
  let name : Name := List.replicate 255 'd'
  let tree : Tree := ⟨[], [(["shop".toList], .folder),
      (["shop".toList, "a.vue".toList], .file (.text "<style>.a{}</style>".toList)),
      (["shop".toList, "b.vue".toList], .file (.text "<style>.b{}</style>".toList)),
      (["shop".toList, "out".toList], .folder)] ++
    (List.range 15).map (fun depth => (["shop".toList, "out".toList] ++
      List.replicate (depth + 1) name, .folder)) ++
    [(["shop".toList, "out".toList] ++ List.replicate 16 name, .file (.text "old".toList))]⟩
  let root : Path := ⟨"/shop".toList⟩
  have houtputs : (recipe.outputs root tree).map (·.map Prod.fst) =
      [some ⟨"/shop/out/c.vue".toList⟩] := by
    decide +kernel
  have hstale : ((recipe.apply root tree).1.file? (tree.place ⟨"/shop/out".toList⟩ ++
      List.replicate 16 name)).isSome := by
    decide +kernel
  obtain ⟨out, hout, hcomponents⟩ := hall recipe root tree (by decide +kernel) (by decide +kernel)
    (by decide +kernel) (by decide +kernel) ⟨"/shop/out".toList⟩ rfl (List.replicate 16 name)
    (by simp) hstale
  have hfile := List.mem_map_of_mem (f := (·.map Prod.fst)) hout
  rw [houtputs, List.mem_singleton] at hfile
  rw [Option.some.inj hfile] at hcomponents
  revert hcomponents
  decide +kernel

end Recipe

end Graft
