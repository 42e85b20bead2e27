import Graft.Proofs.Validity

/-! Where the files of mods lie once the `.` and `..` of their paths are resolved by the text alone.
A path that does not leave the place it starts from leads to a file inside the folder for output. -/

namespace Graft

open Text

/-- The components of a path, the last first, with one more: a `..` takes the name before it away,
and comes to nothing at the root. -/
def Component.onto (above : List Component) : Component → List Component
  | .current => above
  | .parent =>
    match above with
    | .normal _ :: rest => rest
    | .root :: rest => .root :: rest
    | _ => .parent :: above
  | c => c :: above

namespace Path

/-- The components of a path with `.` and `..` resolved. A relative path keeps each `..` that leads
out of the place where it starts. -/
def resolved (p : Path) : List Component := (p.components.foldl Component.onto []).reverse

/-- A path leads strictly into a folder. -/
structure StrictlyInside (folder p : Path) : Prop where
  leads : folder.resolved <+: p.resolved
  ne : p.resolved ≠ folder.resolved

/-- A relative path that leads nowhere outside the place where it starts. -/
structure Stays (p : Path) : Prop where
  relative : p.isAbsolute = false
  noParent : .parent ∉ p.resolved

/-! ### The resolution of components -/

variable {above cs : List Component}

theorem parent_mem_onto (h : .parent ∈ above) (c : Component) : .parent ∈ c.onto above := by
  unfold Component.onto
  split
  · exact h
  · split
    · next name rest => simpa using h
    · exact h
    · exact List.mem_cons_self
  · exact List.mem_cons_of_mem _ h

theorem parent_mem_foldl (h : .parent ∈ above) (cs : List Component) :
    .parent ∈ cs.foldl Component.onto above := by
  induction cs generalizing above with
  | nil => exact h
  | cons c cs ih => exact ih (parent_mem_onto h c)

/-- What comes before a path that does not leave its start has no part in its resolution. -/
theorem foldl_onto_append (hnames : ∀ c ∈ above, ∃ name, c = .normal name) (hroot : .root ∉ cs)
    (hparent : .parent ∉ cs.foldl Component.onto above) (below : List Component) :
    cs.foldl Component.onto (above ++ below) = cs.foldl Component.onto above ++ below := by
  induction cs generalizing above with
  | nil => rfl
  | cons c cs ih =>
    rw [List.mem_cons, not_or] at hroot
    obtain ⟨hc, hroot⟩ := hroot
    rw [List.foldl_cons] at hparent ⊢
    cases c with
    | root => exact absurd rfl hc
    | current => exact ih hnames hroot hparent
    | normal name =>
      refine ih (fun c hmem => ?_) hroot hparent
      rcases List.mem_cons.mp hmem with rfl | hmem
      · exact ⟨name, rfl⟩
      · exact hnames c hmem
    | parent =>
      cases above with
      | nil => exact absurd (parent_mem_foldl List.mem_cons_self cs) hparent
      | cons c above =>
        obtain ⟨name, rfl⟩ := hnames c List.mem_cons_self
        exact ih (fun c hmem => hnames c (List.mem_cons_of_mem _ hmem)) hroot hparent

theorem parent_not_mem_foldl (habove : .parent ∉ above) (hcs : .parent ∉ cs) :
    .parent ∉ cs.foldl Component.onto above := by
  induction cs generalizing above with
  | nil => exact habove
  | cons c cs ih =>
    rw [List.mem_cons, not_or] at hcs
    refine ih ?_ hcs.2
    cases c with
    | root => simpa [Component.onto] using habove
    | current => exact habove
    | normal name => simpa [Component.onto] using habove
    | parent => exact absurd rfl hcs.1

/-! ### Resolved paths -/

variable {base p : Path}

theorem resolved_of_relative (h : p.isAbsolute = false) :
    p.resolved = ((p.pieces.filterMap componentOf?).foldl Component.onto []).reverse := by
  obtain ⟨first, rest, hpieces⟩ := List.exists_cons_of_ne_nil p.pieces_ne_nil
  rw [resolved, components_of_pieces hpieces, hpieces, h]
  by_cases hdot : first = ['.']
  · simp [hdot, componentOf?, Component.onto]
  · cases hfirst : componentOf? first <;> simp [hdot, hfirst]

theorem root_not_mem_filterMap (pieces : List Text) :
    .root ∉ pieces.filterMap componentOf? := by
  rw [filterMap_componentOf?_eq_map_part, List.mem_map]
  rintro ⟨piece, -, h⟩
  unfold part at h
  split at h <;> cases h

theorem Stays.resolved_join (h : p.Stays) (hbase : base.text ≠ []) :
    (base.join p).resolved = base.resolved ++ p.resolved := by
  have hparent : .parent ∉ (p.pieces.filterMap componentOf?).foldl Component.onto [] := by
    have hno := h.noParent
    rwa [resolved_of_relative h.relative, List.mem_reverse] at hno
  have happend := foldl_onto_append (by simp) (root_not_mem_filterMap p.pieces) hparent
    (base.components.foldl Component.onto [])
  rw [List.nil_append] at happend
  rw [resolved_of_relative h.relative, resolved, resolved, components_join hbase h.relative,
    List.foldl_append, happend, List.reverse_append]

theorem Inner.stays (h : p.Inner) : p.Stays := by
  refine ⟨h.relative, ?_⟩
  rw [resolved_of_relative h.relative, filterMap_componentOf? h.noParent, List.mem_reverse]
  exact parent_not_mem_foldl (by simp) (by simp)

/-- The last piece of a path is a name and stands last when the path is resolved. -/
theorem resolved_ne_nil {before : List Text} {name : Name} (hname : IsEntryName name)
    (hpieces : p.pieces = before ++ [name]) (h : p.isAbsolute = false) : p.resolved ≠ [] := by
  have hcomponent : componentOf? name = some (.normal name) := by
    rw [componentOf?_eq_part hname.proper, part, if_neg hname.notParent]
  rw [resolved_of_relative h, hpieces, List.filterMap_append,
    List.filterMap_cons_some hcomponent, List.filterMap_nil, List.foldl_append]
  simp [Component.onto]

theorem getLast?_pieces_join (h : p.isAbsolute = false) :
    (base.join p).pieces.getLast? = p.pieces.getLast? := by
  have hlast (init : List Text) : (init ++ p.pieces).getLast? = p.pieces.getLast? := by
    rw [List.getLast?_append, List.getLast?_eq_some_getLast p.pieces_ne_nil, Option.some_or]
  rcases pieces_join base h with hjoin | ⟨init, -, hjoin⟩
  · rw [hjoin, hlast]
  · rw [hjoin, hlast]

/-- A path to a name that does not leave its start leads strictly into the folder it is joined
to. -/
theorem Stays.strictlyInside (h : p.Stays) (hbase : base.text ≠ []) {before : List Text}
    {name : Name} (hname : IsEntryName name) (hpieces : (base.join p).pieces = before ++ [name]) :
    base.StrictlyInside (base.join p) := by
  have hjoin := h.resolved_join hbase
  have hlast : p.pieces.getLast? = some name := by
    have hsame : (base.join p).pieces.getLast? = p.pieces.getLast? :=
      getLast?_pieces_join h.relative
    rw [← hsame, hpieces, List.getLast?_concat]
  obtain ⟨init, hinit⟩ := List.getLast?_eq_some_iff.mp hlast
  have hne := resolved_ne_nil hname hinit h.relative
  constructor
  · rw [hjoin]
    exact List.prefix_append _ _
  · rw [hjoin]
    simpa using hne

end Path

/-! ### The files of mods -/

/-- The path in the folder for output that a mod gives: that of its output, or else of its file. A
component that a mod names has a path of its own. -/
def Mod.place? (entry : Mod) : Option Path :=
  (entry.output.map (⟨·⟩)).or (entry.file.map Recipe.relativeOf)

namespace Recipe

variable {recipe : Recipe} {root : Path} {tree : Tree} {produced : Produced} {entry : Mod}

/-- What is found lies at names in its folder, or at the file that the mod gives. -/
theorem relative_of_findSource (wf : tree.WellFormed) {source : ComponentFile}
    (h : recipe.findSource root tree entry = .ok source) :
    source.relative.Inner ∨ ∃ file ∈ entry.file, source.relative = relativeOf file := by
  unfold findSource at h
  split at h
  · obtain ⟨found, hfound, hload⟩ := bind_eq_ok_iff.mp (mapError_eq_ok_iff.mp h)
    obtain ⟨folder, -, names, hnames, rfl⟩ := findComponent_eq_ok wf hfound
    rw [(load_frame hload).2]
    exact .inl (inner_ofNames hnames)
  · next file _ hfile =>
    obtain ⟨found, hfound, hload⟩ := bind_eq_ok_iff.mp (mapError_eq_ok_iff.mp h)
    obtain ⟨folder, -, rfl⟩ := findFile_eq_ok_iff.mp hfound
    exact .inr ⟨file, hfile, (load_frame hload).2⟩
  · cases h

/-- The folder for output of a recipe without issues that has mods. -/
theorem exists_outputFolder [Patterns] (hvalid : recipe.issues = []) (hentry : entry ∈ recipe.mods)
    (root : Path) : ∃ folder, recipe.outputFolder? root = some folder ∧ folder.text ≠ [] := by
  have hmods : recipe.mods.isEmpty = false := by
    rw [List.isEmpty_eq_false_iff]
    exact List.ne_nil_of_mem hentry
  simp only [issues, List.append_eq_nil_iff] at hvalid
  obtain ⟨⟨⟨-, hfolders⟩, -⟩, -⟩ := hvalid
  cases hlist : recipe.info.folders with
  | nil => simp [hlist, hmods] at hfolders
  | cons output sources =>
    refine ⟨root.join ⟨output⟩, by rw [outputFolder?, hlist]; rfl, ?_⟩
    have houtput : output ≠ [] := by
      rintro rfl
      rw [hlist, List.isEmpty_cons, Bool.and_false, if_neg Bool.false_ne_true,
        Issue.ofFolders] at hfolders
      cases hfolders
    unfold Path.join
    split
    · exact houtput
    · split <;> simp [houtput]

section Digest

variable [Digest] [Patterns]

theorem target_of_produce {path : Path} {text : Text}
    (h : recipe.produce root tree produced (.mod entry) = .ok (path, text)) :
    ∃ source folder, recipe.findSource root tree entry = .ok source ∧
      recipe.outputFolder? root = some folder ∧
      path = folder.join ((entry.output.map (⟨·⟩)).getD source.relative) := by
  unfold produce at h
  obtain ⟨file, hfile, hrest⟩ := bind_eq_ok_iff.mp h
  obtain ⟨revised, hrevised, htarget⟩ := bind_eq_ok_iff.mp hrest
  obtain ⟨houtput, hrelative⟩ := revise_frame hrevised
  rw [output_of_loadComponent hfile] at houtput
  rw [loadComponent_eq, map_eq_ok_iff] at hfile
  obtain ⟨source, hsource, rfl⟩ := hfile
  rw [(continued_frame produced source).2] at hrelative
  split at htarget
  · cases htarget
  · next target hpath =>
    obtain ⟨rfl, -⟩ := Prod.mk.inj (Except.ok.inj htarget)
    rw [ComponentFile.target?, houtput, hrelative, Option.map_eq_some_iff] at hpath
    obtain ⟨folder, hfolder, rfl⟩ := hpath
    exact ⟨source, folder, hsource, hfolder, rfl⟩

/-- A mod makes a file in the folder for output when the path that it gives, if any, stays in it. -/
theorem stays_of_produce (wf : tree.WellFormed) (hplace : ∀ p ∈ entry.place?, p.Stays)
    {path : Path} {text : Text}
    (h : recipe.produce root tree produced (.mod entry) = .ok (path, text)) :
    ∃ folder p, recipe.outputFolder? root = some folder ∧ Path.Stays p ∧
      path = folder.join p := by
  obtain ⟨source, folder, hsource, hfolder, rfl⟩ := target_of_produce h
  refine ⟨folder, _, hfolder, ?_, rfl⟩
  unfold Mod.place? at hplace
  cases houtput : entry.output with
  | some output =>
    rw [houtput] at hplace
    exact hplace ⟨output⟩ rfl
  | none =>
    rcases relative_of_findSource wf hsource with hinner | ⟨file, hfile, hrelative⟩
    · exact hinner.stays
    · rw [houtput, Option.mem_def.mp hfile] at hplace
      rw [Option.map_none, Option.getD_none, hrelative]
      exact hplace (relativeOf file) rfl

/-- The file of each mod that succeeds lies strictly inside the folder for output, when the path
that the mod gives, if any, does not lead out of where it starts. -/
theorem strictlyInside_of_apply (hvalid : recipe.issues = []) (wf : tree.WellFormed) {i : Nat}
    (hentry : recipe.entries[i]? = some (.mod entry)) (hplace : ∀ p ∈ entry.place?, p.Stays)
    {id : Text} {written : Written}
    (hresult : (recipe.apply root tree).2[i]? = some (id, .ok written)) :
    ∃ folder, recipe.outputFolder? root = some folder ∧ folder.StrictlyInside written.file := by
  rw [results_apply, List.getElem?_map, Option.map_eq_some_iff] at hresult
  obtain ⟨turn, hturn, hresult⟩ := hresult
  have hresult := (Prod.mk.inj hresult).2
  have hsame : turn.entry = .mod entry := by
    rw [turns_getElem? hturn] at hentry
    exact Option.some.inj hentry
  have hmod : entry ∈ recipe.mods := mem_entries_mod.mp (List.mem_of_getElem? hentry)
  have wf' := (mem_turns wf (List.mem_of_getElem? hturn)).2.1
  cases Turn.outcome recipe root wf' with
  | failed e _ result => cases hresult.symm.trans result
  | refused plan _ result =>
    obtain ⟨e, result⟩ := result
    cases hresult.symm.trans result
  | written plan planned result _ after =>
    obtain ⟨written', hwritten, hfile⟩ := result
    obtain rfl := Except.ok.inj (hresult.symm.trans hwritten)
    have hproduce := (Turn.planned_eq_ok_iff.mp planned).1
    rw [hsame] at hproduce
    obtain ⟨folder, p, hfolder, hstays, hpath⟩ := stays_of_produce wf' hplace hproduce
    obtain ⟨folder', hfolder', hne⟩ := exists_outputFolder hvalid hmod root
    obtain rfl := Option.some.inj (hfolder.symm.trans hfolder')
    -- a text stands in the file, so its path ends in a name
    obtain ⟨place, hat, htext, -⟩ := after.file
    obtain ⟨before, -, name, hpieces, -, hname, -⟩ :=
      Tree.pieces_of_file (after.wellFormed wf') hat (by rw [htext]; rfl)
    rw [hpath] at hpieces
    refine ⟨folder, hfolder, ?_⟩
    rw [hfile, hpath]
    exact hstays.strictlyInside hne hname hpieces

end Digest

/-- An output that is written with a `..` and leads back into the folder for output. -/
theorem strictlyInside_of_apply_through_folder :
    let _ := Digest.multiplicative
    let _ := Patterns.leftmostFirst
    let recipe : Recipe :=
      { info := { folders := ["out".toList, "core".toList] }
        mods := [
          { id := ['a'], component := some "card".toList, output := some "./sub/../x.vue".toList,
            steps := [.findFirst, .setAttribute ['n'] ['1']] }] }
    let root : Path := ⟨"/shop".toList⟩
    let tree : Tree := ⟨[], [(["shop".toList], .folder), (["shop".toList, "core".toList], .folder),
      (["shop".toList, "core".toList, "Card.vue".toList],
        .file (.text "<template><p>x</p></template>".toList))]⟩
    let file : Path := ⟨"/shop/out/./sub/../x.vue".toList⟩
    (recipe.apply root tree).2[0]? = some (['a'], .ok (.applied file)) ∧
      ∃ folder, recipe.outputFolder? root = some folder ∧ folder.StrictlyInside file := by
  intro digest patterns recipe root tree file
  have hresult : (recipe.apply root tree).2[0]? = some (['a'], .ok (.applied file)) := by
    decide +kernel
  have hplace : ∀ p ∈ (recipe.mods.head (by decide)).place?, p.Stays := by
    intro p hp
    obtain rfl : ⟨"./sub/../x.vue".toList⟩ = p := Option.some.inj hp
    exact ⟨by decide +kernel, by decide +kernel⟩
  have wf : tree.WellFormed := by decide +kernel
  exact ⟨hresult, strictlyInside_of_apply (by decide +kernel) wf rfl hplace hresult⟩

/-- An output that leads out of the folder for output is written where it leads. -/
theorem not_strictlyInside_of_apply_of_parent :
    let _ := Digest.multiplicative
    let _ := Patterns.leftmostFirst
    ¬∀ (recipe : Recipe) (root : Path) (tree : Tree), recipe.issues = [] → tree.WellFormed →
      ∀ (i : Nat) (entry : Mod), recipe.entries[i]? = some (.mod entry) →
        ∀ id written, (recipe.apply root tree).2[i]? = some (id, .ok written) →
          ∃ folder, recipe.outputFolder? root = some folder ∧
            folder.StrictlyInside written.file := by
  intro digest patterns hall
  let entry : Mod :=
    { id := ['a'], component := some "card".toList, output := some "../x.vue".toList,
      steps := [.findFirst, .setAttribute ['n'] ['1']] }
  let recipe : Recipe :=
    { info := { folders := ["out".toList, "core".toList] }, mods := [entry] }
  let root : Path := ⟨"/shop".toList⟩
  let tree : Tree := ⟨[], [(["shop".toList], .folder), (["shop".toList, "core".toList], .folder),
    (["shop".toList, "core".toList, "Card.vue".toList],
      .file (.text "<template><p>x</p></template>".toList))]⟩
  have hresult : (recipe.apply root tree).2[0]? =
      some (['a'], .ok (.applied ⟨"/shop/out/../x.vue".toList⟩)) := by
    decide +kernel
  obtain ⟨folder, hfolder, hinside⟩ := hall recipe root tree (by decide +kernel)
    (by decide +kernel) 0 entry rfl ['a'] _ hresult
  obtain rfl : ⟨"/shop/out".toList⟩ = folder := Option.some.inj hfolder
  exact absurd hinside.leads (by decide +kernel)

end Recipe

end Graft
