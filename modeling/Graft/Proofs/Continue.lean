import Graft.Pattern
import Graft.Proofs.Turn
import Graft.Recipe.Issue

/-! The text that a mod starts from: its component as the run last planned it for the component's
own place in the folder for output, which is not where a mod with an output of its own leaves it. -/

namespace Graft

open Text

namespace Tree

variable {tree : Tree} {p q : Path} {l : Location} {content : Content}

/-- A path with the components of one that leads to a file is not missed. -/
theorem readIfAny_ne_none (h : p.components = q.components) (hl : tree.locate q = .ok l) :
    tree.readIfAny p ≠ .ok none := by
  obtain ⟨hcheck, hwalk⟩ := locate_eq_ok_iff.mp hl
  have htext : p.text ≠ [] := by
    intro hnil
    have hq : q.text ≠ [] := by
      intro hnil
      have hq : q = ⟨[]⟩ := by rw [← hnil]
      rw [hq] at hcheck
      cases hcheck
    have hp : p = ⟨[]⟩ := by rw [← hnil]
    rw [hp] at h
    exact Path.components_ne_nil hq h.symm
  rw [Ne, readIfAny_eq_none_iff, locate_eq_notFound_iff htext]
  rintro ⟨-, hmiss⟩
  rcases walk_of_components h hwalk with hok | hfault
  · rw [hmiss] at hok
    cases hok
  · rw [hmiss] at hfault
    cases hfault

end Tree

namespace Recipe

variable [Digest] [Patterns] {recipe : Recipe} {root : Path} {tree : Tree} {produced : Produced}
  {entries : List RecipeEntry} {front back : List Turn} {turn : Turn}

/-! ### From turn to turn -/

theorem turns_append (h : recipe.turns root tree produced entries = front ++ turn :: back) :
    ∃ rest, back = recipe.turns root (turn.after recipe root) (turn.recorded recipe root) rest := by
  induction front generalizing tree produced entries with
  | nil =>
    cases entries with
    | nil => cases h
    | cons entry rest =>
      obtain ⟨rfl, rfl⟩ := List.cons.inj h
      exact ⟨rest, rfl⟩
  | cons first front ih =>
    cases entries with
    | nil => cases h
    | cons entry rest => exact ih (List.cons.inj h).2

/-- What holds at the start, and is kept by each turn, holds at every turn. -/
theorem holds_at_turn {P : Tree → Produced → Prop}
    (h : recipe.turns root tree produced entries = front ++ turn :: back) (hstart : P tree produced)
    (hstep : ∀ t ∈ front, P t.tree t.produced →
      P (t.after recipe root) (t.recorded recipe root)) : P turn.tree turn.produced := by
  induction front generalizing tree produced entries with
  | nil =>
    cases entries with
    | nil => cases h
    | cons entry rest =>
      obtain ⟨rfl, -⟩ := List.cons.inj h
      exact hstart
  | cons first front ih =>
    cases entries with
    | nil => cases h
    | cons entry rest =>
      obtain ⟨hfirst, hrest⟩ := List.cons.inj h
      obtain ⟨hstep, hsteps⟩ := List.forall_mem_cons.mp hstep
      subst hfirst
      exact ih hrest (hstep hstart) hsteps

theorem mem_keys_recorded {key : List Component}
    (h : key ∈ (turn.recorded recipe root).keys) : key ∈ turn.produced.keys ∨
      ∃ plan, turn.planned recipe root = .ok plan ∧ plan.file.components = key := by
  unfold Turn.recorded record at h
  split at h
  · next plan hplan =>
    rcases Produced.mem_keys_cons.mp h with heq | hold
    · exact .inr ⟨plan, hplan, heq.symm⟩
    · exact .inl hold
  · exact .inl h

/-- A file that a run has written, where the run remembers one of some texts. -/
structure Holds (path : Path) (texts : Set Text) (tree : Tree) (produced : Produced) : Prop where
  wellFormed : tree.WellFormed
  file : ∃ place old, tree.locate path = .ok place ∧ tree.file? place = some (.text old)
  lookup : ∃ text ∈ texts, produced.lookup path.components = some text

variable {path : Path} {text : Text} {texts : Set Text}

/-- A turn that does not write a file leaves its text remembered, unless there is no room for the
temporary file: no other plan for the file could fail, since the file is there. -/
theorem Holds.next (h : Holds path texts turn.tree turn.produced)
    (hother : ∀ out, turn.output? recipe root = some out → out.1.components ≠ path.components)
    (hrefused : ∀ out, turn.refused? recipe root = some out →
      out.1.components = path.components → out.2 ∈ texts) :
    Holds path texts (turn.after recipe root) (turn.recorded recipe root) := by
  obtain ⟨place, old, hplace, hfile⟩ := h.file
  have hlookup : ∀ plan : Plan, (plan.file.components = path.components → plan.after ∈ texts) →
      ∃ text ∈ texts, List.lookup path.components
        ((plan.file.components, plan.after) :: turn.produced) = some text := by
    intro plan hplan
    rw [List.lookup_cons]
    by_cases hsame : plan.file.components = path.components
    · exact ⟨plan.after, hplan hsame, by simp [hsame]⟩
    · have hfalse : (path.components == plan.file.components) = false := by
        simpa using Ne.symm hsame
      rw [hfalse]
      exact h.lookup
  cases Turn.outcome recipe root h.wellFormed with
  | failed e _ _ _ after recorded =>
    rw [after, recorded]
    exact h
  | refused plan _ _ _ missed after recorded =>
    rw [recorded]
    refine ⟨after.wellFormed h.wellFormed,
      ⟨place, old, after.grows.locate hplace, by rw [after.file?, hfile]⟩, hlookup plan ?_⟩
    intro hsame
    rcases missed with hnone | ⟨-, hout⟩
    · exact absurd hnone (Tree.readIfAny_ne_none hsame hplace)
    · exact hrefused _ hout hsame
  | written plan _ _ output after recorded =>
    rw [recorded]
    refine ⟨after.wellFormed h.wellFormed, ?_,
      hlookup plan fun hsame => absurd hsame (hother _ output)⟩
    obtain ⟨other, -, hwritten, hrest⟩ := after.file
    by_cases hsame : place = other
    · exact ⟨place, plan.after, after.grows.locate hplace, by rw [hsame, hwritten]⟩
    · exact ⟨place, old, after.grows.locate hplace, by rw [hrest place hsame, hfile]⟩

theorem holds_of_output (wf : turn.tree.WellFormed)
    (h : turn.output? recipe root = some (path, text)) (htext : text ∈ texts) :
    Holds path texts (turn.after recipe root) (turn.recorded recipe root) := by
  cases Turn.outcome recipe root wf with
  | failed e _ _ output _ _ =>
    rw [output] at h
    cases h
  | refused plan _ _ output _ _ _ =>
    rw [output] at h
    cases h
  | written plan _ _ output after recorded =>
    rw [output] at h
    obtain ⟨rfl, rfl⟩ := Prod.mk.inj (Option.some.inj h)
    obtain ⟨place, hplace, hwritten, -⟩ := after.file
    refine ⟨after.wellFormed wf, ⟨place, plan.after, hplace, hwritten⟩, plan.after, htext, ?_⟩
    rw [recorded]
    exact List.lookup_cons_self

/-- A mod that wrote a file has loaded its component, and writes to the component's own place unless
it has an output of its own. -/
theorem exists_source_of_output {entry : Mod} (hentry : turn.entry = .mod entry)
    (h : turn.output? recipe root = some (path, text)) :
    ∃ source own, recipe.findSource root turn.tree entry = .ok source ∧
      recipe.loadComponent root turn.tree turn.produced entry =
        .ok (continued turn.produced source) ∧
      source.target? none = some own ∧ (entry.output = none → own = path) := by
  obtain ⟨plan, hplan, hout⟩ := Turn.planned_of_output h
  obtain ⟨rfl, rfl⟩ := Prod.mk.inj hout
  have hproduce := (Turn.planned_eq_ok_iff.mp hplan).1
  rw [hentry] at hproduce
  unfold produce at hproduce
  obtain ⟨file, hfile, hrest⟩ := bind_eq_ok_iff.mp hproduce
  obtain ⟨revised, hrevised, htarget⟩ := bind_eq_ok_iff.mp hrest
  have hload := hfile
  rw [loadComponent_eq, map_eq_ok_iff] at hfile
  obtain ⟨source, hsource, rfl⟩ := hfile
  obtain ⟨houtput, hrelative⟩ := revise_frame hrevised
  obtain ⟨houtput', hrelative'⟩ := continued_frame turn.produced source
  split at htarget
  · cases htarget
  · next target hpath =>
    have hfile := (Prod.mk.inj (Except.ok.inj htarget)).1
    unfold ComponentFile.target? at hpath ⊢
    rw [houtput, houtput', hrelative, hrelative', Option.map_eq_some_iff] at hpath
    obtain ⟨folder, hfolder, hjoin⟩ := hpath
    refine ⟨source, folder.join source.relative, hsource, hload, by rw [hfolder]; rfl, ?_⟩
    intro hnone
    rw [hnone] at hjoin
    exact hjoin.trans hfile

omit [Digest] [Patterns] in
theorem content_continued {source : ComponentFile} {own : Path}
    (hown : source.target? none = some own) : (continued produced source).content =
      (produced.lookup own.components).getD source.content := by
  unfold continued
  rw [hown]
  change _ = (produced.find? own).getD source.content
  dsimp only
  cases produced.find? own <;> rfl

/-! ### Where a mod starts -/

/-- Of two entries that write one file, with no other writing it in between, the second starts from
the text of the first if it is a mod and the file is its component's own place in the folder for
output, as it is for a mod without an output; or from the text of an entry in between that was not
written, for want of room for the temporary file. Otherwise it starts from the component as it was
found, unless a text was planned for that place. -/
theorem content_of_second_output (wf : tree.WellFormed) {done between rest : List Turn}
    {first second : Turn} (hturns : recipe.turns root tree [] recipe.entries =
      done ++ first :: (between ++ second :: rest))
    {path path' : Path} {text text' : Text} {entry : Mod}
    (hfirst : first.output? recipe root = some (path, text))
    (hsecond : second.output? recipe root = some (path', text'))
    (hsame : path'.components = path.components)
    (hbetween : ∀ turn ∈ between, ∀ out, turn.output? recipe root = some out →
      out.1.components ≠ path.components)
    (hentry : second.entry = .mod entry) :
    ∃ source file own, recipe.findSource root second.tree entry = .ok source ∧
      recipe.loadComponent root second.tree second.produced entry = .ok file ∧
      source.target? none = some own ∧
      (entry.output = none → own.components = path.components) ∧
      (own.components = path.components → file.content = text ∨
        ∃ turn ∈ between, ∃ out, turn.refused? recipe root = some out ∧
          out.1.components = path.components ∧ file.content = out.2) ∧
      ((∀ turn ∈ done ++ first :: between, ∀ plan, turn.planned recipe root = .ok plan →
        plan.file.components ≠ own.components) → file.content = source.content) := by
  obtain ⟨source, own, hsource, hload, hown, hdefault⟩ := exists_source_of_output hentry hsecond
  refine ⟨source, _, own, hsource, hload, hown, ?_, fun hpath => ?_, fun hnone => ?_⟩
  · intro houtput
    rw [hdefault houtput, hsame]
  · -- from the first turn on, the file is there and its text is remembered
    have hwf : first.tree.WellFormed :=
      (mem_turns wf (show first ∈ _ by rw [hturns]; simp)).2.1
    obtain ⟨later, hlater⟩ := turns_append hturns
    let texts : Set Text := fun t => t = text ∨ ∃ turn ∈ between, ∃ out,
      turn.refused? recipe root = some out ∧ out.1.components = path.components ∧ t = out.2
    have hholds : Holds path texts second.tree second.produced :=
      holds_at_turn hlater.symm (holds_of_output hwf hfirst (.inl rfl)) fun turn hturn h =>
        h.next (hbetween turn hturn) fun out hout hcomponents =>
          .inr ⟨turn, hturn, out, hout, hcomponents, rfl⟩
    obtain ⟨last, hlast, hlookup⟩ := hholds.lookup
    rw [content_continued hown, hpath, hlookup]
    exact hlast
  · have hturns' : recipe.turns root tree [] recipe.entries =
        (done ++ first :: between) ++ second :: rest := by
      rw [hturns]
      simp
    have hkeys : own.components ∉ second.produced.keys := by
      refine holds_at_turn (P := fun _ produced => own.components ∉ Produced.keys produced) hturns'
        (by simp [Produced.keys]) fun turn hturn hnot hkey => ?_
      rcases mem_keys_recorded hkey with hold | ⟨plan, hplan, heq⟩
      · exact hnot hold
      · exact hnone turn hturn plan hplan heq
    rw [content_continued hown, Produced.lookup_eq_none_iff.mpr hkeys]
    rfl

omit [Digest] [Patterns] in
/-- Two mods without an output: the second starts from the text of the first. -/
theorem content_of_second_output_without_output :
    let _ := Digest.multiplicative
    let _ := Patterns.leftmostFirst
    let entry : Mod := { id := "m2".toList, component := some "card".toList,
                         steps := [.findFirst, .setAttribute ['b'] ['2']] }
    let recipe : Recipe :=
      { info := { folders := ["out".toList, "core".toList] }
        mods := [{ id := "m1".toList, component := some "card".toList,
                   steps := [.findFirst, .setAttribute ['a'] ['1']] }, entry] }
    let root : Path := ⟨"/shop".toList⟩
    let tree : Tree := ⟨[], [(["shop".toList], .folder), (["shop".toList, "core".toList], .folder),
      (["shop".toList, "core".toList, "Card.vue".toList],
        .file (.text "<template><p></p></template>".toList))]⟩
    let file : Path := ⟨"/shop/out/Card.vue".toList⟩
    let text := "<template>\n<p a=\"1\"></p>\n\n<!-- Kombinator: m1 -->\n</template>".toList
    ∃ first second text', recipe.turns root tree [] recipe.entries = [first, second] ∧
      first.output? recipe root = some (file, text) ∧
      second.output? recipe root = some (file, text') ∧
      ∃ loaded, recipe.loadComponent root second.tree second.produced entry = .ok loaded ∧
        loaded.content = text := by
  intro digest patterns entry recipe root tree file text
  let first : Turn := ⟨recipe.entries[0], tree, []⟩
  let second : Turn := ⟨.mod entry, first.after recipe root, first.recorded recipe root⟩
  have hturns : recipe.turns root tree [] recipe.entries =
      [] ++ first :: ([] ++ second :: []) := rfl
  have hfirst : first.output? recipe root = some (file, text) := by decide +kernel
  have hsecond : (second.output? recipe root).map Prod.fst = some file := by decide +kernel
  obtain ⟨⟨path', text'⟩, hsecond, rfl⟩ := Option.map_eq_some_iff.mp hsecond
  obtain ⟨source, loaded, own, -, hload, -, hdefault, hcontent, -⟩ :=
    content_of_second_output (by decide +kernel) hturns hfirst hsecond rfl (by simp) rfl
  refine ⟨first, second, text', hturns, hfirst, hsecond, loaded, hload, ?_⟩
  exact (hcontent (hdefault rfl)).resolve_right (by simp)

omit [Digest] [Patterns] in
/-- Two mods that give their component one output both start from the component as it was found, so
that the second undoes what the first did. -/
theorem not_content_of_second_output_of_output :
    let _ := Digest.multiplicative
    let _ := Patterns.leftmostFirst
    ¬∀ (recipe : Recipe) (root : Path) (tree : Tree) (done between rest : List Turn)
      (first second : Turn) (earlier later : Mod) (path path' : Path) (text text' : Text),
      recipe.issues = [] → tree.WellFormed → tree.isFolder root = true →
      recipe.turns root tree [] recipe.entries = done ++ first :: (between ++ second :: rest) →
      first.entry = .mod earlier → second.entry = .mod later →
      earlier.component = later.component → earlier.file = later.file →
      first.output? recipe root = some (path, text) →
      second.output? recipe root = some (path', text') → path'.components = path.components →
      (∀ turn ∈ between, ∀ out, turn.output? recipe root = some out →
        out.1.components ≠ path.components) →
      ∀ file, recipe.loadComponent root second.tree second.produced later = .ok file →
        file.content = text := by
  intro digest patterns hall
  let earlier : Mod := { id := "m1".toList, component := some "card".toList,
                         output := some "X.vue".toList,
                         steps := [.findFirst, .setAttribute ['a'] ['1']] }
  let later : Mod := { id := "m2".toList, component := some "card".toList,
                       output := some "X.vue".toList,
                       steps := [.findFirst, .setAttribute ['b'] ['2']] }
  let recipe : Recipe :=
    { info := { folders := ["out".toList, "core".toList] }, mods := [earlier, later] }
  let root : Path := ⟨"/shop".toList⟩
  let tree : Tree := ⟨[], [(["shop".toList], .folder), (["shop".toList, "core".toList], .folder),
    (["shop".toList, "core".toList, "Card.vue".toList],
      .file (.text "<template><p></p></template>".toList))]⟩
  let first : Turn := ⟨.mod earlier, tree, []⟩
  let second : Turn := ⟨.mod later, first.after recipe root, first.recorded recipe root⟩
  let file : Path := ⟨"/shop/out/X.vue".toList⟩
  have hfirst : first.output? recipe root = some (file,
      "<template>\n<p a=\"1\"></p>\n\n<!-- Kombinator: m1 -->\n</template>".toList) := by
    decide +kernel
  have hsecond : second.output? recipe root = some (file,
      "<template>\n<p b=\"2\"></p>\n\n<!-- Kombinator: m2 -->\n</template>".toList) := by
    decide +kernel
  have hload : (recipe.loadComponent root second.tree second.produced later).toOption.map
      (·.content) = some "<template><p></p></template>".toList := by
    decide +kernel
  obtain ⟨loaded, hloaded, hcontent⟩ := Option.map_eq_some_iff.mp hload
  have hok : recipe.loadComponent root second.tree second.produced later = .ok loaded := by
    cases hresult : recipe.loadComponent root second.tree second.produced later with
    | ok file =>
      rw [hresult] at hloaded
      exact congrArg Except.ok (Option.some.inj hloaded)
    | error e =>
      rw [hresult] at hloaded
      cases hloaded
  have hsame := hall recipe root tree [] [] [] first second earlier later file file _ _
    (by decide +kernel) (by decide +kernel) (by decide +kernel) rfl rfl rfl rfl rfl hfirst hsecond
    rfl (by simp) loaded hok
  rw [hcontent] at hsame
  revert hsame
  decide +kernel

end Recipe

end Graft
