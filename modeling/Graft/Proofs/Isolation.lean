import Graft.Proofs.Rebuild
import Graft.Proofs.Turn

/-! Runs with an entry taken out of the recipe. An entry that fails before anything is written for
it leaves the tree and the texts of the run to the next entry as they were, so a run without it
comes to the same. -/

namespace Graft

open Text

/-- The recipe without one of its entries. -/
def Recipe.eraseEntry (recipe : Recipe) (i : Nat) : Recipe :=
  { recipe with
    mods := recipe.mods.eraseIdx i
    combinations :=
      if i < recipe.mods.length then recipe.combinations
      else recipe.combinations.eraseIdx (i - recipe.mods.length) }

namespace Recipe

theorem entries_eraseEntry (recipe : Recipe) (i : Nat) :
    (recipe.eraseEntry i).entries = recipe.entries.eraseIdx i := by
  by_cases hi : i < recipe.mods.length
  · rw [entries, entries, List.eraseIdx_append_of_lt_length (by simpa using hi), eraseEntry,
      if_pos hi, List.eraseIdx_map]
  · have hle : recipe.mods.length ≤ i := Nat.le_of_not_lt hi
    rw [entries, entries, List.eraseIdx_append_of_length_le (by simpa using hle), eraseEntry,
      if_neg hi, List.eraseIdx_of_length_le hle, List.eraseIdx_map, List.length_map]

section Run

variable [Digest] [Patterns] {recipe : Recipe} {root : Path} {tree : Tree} {produced : Produced}
  {entries : List RecipeEntry} {i : Nat} {turn : Turn} {e : EntryError}

theorem runAll_eraseEntry : (recipe.eraseEntry i).runAll root tree produced entries =
    recipe.runAll root tree produced entries := by
  induction entries generalizing tree produced with
  | nil => rfl
  | cons entry rest ih =>
    have hplan : (recipe.eraseEntry i).plan root tree produced entry =
        recipe.plan root tree produced entry := by
      cases entry <;> rfl
    rw [runAll_cons rfl rfl, runAll_cons rfl rfl, hplan, ih]

theorem runAll_turn (recipe : Recipe) (root : Path) (turn : Turn) (rest : List RecipeEntry) :
    recipe.runAll root turn.tree turn.produced (turn.entry :: rest) =
      let run := recipe.runAll root (turn.after recipe root) (turn.recorded recipe root) rest
      { run with results := (turn.entry.id, turn.result recipe root) :: run.results } :=
  runAll_cons rfl rfl

/-- A run goes on after an entry that was not planned as if the entry were not there. -/
theorem runAll_eraseIdx
    (hturn : (recipe.turns root tree produced entries)[i]? = some turn)
    (hplan : turn.planned recipe root = .error e) :
    recipe.runAll root tree produced (entries.eraseIdx i) =
      { recipe.runAll root tree produced entries with
        results := (recipe.runAll root tree produced entries).results.eraseIdx i } := by
  induction entries generalizing tree produced i with
  | nil => cases hturn
  | cons entry rest ih =>
    have hrun := runAll_turn recipe root ⟨entry, tree, produced⟩
    cases i with
    | zero =>
      obtain rfl : (⟨entry, tree, produced⟩ : Turn) = turn := Option.some.inj hturn
      obtain ⟨-, -, hafter, hrecorded⟩ := Turn.of_error hplan
      rw [hrun, hafter, hrecorded]
      rfl
    | succ i =>
      rw [List.eraseIdx_cons_succ, hrun, hrun, ih hturn]
      rfl

/-- An entry that was planned for a file that can be written does not fail. -/
theorem planned_eq_error_of_writable (contained : recipe.Contained) (wf : tree.WellFormed)
    (hisFolder : tree.isFolder root = true)
    (hturn : turn ∈ recipe.turns root tree [] recipe.entries)
    (hresult : turn.result recipe root = .error e)
    (hwritable : ∀ plan, turn.planned recipe root = .ok plan → tree.Writable plan.file) :
    turn.planned recipe root = .error e := by
  have hroot := text_ne_nil_of_isFolder hisFolder
  obtain ⟨l, hlocate, hfolder⟩ := Tree.isFolder_iff.mp hisFolder
  obtain ⟨hentry, hwf, hgrows⟩ := mem_turns wf hturn
  have hwalk := hgrows.walk (Tree.locate_eq_ok_iff.mp hlocate).2
  cases Turn.outcome recipe root hwf with
  | failed e' planned result _ _ _ =>
    rw [result] at hresult
    rw [planned, Except.error.inj hresult]
  | refused plan planned _ _ missed _ _ =>
    have hwritable := (hwritable plan planned).congr hgrows.home
    have hnone : turn.tree.readIfAny plan.file = .ok none := by
      refine missed.resolve_right fun ⟨hroom, _⟩ => ?_
      rw [hwritable.room] at hroom
      cases hroom
    obtain ⟨names, hpath, -⟩ := inside_of_planned contained hroot hentry hwf planned
    obtain ⟨hcheck, hfree⟩ := Tree.free_of_readIfAny hpath.spells hwalk hroot hwf hnone
    have hbefore := (Turn.planned_eq_ok_iff.mp planned).2
    obtain ⟨after, hcommit⟩ : ∃ after, commit turn.tree ⟨plan.file, none, plan.after⟩ =
        (after, .ok (.applied plan.file)) :=
      commit_of_free hroot hpath.spells hwalk (hgrows.folder l hfolder) hwf
        hwritable hcheck hfree
    have hplan : plan = ⟨plan.file, none, plan.after⟩ := by
      rw [hnone] at hbefore
      rw [Except.ok.inj hbefore]
    rw [← hplan, Turn.commit_of_planned planned] at hcommit
    rw [(Prod.mk.inj hcommit).2] at hresult
    cases hresult
  | written plan planned result _ _ _ =>
    obtain ⟨written, hwritten, -⟩ := result
    rw [hwritten] at hresult
    cases hresult

/-- Taking an entry that fails out of a recipe changes neither the tree that a run leaves nor what
becomes of the other entries. Where the entry comes to the writing of its file, this takes a file
that can be written. -/
theorem apply_eraseEntry {id : Text}
    (hturn : (recipe.turns root tree [] recipe.entries)[i]? = some turn)
    (hresult : (recipe.apply root tree).2[i]? = some (id, .error e))
    (hwritable : ∀ plan, turn.planned recipe root = .ok plan → recipe.Contained ∧
      tree.WellFormed ∧ tree.isFolder root = true ∧ tree.Writable plan.file) :
    (recipe.eraseEntry i).apply root tree =
      ((recipe.apply root tree).1, (recipe.apply root tree).2.eraseIdx i) := by
  have hfail : turn.result recipe root = .error e := by
    rw [results_apply, List.getElem?_map, hturn] at hresult
    exact (Prod.mk.inj (Option.some.inj hresult)).2
  have hplan : turn.planned recipe root = .error e := by
    cases hplanned : turn.planned recipe root with
    | error e' =>
      rw [(Turn.of_error hplanned).1] at hfail
      rw [Except.error.inj hfail]
    | ok plan =>
      obtain ⟨contained, wf, hisFolder, -⟩ := hwritable plan hplanned
      rw [← hplanned]
      exact planned_eq_error_of_writable contained wf hisFolder (List.mem_of_getElem? hturn) hfail
        fun plan hplan => (hwritable plan hplan).2.2.2
  have hrun : (recipe.eraseEntry i).runAll root tree [] (recipe.eraseEntry i).entries =
      { recipe.runAll root tree [] recipe.entries with
        results := (recipe.runAll root tree [] recipe.entries).results.eraseIdx i } := by
    rw [entries_eraseEntry, runAll_eraseEntry, runAll_eraseIdx hturn hplan]
  rw [apply, hrun]
  rfl

end Run

/-- A mod that finds no component, between a mod and a combination that goes on with its text. -/
theorem apply_eraseEntry_of_no_component :
    let _ := Digest.multiplicative
    let _ := Patterns.leftmostFirst
    let recipe : Recipe :=
      { info := { folders := ["out".toList, "core".toList] }
        mods := [
          { id := "m1".toList, component := some "card".toList,
            steps := [.findFirst, .setAttribute ['a'] ['1']] },
          { id := "m2".toList, component := some "none".toList, steps := [.findFirst] }]
        combinations := [{ id := ['c'], source := "out/Card.vue".toList,
                           override := "b.vue".toList }] }
    let root : Path := ⟨"/shop".toList⟩
    let tree : Tree := ⟨[], [(["shop".toList], .folder), (["shop".toList, "core".toList], .folder),
      (["shop".toList, "core".toList, "Card.vue".toList],
        .file (.text "<template><p></p></template>".toList)),
      (["shop".toList, "b.vue".toList], .file (.text "<style>.b{}</style>".toList))]⟩
    (recipe.eraseEntry 1).apply root tree =
      ((recipe.apply root tree).1, (recipe.apply root tree).2.eraseIdx 1) := by
  intro digest patterns recipe root tree
  have hresult : (recipe.apply root tree).2[1]? = some ("m2".toList,
      .error (.component (.notFound "none".toList [⟨"/shop/core".toList⟩] none))) := by
    decide +kernel
  have hplanned : (recipe.turns root tree [] recipe.entries)[1]?.map
      (fun turn => (turn.planned recipe root).isOk) = some false := by
    decide +kernel
  obtain ⟨turn, hturn, hfailed⟩ := Option.map_eq_some_iff.mp hplanned
  refine apply_eraseEntry hturn hresult fun plan hplan => ?_
  rw [hplan] at hfailed
  cases hfailed

/-- A text that was not written, since a name is too long for a file, is read by a later entry. -/
theorem not_apply_eraseEntry_of_long_name :
    let _ := Digest.multiplicative
    let _ := Patterns.leftmostFirst
    ¬∀ (recipe : Recipe) (root : Path) (tree : Tree) (i : Nat) (id : Text) (e : EntryError),
      recipe.issues = [] → recipe.Plain → tree.WellFormed → tree.isFolder root = true →
      (recipe.apply root tree).2[i]? = some (id, .error e) →
      (recipe.eraseEntry i).apply root tree =
        ((recipe.apply root tree).1, (recipe.apply root tree).2.eraseIdx i) := by
  intro digest patterns hall
  let file := "new/".toList ++ List.replicate 256 'a'
  let recipe : Recipe :=
    { combinations := [
        { id := "c1".toList, source := "a.vue".toList, override := "b.vue".toList,
          output := some file },
        { id := "c2".toList, source := file, override := "b.vue".toList,
          output := some "c.vue".toList }] }
  let root : Path := ⟨"/shop".toList⟩
  let tree : Tree := ⟨[], [(["shop".toList], .folder),
    (["shop".toList, "a.vue".toList], .file (.text "<style>.a{}</style>".toList)),
    (["shop".toList, "b.vue".toList], .file (.text "<style>.b{}</style>".toList))]⟩
  have hresult : (recipe.apply root tree).2[0]? =
      some ("c1".toList, .error (.write .nameTooLong)) := by
    decide +kernel
  have hsame := hall recipe root tree 0 _ _ (by decide +kernel) (by decide +kernel)
    (by decide +kernel) (by decide +kernel) hresult
  have hread : (recipe.apply root tree).2.map (fun result => (result.1, result.2.isOk)) =
      [("c1".toList, false), ("c2".toList, true)] := by
    decide +kernel
  have hmissed : ((recipe.eraseEntry 0).apply root tree).2.map
      (fun result => (result.1, result.2.isOk)) = [("c2".toList, false)] := by
    decide +kernel
  rw [hsame, List.eraseIdx_zero, List.map_tail, hread] at hmissed
  cases hmissed

end Recipe

end Graft
