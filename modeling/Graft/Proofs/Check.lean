import Graft.Command.Run
import Graft.Proofs.Rebuild

/-! Checking a recipe after it was run: an entry is found to change nothing exactly when its text is
the last one that the run produced for its file. -/

namespace Graft

open Text

/-- No file was given two texts. -/
def Produced.Consistent (produced : Produced) : Prop :=
  ∀ x ∈ produced, produced.lookup x.1 = some x.2

instance (produced : Produced) : Decidable produced.Consistent :=
  inferInstanceAs (Decidable (∀ x ∈ produced, _))

namespace Recipe

/-- An entry that is found to change nothing. -/
def NoChange (planned : Except EntryError Plan) : Prop :=
  ∃ plan, planned = .ok plan ∧ plan.isChange = false

/-- An entry that is reported as unchanged. -/
def IsUnchanged (result : Except EntryError Written) : Prop :=
  ∃ file, result = .ok (.unchanged file)

variable {recipe : Recipe} {root : Path} {l : Location} {base tree settled : Tree}
  {produced final : Produced}

/-! ### Plans without a change -/

theorem isUnchanged_commitPlanned_iff {planned : Except EntryError Plan} :
    IsUnchanged (commitPlanned tree planned).2 ↔ NoChange planned := by
  cases planned with
  | error e =>
    refine iff_of_false ?_ ?_
    · rintro ⟨file, h⟩
      cases h
    · rintro ⟨plan, h, -⟩
      cases h
  | ok plan =>
    have hplan : NoChange (.ok plan) ↔ plan.isChange = false := by
      simp [NoChange]
    rw [hplan, commitPlanned, commit]
    cases hchange : plan.isChange with
    | false => exact iff_of_true ⟨plan.file, rfl⟩ rfl
    | true =>
      refine iff_of_false ?_ (by simp)
      rintro ⟨file, h⟩
      rw [if_neg (by simp)] at h
      dsimp only at h
      split at h
      · cases h
      · split at h <;> cases h

theorem commitPlanned_of_noChange {planned : Except EntryError Plan} (h : NoChange planned) :
    (commitPlanned tree planned).1 = tree := by
  obtain ⟨plan, rfl, hchange⟩ := h
  rw [commitPlanned, commit, if_pos (by simp [hchange])]

variable [Digest] [Patterns]

/-- The entries of a run are all unchanged exactly when no change is planned. -/
theorem isUnchanged_runAll_iff {entries : List RecipeEntry} :
    (∀ result ∈ (recipe.runAll root tree produced entries).results, IsUnchanged result.2) ↔
      ∀ planned ∈ recipe.planAll root tree produced entries, NoChange planned.2 := by
  induction entries generalizing produced with
  | nil => simp [runAll, planAll]
  | cons entry rest ih =>
    rw [runAll_cons (Prod.eta _).symm rfl, planAll]
    dsimp only
    rw [List.forall_mem_cons, List.forall_mem_cons]
    refine (and_congr_left fun _ => isUnchanged_commitPlanned_iff).trans
      (and_congr_right fun hchange => ?_)
    rw [commitPlanned_of_noChange hchange]
    exact ih

/-- A check succeeds exactly when no entry fails or would change a file. -/
theorem runCheck_code {file : Path} {given : Option Path}
    (hrecipe : Command.loadRecipe tree file = .ok recipe)
    (hgiven : Command.resolveRoot tree (Command.rootOf file given) = .ok root) :
    (Command.runCheck tree file given).code = 0 ↔
      ∀ planned ∈ recipe.check root tree, NoChange planned.2 := by
  unfold Command.runCheck Command.withRecipe
  rw [hrecipe]
  dsimp only
  rw [hgiven]
  dsimp only
  rw [ite_eq_left_iff]
  simp only [List.isEmpty_iff, List.filterMap_eq_nil_iff, Nat.one_ne_zero, imp_false, not_not]
  rw [← forall₂_and]
  refine forall₂_congr fun planned _ => ?_
  cases planned.2 <;> simp [NoChange]

/-! ### Checking what a run left -/

theorem writes_of_isOk {entries : List RecipeEntry}
    (h : ∀ result ∈ (recipe.runAll root tree produced entries).results, result.2.isOk) :
    recipe.Writes root tree produced entries := by
  induction entries generalizing tree produced with
  | nil => trivial
  | cons entry rest ih =>
    rw [runAll_cons rfl rfl] at h
    obtain ⟨hfirst, hrest⟩ := List.forall_mem_cons.mp h
    exact ⟨fun _ => hfirst, ih hrest⟩

/-- After a run whose entries all succeeded, each entry is planned as it was carried out, over the
text that the run last produced for its file. -/
theorem planAll_settled (hvalid : recipe.issues = []) (contained : recipe.Contained)
    (forward : recipe.FeedsForward) (hroot : root.text ≠ []) (hl : base.walk root = .ok l)
    (hsettled : recipe.Settled root l base final settled)
    (hkeys : ∀ x ∈ final, recipe.IsTarget root recipe.entries x.1)
    {done entries : List RecipeEntry} (hentries : recipe.entries = done ++ entries)
    (hover : Overlay root l base produced tree)
    (hok : ∀ result ∈ (recipe.runAll root tree produced entries).results, result.2.isOk)
    (hfinal : (recipe.runAll root tree produced entries).produced = final) :
    ∃ plans : List Plan,
      (recipe.planAll root settled produced entries).map (·.2) = plans.map .ok ∧
      final = (plans.map fun plan => (plan.file.components, plan.after)).reverse ++ produced ∧
      ∀ plan ∈ plans, plan.before = final.lookup plan.file.components := by
  induction entries generalizing done tree produced with
  | nil => exact ⟨[], rfl, hfinal.symm, by simp⟩
  | cons entry rest ih =>
    have hentry : entry ∈ recipe.entries := by simp [hentries]
    have hmem : ∀ e ∈ rest, e ∈ recipe.entries := fun e he => by simp [hentries, he]
    have hentries' : recipe.entries = (done ++ [entry]) ++ rest := by simp [hentries]
    have hwalk := hover.grows.walk hl
    have hwrites := writes_of_isOk hok
    have hsame := produce_again hvalid contained forward hroot hsettled hkeys hl hentries hover
      hwrites hfinal hsettled.walk hsettled.wellFormed fun _ _ => rfl
    rcases step_cases hwrites.1 with ⟨e, -, hcommit, hrecord⟩ |
      ⟨path, text, after, written, hproduce, hcommit, hrecord, hstored⟩
    · rw [runAll_cons hcommit hrecord] at hok
      cases (List.forall_mem_cons.mp hok).1
    · rw [runAll_cons hcommit hrecord] at hok hfinal
      obtain ⟨-, hrest⟩ := List.forall_mem_cons.mp hok
      obtain ⟨names, hpath, -⟩ := produce_target contained hroot hover.wellFormed hentry hproduce
      have hnext := hover.stored hl hpath hstored
      obtain ⟨last, hlast, hkept⟩ := kept_of_stored contained hroot hl hsettled hmem hpath hnext
        (writes_of_isOk hrest) hfinal
      -- a check writes nothing, so the file still holds the last text that the run gave it
      have hplace := locate_of_stored hwalk hsettled.walk hsettled.wellFormed hpath hstored
        (by simp [hkept])
      have hplan := plan_of_file ((hsame _).mp hproduce) hplace hkept
      obtain ⟨plans, hplans, hproduced, hbefore⟩ := ih hentries' hnext hrest hfinal
      refine ⟨⟨path, some last, text⟩ :: plans, ?_, by simp [hproduced],
        List.forall_mem_cons.mpr ⟨hlast.symm, hbefore⟩⟩
      rw [planAll, hplan]
      exact congrArg _ hplans

omit [Digest] [Patterns] in
theorem noChange_iff_consistent {planned : List (Text × Except EntryError Plan)}
    {plans : List Plan} (hplans : planned.map (·.2) = plans.map .ok)
    (hproduced : produced = (plans.map fun plan => (plan.file.components, plan.after)).reverse)
    (hbefore : ∀ plan ∈ plans, plan.before = produced.lookup plan.file.components) :
    (∀ p ∈ planned, NoChange p.2) ↔ produced.Consistent := by
  have hplanned : (∀ p ∈ planned, NoChange p.2) ↔ ∀ p ∈ planned.map (·.2), NoChange p := by
    simp only [List.forall_mem_map]
  have hconsistent : produced.Consistent ↔
      ∀ plan ∈ plans, produced.lookup plan.file.components = some plan.after := by
    have hmem : ∀ x, x ∈ produced ↔ ∃ plan ∈ plans, (plan.file.components, plan.after) = x := by
      simp [hproduced]
    simp only [Produced.Consistent, hmem]
    simp
  rw [hplanned, hplans, List.forall_mem_map, hconsistent]
  refine forall₂_congr fun plan hplan => ?_
  rw [← hbefore plan hplan]
  simp [NoChange, Plan.isChange]

/-- Once every entry of a valid recipe has succeeded, checking the recipe finds no change, a check
from the command line succeeds, and running the recipe again finds every file unchanged, each
exactly when no file was given two texts. -/
theorem check_apply (hvalid : recipe.issues = []) (contained : recipe.Contained)
    (forward : recipe.FeedsForward) (wf : tree.WellFormed) (hfolder : tree.isFolder root = true)
    (hplain : ['.', '.'] ∉ root.pieces)
    (hok : ∀ result ∈ (recipe.apply root tree).2, result.2.isOk) :
    let after := (recipe.apply root tree).1
    let produced := (recipe.runAll root tree [] recipe.entries).produced
    ((∀ planned ∈ recipe.check root after, NoChange planned.2) ↔ produced.Consistent) ∧
      (∀ file given, Command.loadRecipe after file = .ok recipe →
        Command.resolveRoot after (Command.rootOf file given) = .ok root →
        ((Command.runCheck after file given).code = 0 ↔ produced.Consistent)) ∧
      ((∀ result ∈ (recipe.apply root after).2, IsUnchanged result.2) ↔ produced.Consistent) := by
  have hroot := text_ne_nil_of_isFolder hfolder
  obtain ⟨l, hlocate, hentry⟩ := Tree.isFolder_iff.mp hfolder
  have hl := (Tree.locate_eq_ok_iff.mp hlocate).2
  have hwrites : recipe.Writes root tree [] recipe.entries := writes_of_isOk hok
  obtain ⟨hover, hkeys⟩ := overlay_entries contained hroot hl wf hwrites
  have hsettled := settled_pruneOutput contained hroot hl hover (walk_pruneOutput contained hroot
    hplain hover.wellFormed (hover.grows.walk hl) (hover.grows.folder l hentry))
  intro after produced
  obtain ⟨plans, hplans, hproduced, hbefore⟩ := planAll_settled hvalid contained forward hroot hl
    hsettled hkeys (List.nil_append _).symm (.refl wf) hok rfl
  rw [List.append_nil] at hproduced
  have hcheck : (∀ planned ∈ recipe.check root after, NoChange planned.2) ↔
      produced.Consistent := noChange_iff_consistent hplans hproduced hbefore
  exact ⟨hcheck, fun file given hrecipe hgiven => (runCheck_code hrecipe hgiven).trans hcheck,
    isUnchanged_runAll_iff.trans hcheck⟩

omit [Digest] [Patterns] in
/-- One mod leaves its component as a check expects it. -/
theorem check_apply_one_mod :
    let _ := Digest.multiplicative
    let _ := Patterns.leftmostFirst
    let recipe : Recipe :=
      { info := { folders := ["out".toList, "core".toList] }
        mods := [{ id := ['m'], component := some "card".toList,
                   steps := [.findFirst, .setAttribute ['a'] ['1']] }] }
    let root : Path := ⟨"/shop".toList⟩
    let tree : Tree := ⟨[], [(["shop".toList], .folder), (["shop".toList, "core".toList], .folder),
      (["shop".toList, "core".toList, "Card.vue".toList],
        .file (.text "<template><p></p></template>".toList))]⟩
    (recipe.apply root tree).2 = [(['m'], .ok (.applied ⟨"/shop/out/Card.vue".toList⟩))] ∧
      (∀ planned ∈ recipe.check root (recipe.apply root tree).1, NoChange planned.2) ∧
      ∀ result ∈ (recipe.apply root (recipe.apply root tree).1).2, IsUnchanged result.2 := by
  intro digest patterns recipe root tree
  have hrun : (recipe.apply root tree).2 =
      [(['m'], .ok (.applied ⟨"/shop/out/Card.vue".toList⟩))] := by decide +kernel
  have hvalid : recipe.issues = [] := by decide +kernel
  have hok : ∀ result ∈ (recipe.apply root tree).2, result.2.isOk := by
    simp [hrun, Except.isOk, Except.toBool]
  obtain ⟨hcheck, -, hagain⟩ := check_apply hvalid (by decide +kernel) (.of_mods rfl)
    (by decide +kernel) (by decide +kernel) (by decide +kernel) hok
  have hconsistent : (recipe.runAll root tree [] recipe.entries).produced.Consistent := by
    decide +kernel
  exact ⟨hrun, hcheck.mpr hconsistent, hagain.mpr hconsistent⟩

omit [Digest] [Patterns] in
/-- Where two mods change one component, running them again writes it again. -/
theorem not_check_apply_of_two_mods :
    let _ := Digest.multiplicative
    let _ := Patterns.leftmostFirst
    ¬∀ (recipe : Recipe) (root : Path) (tree : Tree), recipe.issues = [] →
      recipe.combinations = [] → tree.WellFormed → tree.isFolder root = true →
      (∀ result ∈ (recipe.apply root tree).2, result.2.isOk) →
      (∀ planned ∈ recipe.check root (recipe.apply root tree).1, NoChange planned.2) ∧
        ∀ result ∈ (recipe.apply root (recipe.apply root tree).1).2, IsUnchanged result.2 := by
  intro digest patterns hall
  let recipe : Recipe :=
    { info := { folders := ["out".toList, "core".toList] }
      mods := [
        { id := "m1".toList, component := some "card".toList,
          steps := [.findFirst, .setAttribute ['a'] ['1']] },
        { id := "m2".toList, component := some "card".toList,
          steps := [.findFirst, .setAttribute ['b'] ['2']] }] }
  let root : Path := ⟨"/shop".toList⟩
  let tree : Tree := ⟨[], [(["shop".toList], .folder), (["shop".toList, "core".toList], .folder),
    (["shop".toList, "core".toList, "Card.vue".toList],
      .file (.text "<template><p></p></template>".toList))]⟩
  let file : Path := ⟨"/shop/out/Card.vue".toList⟩
  have hrun : (recipe.apply root tree).2 =
      [("m1".toList, .ok (.applied file)), ("m2".toList, .ok (.applied file))] := by
    decide +kernel
  have hagain : (recipe.apply root (recipe.apply root tree).1).2 =
      [("m1".toList, .ok (.applied file)), ("m2".toList, .ok (.applied file))] := by
    decide +kernel
  obtain ⟨-, hunchanged⟩ := hall recipe root tree (by decide +kernel) rfl (by decide +kernel)
    (by decide +kernel) (by simp [hrun, Except.isOk, Except.toBool])
  rw [hagain] at hunchanged
  obtain ⟨file', hfile⟩ := hunchanged _ (List.mem_cons_self ..)
  cases hfile

end Recipe

end Graft
