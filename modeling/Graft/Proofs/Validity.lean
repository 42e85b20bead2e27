import Graft.Pattern
import Graft.Proofs.Revision
import Graft.Proofs.Splice
import Graft.Proofs.Turn
import Graft.Recipe.Issue

/-! What the entries of a recipe without issues can fail with: no target, pattern or template is
missing, no edit is refused, and a selector is missing only where no step before has set one. -/

namespace Graft

open Text Markup

/-- Whether an error is one that a recipe without issues does not run into: one of configuration, or
an edit that is refused. -/
def EntryError.isRuledOut : EntryError → Bool
  | .noTarget | .invalidPattern _ _ | .component .templateNotSet | .component (.edit _)
  | .step _ _ (.edit _) | .combine (.edit _) => true
  | _ => false

/-- The steps of an entry, of which a combination has none. -/
def RecipeEntry.steps : RecipeEntry → List Step
  | .mod entry => entry.steps
  | .combination _ => []

/-- An error that an entry with the given steps can fail with when its recipe has no issues. A step
misses its selector only if no step before it selects. -/
structure EntryError.Admitted (steps : List Step) (e : EntryError) : Prop where
  notRuledOut : e.isRuledOut = false
  unselected : ∀ k kind fault, e = .step k kind (.locate (.invalidSelector fault)) →
    (∃ step, steps[k]? = some step ∧ step.kind = kind) ∧
      ∀ step ∈ steps.take k, step.kind.selects = false

namespace Recipe

/-! ### Steps -/

section Steps

variable {draft : Draft} {id : Option Text} {step : Step} {front : List Step} {e : EntryError}

theorem ofBlank_eq_nil_iff {field : RecipeField} {value : Text} :
    Issue.ofBlank id field value = [] ↔ isWhite value = false := by
  unfold Issue.ofBlank
  split <;> simp_all

/-- What steps without issues leave of the selector: it has no fault, and it is missing only if none
of them selects. -/
def LeavesSelector (front : List Step) : Option Selector → Prop
  | none => ∀ step ∈ front, step.kind.selects = false
  | some selector => selector.fault? = none

theorem LeavesSelector.unselected (h : LeavesSelector front draft.selector) {fault : Selector.Fault}
    (hlocate : draft.locate = .error (.locate (.invalidSelector fault))) :
    ∀ step ∈ front, step.kind.selects = false := by
  cases hselector : draft.selector with
  | none =>
    rw [hselector] at h
    exact h
  | some selector =>
    rw [hselector] at h
    have hfault : selector.fault? = none := h
    simp only [Draft.locate, hselector, locate, hfault] at hlocate
    split at hlocate <;> cases hlocate

variable [Digest] [Patterns]

/-- A step without issues sets a selector that has no fault, or makes a revision. -/
theorem runStep_cases (hvalid : Issue.ofStep id step = []) (draft : Draft) (i : Nat) :
    (∃ selector, selector.fault? = none ∧ runStep draft step i = .ok (draft.select selector)) ∨
      step.kind.selects = false ∧
        ∃ r : Revision, runStep draft step i = (r.run draft).mapError (.step i step.kind) := by
  cases step with
  | findByTag name =>
    have hname := ofBlank_eq_nil_iff.mp hvalid
    exact .inl ⟨.tag name, by simp [Selector.fault?, hname], rfl⟩
  | findByAttribute name =>
    have hname := ofBlank_eq_nil_iff.mp hvalid
    exact .inl ⟨.attr name, by simp [Selector.fault?, hname], rfl⟩
  | findByAttributeValue name value =>
    obtain ⟨hname, hvalue⟩ := List.append_eq_nil_iff.mp hvalid
    rw [ofBlank_eq_nil_iff] at hname hvalue
    have hne : value ≠ [] := by
      rintro rfl
      cases hvalue
    exact .inl ⟨.attrValue name value, by simp [Selector.fault?, hname, hne], rfl⟩
  | findFirst => exact .inl ⟨.first, rfl, rfl⟩
  | setAttribute name value => exact .inr ⟨rfl, .attributes (.set name value), rfl⟩
  | removeAttribute name => exact .inr ⟨rfl, .attributes (.remove name), rfl⟩
  | reduceAttribute name value => exact .inr ⟨rfl, .attributes (.reduce name value), rfl⟩
  | extendAttribute name value glue =>
    exact .inr ⟨rfl, .attributes (.extend name value (glue.getD defaultGlue)), rfl⟩
  | regexpAttribute name pattern replacement =>
    have hpattern := (List.append_eq_nil_iff.mp hvalid).2
    cases hread : Patterns.read pattern with
    | error why => simp [Issue.ofPattern, hread] at hpattern
    | ok p =>
      refine .inr ⟨rfl, .replaceInAttribute name p replacement, ?_⟩
      simp only [runStep, hread]
      rfl
  | removeElement => exact .inr ⟨rfl, .removeElement, rfl⟩
  | renameElement name => exact .inr ⟨rfl, .renameElement name, rfl⟩
  | insertBefore html => exact .inr ⟨rfl, .insertBefore html, rfl⟩
  | insertAfter html => exact .inr ⟨rfl, .insertAfter html, rfl⟩
  | insertInside html => exact .inr ⟨rfl, .insertInside html, rfl⟩
  | unwrap => exact .inr ⟨rfl, .unwrapElement, rfl⟩

theorem LeavesSelector.next (h : LeavesSelector front draft.selector)
    (hvalid : Issue.ofStep id step = []) {next : Draft}
    (hstep : runStep draft step front.length = .ok next) :
    LeavesSelector (front ++ [step]) next.selector := by
  rcases runStep_cases hvalid draft front.length with ⟨selector, hfault, hrun⟩ | ⟨hkind, r, hrun⟩
  · rw [hrun] at hstep
    obtain rfl := Except.ok.inj hstep
    exact hfault
  · rw [hrun, mapError_eq_ok_iff] at hstep
    have hframe := (r.run_frame draft).2
    rw [hstep] at hframe
    obtain ⟨-, -, -, -, -, hselector⟩ := hframe
    rw [hselector]
    cases hdraft : draft.selector with
    | none =>
      rw [hdraft] at h
      intro earlier hearlier
      rcases List.mem_append.mp hearlier with hfront | hlast
      · exact h earlier hfront
      · rw [List.mem_singleton.mp hlast, hkind]
    | some selector =>
      rw [hdraft] at h
      exact h

/-- The error of a step comes from its revision, which refuses no edit. -/
theorem LeavesSelector.error (h : LeavesSelector front draft.selector)
    (hvalid : Issue.ofStep id step = []) (hstep : runStep draft step front.length = .error e)
    (rest : List Step) : e.Admitted (front ++ step :: rest) := by
  rcases runStep_cases hvalid draft front.length with ⟨selector, -, hrun⟩ | ⟨-, r, hrun⟩
  · rw [hrun] at hstep
    cases hstep
  · rw [hrun] at hstep
    obtain ⟨e', he', rfl⟩ := mapError_eq_error_iff.mp hstep
    have hrefuses : r.Refuses draft e' := by
      have hframe := (r.run_frame draft).2
      rwa [he'] at hframe
    refine ⟨by cases hrefuses <;> rfl, fun k kind fault heq => ?_⟩
    obtain ⟨rfl, rfl, rfl⟩ := EntryError.step.inj heq
    refine ⟨⟨step, by simp, rfl⟩, ?_⟩
    rw [List.take_left]
    cases hrefuses with
    | invalidSelector _ _ hlocate => exact h.unselected hlocate

/-- Steps are run one after the other, each with the selector that those before it leave. -/
theorem LeavesSelector.foldlM {steps : List Step} (h : LeavesSelector front draft.selector)
    (hvalid : ∀ step ∈ steps, Issue.ofStep id step = [])
    (hrun : (steps.zipIdx front.length).foldlM (fun draft (step, i) => runStep draft step i) draft =
      .error e) : e.Admitted (front ++ steps) := by
  induction steps generalizing front draft with
  | nil => cases hrun
  | cons step rest ih =>
    rw [List.zipIdx_cons, List.foldlM_cons] at hrun
    have hfirst := hvalid step List.mem_cons_self
    rcases bind_eq_error_iff.mp hrun with herror | ⟨next, hnext, hrest⟩
    · exact h.error hfirst herror rest
    · have hafter := ih (h.next hfirst hnext)
        (fun later hlater => hvalid later (List.mem_cons_of_mem step hlater))
        (by rwa [List.length_append])
      rwa [List.append_assoc] at hafter

theorem admitted_of_runSteps {steps : List Step} {template : Text}
    (hvalid : ∀ step ∈ steps, Issue.ofStep id step = [])
    (h : runSteps steps template = .error e) : e.Admitted steps := by
  have hstart : LeavesSelector [] (Draft.ofText template).selector := by
    intro step hstep
    cases hstep
  rcases bind_eq_error_iff.mp h with h | ⟨draft, -, h⟩
  · exact hstart.foldlM hvalid h
  · cases h

end Steps

/-! ### Mods and combinations -/

section Entries

variable {recipe : Recipe} {root : Path} {tree : Tree} {produced : Produced} {steps : List Step}
  {e : EntryError}

theorem admitted_of_ne_step (h : e.isRuledOut = false) (hstep : ∀ k kind x, e ≠ .step k kind x) :
    e.Admitted steps :=
  ⟨h, fun k kind _ heq => absurd heq (hstep k kind _)⟩

theorem admitted_component {x : ComponentError}
    (h : (EntryError.component x).isRuledOut = false) :
    (EntryError.component x).Admitted steps :=
  admitted_of_ne_step h (by simp)

section Search

variable {search : SearchPath} {name : Text} {x : ComponentError}

theorem isRuledOut_of_load {found : Found} (h : search.load tree found = .error x) :
    (EntryError.component x).isRuledOut = false := by
  unfold SearchPath.load at h
  split at h
  · cases h
  · obtain rfl := Except.error.inj h
    rfl

theorem isRuledOut_of_loadComponent (h : search.loadComponent tree name = .error x) :
    (EntryError.component x).isRuledOut = false := by
  rcases bind_eq_error_iff.mp h with h | ⟨found, -, h⟩
  · unfold SearchPath.findComponent at h
    split at h
    · cases h
    · obtain rfl := Except.error.inj h
      rfl
  · exact isRuledOut_of_load h

theorem isRuledOut_of_loadFile (h : search.loadFile tree name = .error x) :
    (EntryError.component x).isRuledOut = false := by
  rcases bind_eq_error_iff.mp h with h | ⟨found, -, h⟩
  · unfold SearchPath.findFile at h
    dsimp only at h
    split at h
    · cases h
    · obtain rfl := Except.error.inj h
      rfl
  · exact isRuledOut_of_load h

end Search

/-- A mod without issues names what it applies to. -/
theorem admitted_of_loadComponent {entry : Mod} (hvalid : Issue.ofTarget entry = [])
    (h : recipe.loadComponent root tree produced entry = .error e) : e.Admitted steps := by
  have hsource : recipe.findSource root tree entry = .error e := by
    rw [loadComponent_eq] at h
    cases hfound : recipe.findSource root tree entry with
    | ok file => simp [hfound, Except.map] at h
    | error e' => simpa [hfound, Except.map] using h
  unfold findSource at hsource
  split at hsource
  · obtain ⟨x, hx, rfl⟩ := mapError_eq_error_iff.mp hsource
    exact admitted_component (isRuledOut_of_loadComponent hx)
  · obtain ⟨x, hx, rfl⟩ := mapError_eq_error_iff.mp hsource
    exact admitted_component (isRuledOut_of_loadFile hx)
  · next hcomponent hfile => simp [Issue.ofTarget, hcomponent, hfile] at hvalid

theorem output_of_loadComponent {entry : Mod} {file : ComponentFile}
    (h : recipe.loadComponent root tree produced entry = .ok file) :
    file.output = recipe.outputFolder? root := by
  rw [loadComponent_eq, map_eq_ok_iff] at h
  obtain ⟨source, hsource, rfl⟩ := h
  rw [(continued_frame produced source).1]
  unfold findSource at hsource
  split at hsource
  · obtain ⟨found, -, hload⟩ := bind_eq_ok_iff.mp (mapError_eq_ok_iff.mp hsource)
    exact (load_frame hload).1
  · obtain ⟨found, -, hload⟩ := bind_eq_ok_iff.mp (mapError_eq_ok_iff.mp hsource)
    exact (load_frame hload).1
  · cases hsource

theorem admitted_of_planWrite {path : Path} {text : Text}
    (h : planWrite tree path text = .error e) : e.Admitted steps := by
  rcases bind_eq_error_iff.mp h with h | ⟨before, -, h⟩
  · obtain ⟨fault, -, rfl⟩ := mapError_eq_error_iff.mp h
    exact admitted_of_ne_step rfl (by simp)
  · cases h

theorem admitted_of_readInput {path : Path}
    (h : recipe.readInput root tree produced path = .error e) : e.Admitted steps := by
  unfold readInput at h
  split at h
  · cases h
  · split at h
    · obtain rfl := Except.error.inj h
      exact admitted_of_ne_step rfl (by simp)
    · obtain ⟨fault, -, rfl⟩ := mapError_eq_error_iff.mp h
      exact admitted_of_ne_step rfl (by simp)

variable [Digest] [Patterns]

/-- The comments are added to a template that has been set. -/
theorem admitted_of_revise {entry : Mod} {id : Option Text} {file : ComponentFile}
    (hvalid : ∀ step ∈ entry.steps, Issue.ofStep id step = [])
    (h : revise entry file = .error e) : e.Admitted entry.steps := by
  have hmissing : ∀ {file : ComponentFile} {x : ComponentError},
      x = .missingTemplate file.path → (EntryError.component x).Admitted entry.steps := by
    rintro file x rfl
    exact admitted_component rfl
  have hcomment : ∀ {file : ComponentFile} {comment : Text}, file.revised.isSome →
      (file.addComment comment).mapError .component = .error e → e.Admitted entry.steps := by
    intro file comment hrevised hadd
    obtain ⟨x, hx, rfl⟩ := mapError_eq_error_iff.mp hadd
    exact hmissing (ComponentFile.addComment_eq_error hrevised hx)
  unfold revise at h
  rcases bind_eq_error_iff.mp h with h | ⟨template, -, h⟩
  · obtain ⟨x, hx, rfl⟩ := mapError_eq_error_iff.mp h
    exact hmissing (ComponentFile.template_eq_error hx)
  rcases bind_eq_error_iff.mp h with h | ⟨revised, -, h⟩
  · exact admitted_of_runSteps hvalid h
  rcases bind_eq_error_iff.mp h with h | ⟨set, hset, h⟩
  · obtain ⟨x, hx, rfl⟩ := mapError_eq_error_iff.mp h
    exact hmissing (ComponentFile.setTemplate_eq_error hx)
  have hrevised := ComponentFile.revised_of_setTemplate (mapError_eq_ok_iff.mp hset)
  split at h
  · rcases bind_eq_error_iff.mp h with h | ⟨noted, hnoted, h⟩
    · exact hcomment hrevised h
    · exact hcomment (ComponentFile.revised_of_addComment (mapError_eq_ok_iff.mp hnoted)) h
  · exact hcomment hrevised h

theorem admitted_of_planMod {entry : Mod} (hvalid : Issue.ofMod entry = [])
    (hfolders : recipe.info.folders ≠ [])
    (h : recipe.planMod root tree produced entry = .error e) : e.Admitted entry.steps := by
  simp only [Issue.ofMod, List.append_eq_nil_iff, List.flatMap_eq_nil_iff] at hvalid
  obtain ⟨⟨⟨-, htarget⟩, -⟩, hsteps⟩ := hvalid
  rcases bind_eq_error_iff.mp h with h | ⟨file, hfile, h⟩
  · exact admitted_of_loadComponent htarget h
  rcases bind_eq_error_iff.mp h with h | ⟨revised, hrevised, h⟩
  · exact admitted_of_revise hsteps h
  split at h
  · next hnone =>
    rw [ComponentFile.target?, (revise_frame hrevised).1, output_of_loadComponent hfile] at hnone
    simp [outputFolder?, hfolders] at hnone
  · exact admitted_of_planWrite h

omit [Patterns] in
theorem admitted_of_planCombination {entry : Combination}
    (h : recipe.planCombination root tree produced entry = .error e) : e.Admitted steps := by
  rcases bind_eq_error_iff.mp h with h | ⟨source, -, h⟩
  · exact admitted_of_readInput h
  rcases bind_eq_error_iff.mp h with h | ⟨override, -, h⟩
  · exact admitted_of_readInput h
  rcases bind_eq_error_iff.mp h with h | ⟨after, -, h⟩
  · obtain ⟨x, hx, rfl⟩ := mapError_eq_error_iff.mp h
    refine admitted_of_ne_step ?_ (by simp)
    cases x with
    | edit fault => exact absurd rfl (Section.combine_ne_edit hx fault)
    | missingTarget tag => rfl
    | unknownDirective unknown => rfl
  · exact admitted_of_planWrite h

theorem admitted_of_plan (hvalid : recipe.issues = []) {entry : RecipeEntry}
    (hentry : entry ∈ recipe.entries) (h : recipe.plan root tree produced entry = .error e) :
    e.Admitted entry.steps := by
  simp only [issues, List.append_eq_nil_iff, List.flatMap_eq_nil_iff] at hvalid
  obtain ⟨⟨⟨-, hfolders⟩, hmods⟩, -⟩ := hvalid
  cases entry with
  | mod entry =>
    have hmem := mem_entries_mod.mp hentry
    refine admitted_of_planMod (hmods entry hmem) (fun hnone => ?_) h
    have hmods : recipe.mods ≠ [] := List.ne_nil_of_mem hmem
    simp [hnone, hmods] at hfolders
  | combination entry => exact admitted_of_planCombination h

omit [Digest] [Patterns] in
theorem admitted_of_commit {plan : Plan} (h : (commit tree plan).2 = .error e) :
    e.Admitted steps := by
  unfold commit at h
  split at h
  · cases h
  · dsimp only at h
    split at h
    · obtain rfl := Except.error.inj h
      exact admitted_of_ne_step rfl (by simp)
    · split at h
      · cases h
      · obtain rfl := Except.error.inj h
        exact admitted_of_ne_step rfl (by simp)

end Entries

/-! ### Runs -/

section Runs

variable [Digest] [Patterns] {recipe : Recipe} {root : Path} {tree : Tree} {produced : Produced}
  {entries : List RecipeEntry} {i : Nat} {id : Text} {e : EntryError}

/-- Each plan is that of the entry at its place. -/
theorem planAll_getElem? {planned : Except EntryError Plan}
    (h : (recipe.planAll root tree produced entries)[i]? = some (id, planned)) :
    ∃ entry earlier, entries[i]? = some entry ∧
      planned = recipe.plan root tree earlier entry := by
  induction entries generalizing produced i with
  | nil => cases h
  | cons entry rest ih =>
    cases i with
    | zero =>
      obtain ⟨-, rfl⟩ := Prod.mk.inj (Option.some.inj h)
      exact ⟨entry, produced, rfl, rfl⟩
    | succ i => exact ih h

theorem turns_getElem? {turn : Turn}
    (h : (recipe.turns root tree produced entries)[i]? = some turn) :
    entries[i]? = some turn.entry := by
  induction entries generalizing tree produced i with
  | nil => cases h
  | cons entry rest ih =>
    cases i with
    | zero =>
      obtain rfl := Option.some.inj h
      rfl
    | succ i => exact ih h

theorem admitted_of_result (hvalid : recipe.issues = []) {turn : Turn}
    (hentry : turn.entry ∈ recipe.entries) (h : turn.result recipe root = .error e) :
    e.Admitted turn.entry.steps := by
  cases hplan : turn.planned recipe root with
  | error e' =>
    rw [(Turn.of_error hplan).1] at h
    obtain rfl := Except.error.inj h
    exact admitted_of_plan hvalid hentry hplan
  | ok plan =>
    have hcommit : (commit turn.tree plan).2 = .error e := by
      rw [Turn.commit_of_planned hplan]
      exact h
    exact admitted_of_commit hcommit

/-- Whatever tree a recipe without issues is checked or run on, no entry fails with an error of
configuration or with an edit that is refused, and a step misses its selector only if no step of its
mod before it selects. -/
theorem admitted_of_issues_eq_nil (hvalid : recipe.issues = [])
    (h : (recipe.check root tree)[i]? = some (id, .error e) ∨
      (recipe.apply root tree).2[i]? = some (id, .error e)) :
    ∃ entry, recipe.entries[i]? = some entry ∧ e.Admitted entry.steps := by
  rcases h with hcheck | happly
  · obtain ⟨entry, earlier, hentry, hplan⟩ := planAll_getElem? hcheck
    exact ⟨entry, hentry, admitted_of_plan hvalid (List.mem_of_getElem? hentry) hplan.symm⟩
  · rw [results_apply, List.getElem?_map,
      Option.map_eq_some_iff] at happly
    obtain ⟨turn, hturn, hresult⟩ := happly
    have hentry := turns_getElem? hturn
    exact ⟨turn.entry, hentry,
      admitted_of_result hvalid (List.mem_of_getElem? hentry) (Prod.mk.inj hresult).2⟩

end Runs

/-- A mod whose second step would select is stopped by its first, which needs a selector. -/
theorem admitted_of_issues_eq_nil_unselected :
    let _ := Digest.multiplicative
    let _ := Patterns.leftmostFirst
    let recipe : Recipe :=
      { info := { folders := ["out".toList, "core".toList] }
        mods := [
          { id := ['a'], component := some "card".toList,
            steps := [.findFirst, .setAttribute ['n'] ['1']] },
          { id := ['b'], component := some "card".toList,
            steps := [.removeElement, .findFirst] }] }
    let root : Path := ⟨"/shop".toList⟩
    let tree : Tree := ⟨[], [(["shop".toList], .folder), (["shop".toList, "core".toList], .folder),
      (["shop".toList, "core".toList, "Card.vue".toList],
        .file (.text "<template><p>x</p></template>".toList))]⟩
    let error : EntryError := .step 0 .removeElement (.locate (.invalidSelector .notSet))
    (recipe.apply root tree).2[1]? = some (['b'], .error error) ∧
      ∃ entry, recipe.entries[1]? = some entry ∧ error.Admitted entry.steps := by
  intro digest patterns recipe root tree error
  have hresult : (recipe.apply root tree).2[1]? = some (['b'], .error error) := by
    decide +kernel
  exact ⟨hresult, admitted_of_issues_eq_nil (by decide +kernel) (.inr hresult)⟩

end Recipe

end Graft
