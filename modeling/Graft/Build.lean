import Graft.Markup.Draft
import Graft.Recipe
import Graft.Tree.Write

/-!
The running of a recipe over a tree.

The output folder holds what the run produces and nothing else: a mod reads its component from the
folders that are searched, or from what an earlier entry of the same run produced, and whatever else
is in the output folder is removed at the end. An entry that fails writes nothing, and the entries
after it are run all the same.
-/

namespace Graft

open Text Markup

/-- Why an entry of a recipe fails. Steps are counted from zero. -/
inductive EntryError
  | component (e : ComponentError)
  | step (index : Nat) (kind : StepKind) (e : DraftError)
  | combine (e : CombineError)
  | invalidPattern (pattern why : Text)
  | noTarget
  | unproduced (path : Path)
  | io (path : Path) (fault : IoFault)
  | write (fault : IoFault)
  deriving DecidableEq, Repr

def EntryError.message : EntryError → String
  | .component e => e.message
  | .step index kind e => s!"step {index + 1} ({kind.name}) failed: {e.message}"
  | .combine e => s!"combine failed: {e.message}"
  | .invalidPattern pattern why =>
    s!"invalid pattern {(quoted pattern).asString}: {why.asString}"
  | .noTarget => "mod names neither a component nor a file"
  | .unproduced path =>
    path.text.asString ++
      " is in the output directory, and no earlier entry of this run produced it"
  | .io path fault => s!"I/O error on {path.text.asString}: {fault.message}"
  | .write fault => s!"edit error: File I/O error: {fault.message}"

/-- What an entry writes: the file, the text that it holds now, and the text that it is to hold. -/
structure Plan where
  file : Path
  before : Option Text
  after : Text
  deriving DecidableEq, Repr

/-- Whether the file is to hold another text than it does. -/
def Plan.isChange (plan : Plan) : Bool := plan.before ≠ some plan.after

/-- What became of an entry that succeeded. -/
inductive Written
  | applied (file : Path)
  | unchanged (file : Path)
  deriving DecidableEq, Repr

def Written.message : Written → String
  | .applied file => s!"Wrote {file.text.asString}"
  | .unchanged file => s!"Unchanged {file.text.asString}"

/-- The texts that a run has produced so far, by the components of their paths, the latest first. -/
abbrev Produced := List (List Component × Text)

/-- The text last produced for a path. -/
def Produced.find? (produced : Produced) (p : Path) : Option Text := produced.lookup p.components

/-- An entry of a recipe. -/
inductive RecipeEntry
  | mod (entry : Mod)
  | combination (entry : Combination)
  deriving DecidableEq, Repr

def RecipeEntry.id : RecipeEntry → Text
  | .mod entry => entry.id
  | .combination entry => entry.id

/-- The entries of a recipe in the order in which they are run. -/
def Recipe.entries (recipe : Recipe) : List RecipeEntry :=
  recipe.mods.map .mod ++ recipe.combinations.map .combination

namespace Recipe

/-- What joins an appended value to the one before it when a step does not say. -/
def defaultGlue : Text := [' ']

variable [Digest] [Patterns]

/-- A draft after a step, whose position in its mod is given. -/
def runStep (draft : Draft) (step : Step) (index : Nat) : Except EntryError Draft :=
  let revised (result : Except DraftError Draft) := result.mapError (.step index step.kind)
  match step with
  | .findByTag name => .ok (draft.select (.tag name))
  | .findByAttribute name => .ok (draft.select (.attr name))
  | .findByAttributeValue name value => .ok (draft.select (.attrValue name value))
  | .findFirst => .ok (draft.select .first)
  | .setAttribute name value => revised (draft.setAttribute name value)
  | .removeAttribute name => revised (draft.removeAttribute name)
  | .reduceAttribute name value => revised (draft.reduceAttribute name value)
  | .extendAttribute name value glue =>
    revised (draft.extendAttribute name value (glue.getD defaultGlue))
  | .regexpAttribute name pattern replacement =>
    match Patterns.read pattern with
    | .error why => .error (.invalidPattern pattern why)
    | .ok p => revised (draft.replaceInAttribute name p replacement)
  | .removeElement => revised draft.removeElement
  | .renameElement name => revised (draft.renameElement name)
  | .insertBefore html => revised (draft.insertBefore html)
  | .insertAfter html => revised (draft.insertAfter html)
  | .insertInside html => revised (draft.insertInside html)
  | .unwrap => revised draft.unwrapElement

/-- A template after the steps of a mod. -/
def runSteps (steps : List Step) (template : Text) : Except EntryError Text := do
  let draft ← steps.zipIdx.foldlM (fun draft (step, i) => runStep draft step i)
    (Draft.ofText template)
  return draft.document

variable (recipe : Recipe) (root : Path) (tree : Tree) (produced : Produced)

/-- The component that a mod applies to, as the folders that are searched hold it or as an earlier
mod left it. -/
def loadComponent (entry : Mod) : Except EntryError ComponentFile := do
  let search := recipe.searchPath root
  let file ← match entry.component, entry.file with
    | some name, _ => (search.loadComponent tree name).mapError .component
    | none, some name => (search.loadFile tree name).mapError .component
    | none, none => throw .noTarget
  match file.target? none with
  | none => return file
  | some path =>
    match produced.find? path with
    | some text => return file.rebase path text
    | none => return file

/-- A component with its template after the steps of a mod, and with the comments that mark it. -/
def revise (entry : Mod) (file : ComponentFile) : Except EntryError ComponentFile := do
  let template ← file.template.mapError .component
  let revised ← runSteps entry.steps template
  let file ← (file.setTemplate revised).mapError .component
  let file ← match entry.comment with
    | some comment => (file.addComment comment).mapError .component
    | none => pure file
  (file.addComment entry.id).mapError .component

/-- What is to be written to a file. -/
def planWrite (file : Path) (after : Text) : Except EntryError Plan := do
  let before ← (tree.readIfAny file).mapError (.io file)
  return ⟨file, before, after⟩

/-- What a mod writes. -/
def planMod (entry : Mod) : Except EntryError Plan := do
  let file ← revise entry (← recipe.loadComponent root tree produced entry)
  match file.target? (entry.output.map (⟨·⟩)) with
  | none => throw .noTarget
  | some target => planWrite tree target file.text

/-- Whether a path leads into the output folder. -/
def isOutput (p : Path) : Bool := (recipe.outputFolder? root).any p.startsWith

/-- The text of a document that is combined. What is in the output folder counts only when this run
produced it. -/
def readInput (p : Path) : Except EntryError Text :=
  match produced.find? p with
  | some text => .ok text
  | none =>
    if recipe.isOutput root p then .error (.unproduced p)
    else (tree.read p).mapError (.io p)

/-- What a combination writes. -/
def planCombination (entry : Combination) : Except EntryError Plan := do
  let source ← recipe.readInput root tree produced (root.join ⟨entry.source⟩)
  let override ← recipe.readInput root tree produced (root.join ⟨entry.override⟩)
  let after ← (Section.combine source override entry.tags).mapError .combine
  planWrite tree (root.join ⟨entry.output.getD entry.source⟩) after

/-- What an entry writes. -/
def plan : RecipeEntry → Except EntryError Plan
  | .mod entry => recipe.planMod root tree produced entry
  | .combination entry => recipe.planCombination root tree produced entry

/-- What is produced after an entry that was planned. -/
def record (plan : Except EntryError Plan) : Produced :=
  match plan with
  | .ok plan => (plan.file.components, plan.after) :: produced
  | .error _ => produced

/-- The plans of entries, each made as if those before it had been run. -/
def planAll : Produced → List RecipeEntry → List (Text × Except EntryError Plan)
  | _, [] => []
  | produced, entry :: rest =>
    let planned := recipe.plan root tree produced entry
    (entry.id, planned) :: planAll (record produced planned) rest

/-- What a run of the recipe would write. Nothing is written. -/
def check : List (Text × Except EntryError Plan) := recipe.planAll root tree [] recipe.entries

/-- A tree after a plan is carried out. A file that holds its text already is left alone. -/
def commit (plan : Plan) : Tree × Except EntryError Written :=
  if !plan.isChange then (tree, .ok (.unchanged plan.file))
  else
    let parent := plan.file.parent?
    match parent.elim (tree, none) tree.makeFolders with
    | (tree, some fault) => (tree, .error (.io (parent.getD plan.file) fault))
    | (tree, none) =>
      match tree.write plan.file plan.after with
      | .ok written => (written, .ok (.applied plan.file))
      | .error fault => (tree, .error (.write fault))

/-- A tree after an entry that was planned. -/
def commitPlanned (planned : Except EntryError Plan) : Tree × Except EntryError Written :=
  match planned with
  | .ok plan => commit tree plan
  | .error e => (tree, .error e)

/-- A tree and what is produced after entries were run, with what became of each. -/
structure Run where
  tree : Tree
  produced : Produced
  results : List (Text × Except EntryError Written)

/-- The run of entries one after the other. -/
def runAll : Tree → Produced → List RecipeEntry → Run
  | tree, produced, [] => ⟨tree, produced, []⟩
  | tree, produced, entry :: rest =>
    let planned := recipe.plan root tree produced entry
    let (tree, result) := commitPlanned tree planned
    let run := runAll tree (record produced planned) rest
    { run with results := (entry.id, result) :: run.results }

/-- Whether an entry that names lead to from the output folder stays there at the end of a run: what
was produced does, and what has a path that is too long cannot be removed. -/
def staysIn (folder : Path) (names : List Name) (e : Entry) : Bool :=
  (folder.descend names).isTooLong ||
    match e with
    | .file _ => (produced.lookup (folder.components ++ names.map .normal)).isSome
    | .folder => false

/-- Removes from the output folder what a run did not produce. -/
def pruneOutput : Tree :=
  match recipe.outputFolder? root with
  | none => tree
  | some folder =>
    match tree.locate folder with
    | .error _ => tree
    | .ok l =>
      if tree.isFolderAt l then tree.prune l (staysIn produced folder) else tree

/-- The tree after a run of the recipe, with what became of each entry. -/
def apply : Tree × List (Text × Except EntryError Written) :=
  let run := recipe.runAll root tree [] recipe.entries
  (recipe.pruneOutput root run.tree run.produced, run.results)

end Recipe

end Graft
