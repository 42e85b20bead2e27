import Graft.Command.Arguments
import Graft.Command.Help
import Graft.Command.Report

/-!
The running of commands over a tree.

A command that fails as a whole still prints what it got to before. One that ran to its end fails
when one of its entries did, and a check also when an entry would change a file.
-/

namespace Graft.Command

open Text Printed

/-- What a command leaves: its exit code, what it printed, and the tree. -/
structure Outcome where
  code : Nat
  printed : Printed
  tree : Tree

namespace Outcome

/-- The outcome of a command that failed as a whole after printing something. -/
def ofFailure (tree : Tree) (printed : Printed) (e : Failure) : Outcome :=
  ⟨1, printed ++ e.printed, tree⟩

end Outcome

variable [Digest] [Patterns] (tree : Tree)

/-- The recipe in a file. -/
def loadRecipe (file : Path) : Except Failure Recipe := do
  let text ← (tree.read file).mapError fun fault =>
    .ofFault s!"failed to read recipe {file.text.asString}: {fault.message}" fault
  (Recipe.ofText text).mapError (loadFailure file)

/-- The root of a recipe: the folder that is named or, where none is, the folder of the recipe. -/
def rootOf (recipe : Path) (root : Option Path) : Path :=
  match root, recipe.parent? with
  | some root, _ => root
  | none, some folder => if folder.text.isEmpty then ⟨['.']⟩ else folder
  | none, none => ⟨['.']⟩

/-- The absolute path of the place that a root leads to. -/
def resolveRoot (root : Path) : Except Failure Path :=
  match tree.locate root with
  | .ok l => .ok ⟨'/' :: (Path.ofNames l).text⟩
  | .error fault => .error (.ofFault s!"recipe root {root.text.asString} does not exist" fault)

/-- A recipe that was announced, and its root. -/
def withRecipe (file : Path) (root : Option Path) (run : Recipe → Path → Printed → Outcome) :
    Outcome :=
  match loadRecipe tree file with
  | .error e => .ofFailure tree {} e
  | .ok recipe =>
    let announced := printName recipe file
    match resolveRoot tree (rootOf file root) with
    | .error e => .ofFailure tree announced e
    | .ok root => run recipe root announced

/-- The outcome of a run whose entries met their fates. -/
def conclude (announced : Printed) (reports : List (Fate × Printed)) : Outcome :=
  let fates := reports.map (·.1)
  ⟨if fates.contains .failed then 1 else 0,
    announced ++ all (reports.map (·.2)) ++ printSummary fates, tree⟩

/-- Tells what a run of a recipe would write. -/
def runDry (diff : Bool) (recipe : Recipe) (root : Path) (announced : Printed) : Outcome :=
  conclude tree (announced ++ line "[DRY RUN - showing what would be written]")
    ((recipe.check root tree).map fun (id, planned) => reportPlan diff id planned)

/-- Runs a recipe. -/
def runRecipe (diff : Bool) (recipe : Recipe) (root : Path) (announced : Printed) : Outcome :=
  let before := (recipe.check root tree).map fun (_, planned) => plannedBefore planned
  let (tree, results) := recipe.apply root tree
  conclude tree announced
    ((results.zip before).map fun ((id, result), before) =>
      reportWritten diff tree before id result)

def runApply (file : Path) (root : Option Path) (dry diff : Bool) : Outcome :=
  withRecipe tree file root fun recipe root announced =>
    let announced := announced ++ line s!"Root: {root.text.asString}" ++ line ""
    if dry then runDry tree diff recipe root announced
    else runRecipe tree diff recipe root announced

/-- Tells which entries of a recipe would change a file. -/
def runCheck (file : Path) (root : Option Path) : Outcome :=
  withRecipe tree file root fun recipe root announced =>
    let planned := recipe.check root tree
    let upToDate := planned.filterMap fun (id, p) =>
      match p with
      | .ok plan => if plan.isChange then none else some id.asString
      | .error _ => none
    let pending := planned.filterMap fun (id, p) =>
      match p with
      | .ok plan =>
        if plan.isChange then some s!"{id.asString} ({plan.file.text.asString})" else none
      | .error _ => none
    let failed := planned.filterMap fun (id, p) =>
      match p with
      | .ok _ => none
      | .error e => some s!"{id.asString} ({e.message})"
    ⟨if pending.isEmpty ∧ failed.isEmpty then 0 else 1,
      announced ++ line "" ++ printGroup "✓ UP TO DATE" upToDate
        ++ printGroup "⊙ WOULD CHANGE" pending ++ printGroup "✗ FAILED" failed, tree⟩

/-- Writes a text to a file in a folder that is made if there is none. -/
def writeOutput (file : Path) (t : Text) : Outcome :=
  let (tree, fault) :=
    match file.parent? with
    | some folder => tree.makeFolders folder
    | none => (tree, none)
  match fault with
  | some fault => .ofFailure tree {} ⟨fault.message, []⟩
  | none =>
    match tree.write file t with
    | .error fault => .ofFailure tree {} (.ofFault s!"File I/O error: {fault.message}" fault)
    | .ok tree => ⟨0, errorLine s!"✓ Wrote {file.text.asString}", tree⟩

/-- The text of a document that is combined. -/
def readDocument (file : Path) : Except Failure Text :=
  (tree.read file).mapError (.ofFault s!"failed to read {file.text.asString}")

def runCombine (source override : Path) (tags : List Text) (output : Option Path) : Outcome :=
  let combined : Except Failure Text := do
    let sourceText ← readDocument tree source
    let overrideText ← readDocument tree override
    (Section.combine sourceText overrideText tags).mapError combineFailure
  match combined, output with
  | .error e, _ => .ofFailure tree {} e
  | .ok t, some file => writeOutput tree file t
  | .ok t, none => ⟨0, { out := t.asString }, tree⟩

/-- Tells the entries of a recipe. -/
def runList (file : Path) (asData : Bool) : Outcome :=
  match loadRecipe tree file with
  | .error e => .ofFailure tree {} e
  | .ok recipe =>
    let printed :=
      if asData then line (recipe.toDatum.print 0).asString else printEntries recipe
    ⟨0, printed, tree⟩

/-- The outcome of a command. -/
def run : Command → Outcome
  | .apply recipe root dry diff => runApply tree recipe root dry diff
  | .check recipe root => runCheck tree recipe root
  | .combine source override tags output => runCombine tree source override tags output
  | .list recipe asData => runList tree recipe asData

/-- The outcome where there is no command to run. A wrong command line is answered by how it is made
up. -/
def interrupt : Interruption → Outcome
  | .usage => ⟨2, { err := Page.program.render }, tree⟩
  | .help page => ⟨0, { out := page.render }, tree⟩
  | .version => ⟨0, { out := versionText }, tree⟩

/-- The outcome of a command line. -/
def runArguments (args : List Text) : Outcome :=
  match ofArguments args with
  | .ok command => run tree command
  | .error interruption => interrupt tree interruption

end Graft.Command
