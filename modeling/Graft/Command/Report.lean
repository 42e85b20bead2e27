import Graft.Build
import Graft.Diff
import Graft.Recipe.Encode
import Graft.Recipe.Load
import Graft.Recipe.Print

/-!
What commands print: reports of what became of entries on the standard output, errors on the
standard error output.
-/

namespace Graft.Command

open Text

/-- What is printed on the standard output and on the standard error output. -/
structure Printed where
  out : String := ""
  err : String := ""
  deriving DecidableEq, Repr

namespace Printed

instance : Append Printed where
  append p q := ⟨p.out ++ q.out, p.err ++ q.err⟩

/-- What is printed piece by piece. -/
def all (pieces : List Printed) : Printed := pieces.foldl (· ++ ·) {}

/-- A line on the standard output. -/
def line (text : String) : Printed := { out := text ++ "\n" }

/-- A line on the standard error output. -/
def errorLine (text : String) : Printed := { err := text ++ "\n" }

end Printed

open Printed

/-- Why a command fails as a whole, with what caused that, the nearest cause first. -/
structure Failure where
  message : String
  causes : List String := []
  deriving DecidableEq, Repr

namespace Failure

/-- A cause with all its lines set in. -/
def indentCause (cause : String) : String :=
  String.ofList ((splitOn '\n' cause.toList).map ("    ".toList ++ ·) |> joinWith ['\n'])

/-- What is printed on a failure. No failure has more than one cause. -/
def printed (e : Failure) : Printed :=
  let causes := e.causes.map fun cause => s!"\n\nCaused by:\n{indentCause cause}"
  errorLine s!"Error: {e.message}{String.join causes}"

/-- A failed file operation, and what was tried. -/
def ofFault (attempt : String) (fault : IoFault) : Failure := ⟨attempt, [fault.message]⟩

end Failure

/-- The failure to load a recipe from a file. -/
def loadFailure (file : Path) (e : LoadError) : Failure where
  message := e.message file.text
  causes :=
    match e with
    | .notDocument | .givenUp => []
    | .entry _ _ _ e => [e.message]
    | .invalid issues => ["\n".intercalate (issues.map Issue.message)]

/-- The failure to combine two documents. -/
def combineFailure (e : CombineError) : Failure where
  message := e.message
  causes :=
    match e with
    | .edit e => [e.message]
    | _ => []

/-- The comparison of what a file held with what it is to hold. -/
def printDiff (file : Path) (old new : Text) : Printed :=
  line s!"\n--- {file.text.asString} (original)" ++ line s!"+++ {file.text.asString} (combined)"
    ++ { out := (Diff.ofTexts old new).asString }

/-- The error of an entry, with what may have led to it. -/
def printError (id : Text) (e : EntryError) : Printed :=
  errorLine s!"✗ {id.asString}: Error - {e.message}" ++
    match e with
    | .step _ _ _ =>
      all (["  Nothing was written for this entry", "  Possible causes:",
        "    - The selector no longer matches the component template",
        "    - A step runs before any find-* step sets a selector"].map errorLine)
    | .component e => errorLine s!"  Component error: {e.message}"
    | _ => {}

/-- What became of an entry. -/
inductive Fate
  | written
  | unchanged
  | failed
  deriving DecidableEq, Repr

/-- The line for an entry that was not changed. -/
def printUnchanged (id : Text) (file : Path) : Printed :=
  line s!"⊙ {id.asString}: Unchanged {file.text.asString}"

/-- The report of an entry that was only planned. -/
def reportPlan (diff : Bool) (id : Text) : Except EntryError Plan → Fate × Printed
  | .ok plan =>
    if plan.isChange then
      let changes := if diff then printDiff plan.file (plan.before.getD []) plan.after else {}
      (.written, line s!"✓ {id.asString}: Would write {plan.file.text.asString}" ++ changes)
    else (.unchanged, printUnchanged id plan.file)
  | .error e => (.failed, printError id e)

/-- The text that a file held according to a plan, empty where there was none. -/
def plannedBefore : Except EntryError Plan → Text
  | .ok plan => plan.before.getD []
  | .error _ => []

/-- The report of an entry that was carried out, given what its file held before. The comparison is
with what the file holds at the end. -/
def reportWritten (diff : Bool) (tree : Tree) (before : Text) (id : Text) :
    Except EntryError Written → Fate × Printed
  | .ok (.applied file) =>
    let changes :=
      match diff, tree.read file with
      | true, .ok after => printDiff file before after
      | _, _ => {}
    (.written, line s!"✓ {id.asString}: Wrote {file.text.asString}" ++ changes)
  | .ok (.unchanged file) => (.unchanged, printUnchanged id file)
  | .error e => (.failed, printError id e)

/-- How often each fate befell. -/
def printSummary (fates : List Fate) : Printed :=
  all [line "", line "Summary:", line s!"  {fates.count .written} written",
    line s!"  {fates.count .unchanged} unchanged", line s!"  {fates.count .failed} failed"]

/-- Lines under a heading that counts them, none where there is nothing to count. -/
def printGroup (heading : String) (entries : List String) : Printed :=
  if entries.isEmpty then {}
  else
    line s!"{heading} ({entries.length} entries)" ++ all (entries.map fun e => line s!"  - {e}")
      ++ line ""

/-- The name under which a recipe is announced: its own or, where it has none, that of its file. -/
def printName (recipe : Recipe) (file : Path) : Printed :=
  let name := if recipe.info.name.isEmpty then file.text else recipe.info.name
  line s!"Recipe: {name.asString}"

/-- The entry of a mod in a list of entries. -/
def printMod (entry : Mod) : Printed :=
  let target : Text := (entry.component <|> entry.file).getD ['?']
  line s!"  {entry.id.asString} {target.asString} ({entry.steps.length} steps)" ++
    all (entry.steps.map fun step =>
      let indented := if step.kind.selects then "    " else "      - "
      line (indented ++ step.kind.name))

/-- The entry of a combination in a list of entries. -/
def printCombination (entry : Combination) : Printed :=
  let documents := s!"{entry.source.asString} + {entry.override.asString}"
  let tags : Text := joinWith [',', ' '] entry.tags
  line s!"  {entry.id.asString} {documents} [{tags.asString}]"

/-- The entries of a recipe. -/
def printEntries (recipe : Recipe) : Printed :=
  line "Mods:" ++ all (recipe.mods.map printMod) ++ line "Combines:"
    ++ all (recipe.combinations.map printCombination)

end Graft.Command
