import Graft.Command.Run

/-!
The files and folders that a command can reach.

A command looks at the files that it is given, and a command that runs a recipe also looks at the
files that the recipe combines and at all that is in the folders of the recipe.
-/

namespace Graft

open Text

/-- A path that is followed, and whether what is below the folder it leads to is looked at too. -/
structure Reach where
  path : Path
  deep : Bool
  deriving DecidableEq, Repr

/-- The locations that a path leads through, from the one where it starts. -/
def Path.trail (start : Location) (p : Path) : List Location :=
  (p.pieces.foldl (fun trail piece =>
    let l := trail.headD start
    if piece = [] ∨ piece = ['.'] then l :: trail
    else if piece = ['.', '.'] then l.dropLast :: trail
    else (l ++ [piece]) :: trail) [start]).reverse

/-- What a run of a recipe reaches below a root. -/
def Recipe.reach (recipe : Recipe) (root : Path) : List Reach :=
  recipe.info.folders.map (fun folder => ⟨root.join ⟨folder⟩, true⟩) ++
    recipe.combinations.flatMap fun entry =>
      [entry.source, entry.override, entry.output.getD entry.source].map fun t =>
        ⟨root.join ⟨t⟩, false⟩

namespace Command

/-- The file of the recipe that a command runs, and the root that was given with it. -/
def recipeFile? : Command → Option (Path × Option Path)
  | .apply recipe root _ _ | .check recipe root => some (recipe, root)
  | .combine _ _ _ _ | .list _ _ => none

/-- What a command reaches by the paths that it is given. -/
def reach : Command → List Reach
  | .apply recipe root _ _ | .check recipe root => [⟨recipe, false⟩, ⟨rootOf recipe root, false⟩]
  | .combine source override _ output =>
    ([source, override] ++ output.toList).map fun path => ⟨path, false⟩
  | .list recipe _ => [⟨recipe, false⟩]

/-- What a command reaches by the recipe that it runs, in a tree with all that it reaches by the
paths that it is given. -/
def reachOfRecipe [Patterns] (tree : Tree) (command : Command) : List Reach :=
  match command.recipeFile? with
  | none => []
  | some (file, root) =>
    match loadRecipe tree file, resolveRoot tree (rootOf file root) with
    | .ok recipe, .ok root => recipe.reach root
    | _, _ => []

end Command

end Graft
