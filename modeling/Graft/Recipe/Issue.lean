import Graft.Pattern.Matcher
import Graft.Recipe

/-!
What is wrong with a recipe before it is run.

All issues are reported at once: first those of the recipe as a whole and of its folders, then those
of each mod and of each combination in order.
-/

namespace Graft

open Text

/-- A field that must be filled. -/
inductive RecipeField
  | folders
  | id
  | component
  | file
  | source
  | override
  | tags
  | stepName
  | stepValue
  | stepPattern
  | stepHtml
  deriving DecidableEq, Repr

/-- The name of a field as recipes write it. -/
def RecipeField.name : RecipeField → String
  | .folders => "meta.directories"
  | .id => "id"
  | .component => "component"
  | .file => "file"
  | .source => "source"
  | .override => "override"
  | .tags => "tags"
  | .stepName => "steps.name"
  | .stepValue => "steps.value"
  | .stepPattern => "steps.pattern"
  | .stepHtml => "steps.html"

/-- A choice of values that do not go together. -/
inductive Conflict
  | componentAndFile
  | noSteps
  | outputNotBelowRoot (output : Text)
  | noSourceFolder
  | overlap (output source : Text)
  deriving DecidableEq, Repr

def Conflict.message : Conflict → String
  | .componentAndFile => "component and file are mutually exclusive"
  | .noSteps => "mod has no steps"
  | .outputNotBelowRoot output =>
    s!"output directory '{output.asString}' must be a relative path below the recipe root"
  | .noSourceFolder =>
    "meta.directories needs the output directory followed by at least one source directory"
  | .overlap output source =>
    s!"output directory '{output.asString}' overlaps source directory '{source.asString}'"

/-- An issue of a recipe, with the id of the entry it is in. For a pattern it says what is wrong. -/
inductive Issue
  | emptyRecipe
  | missingField (entry : Option Text) (field : RecipeField)
  | conflict (entry : Option Text) (what : Conflict)
  | invalidPattern (entry : Option Text) (why : Text)
  deriving DecidableEq, Repr

def Issue.message : Issue → String
  | .emptyRecipe => "recipe contains no mods or combines"
  | .missingField (some id) field =>
    s!"'{id.asString}' missing required field '{field.name}'"
  | .missingField none field => s!"missing required field '{field.name}'"
  | .conflict (some id) what => s!"'{id.asString}' has invalid configuration: {what.message}"
  | .conflict none what => s!"invalid recipe configuration: {what.message}"
  | .invalidPattern (some id) why =>
    s!"'{id.asString}' has an invalid regular expression: {why.asString}"
  | .invalidPattern none why => s!"invalid regular expression: {why.asString}"

namespace Issue

/-- The issue of a field with nothing in it but white space. -/
def ofBlank (entry : Option Text) (field : RecipeField) (value : Text) : List Issue :=
  if isWhite value then [.missingField entry field] else []

/-- The id by which messages call an entry. -/
def entryName? (id : Text) : Option Text := if isWhite id then none else some (trim id)

variable [Patterns]

/-- The issue of a text that is refused as a pattern. -/
def ofPattern (entry : Option Text) (pattern : Text) : List Issue :=
  match Patterns.read pattern with
  | .ok _ => []
  | .error why => [.invalidPattern entry why]

/-- The issues of a step. -/
def ofStep (entry : Option Text) : Step → List Issue
  | .findByTag name | .findByAttribute name | .removeAttribute name | .renameElement name
  | .setAttribute name _ => ofBlank entry .stepName name
  | .findByAttributeValue name value | .reduceAttribute name value
  | .extendAttribute name value _ =>
    ofBlank entry .stepName name ++ ofBlank entry .stepValue value
  | .regexpAttribute name pattern _ =>
    ofBlank entry .stepName name ++ ofBlank entry .stepPattern pattern ++ ofPattern entry pattern
  | .insertBefore html | .insertAfter html | .insertInside html => ofBlank entry .stepHtml html
  | .findFirst | .removeElement | .unwrap => []

/-- The issues of what a mod applies to. -/
def ofTarget (entry : Mod) : List Issue :=
  let id := entryName? entry.id
  match entry.component, entry.file with
  | some _, some _ => [.conflict id .componentAndFile]
  | none, none => [.missingField id .component]
  | some name, none => ofBlank id .component name
  | none, some name => ofBlank id .file name

/-- The issues of a mod. -/
def ofMod (entry : Mod) : List Issue :=
  let id := entryName? entry.id
  ofBlank none .id entry.id ++ ofTarget entry ++
    (if entry.steps.isEmpty then [.conflict id .noSteps] else []) ++
    entry.steps.flatMap (ofStep id)

/-- The issues of a combination. -/
def ofCombination (entry : Combination) : List Issue :=
  let id := entryName? entry.id
  ofBlank none .id entry.id ++ ofBlank id .source entry.source ++
    ofBlank id .override entry.override ++
    if entry.tags.any isWhite then [.missingField id .tags] else []

/-- Whether a path is relative and made of names only. -/
def isPlain (p : Path) : Bool :=
  !p.components.isEmpty && p.components.all fun
    | .normal _ => true
    | _ => false

/-- Whether one of two paths begins with the other, a `.` at the start of the second aside. -/
def overlaps (output source : Path) : Bool :=
  let sourceParts := source.components.filter (· ≠ .current)
  output.components.isPrefixOf sourceParts || sourceParts.isPrefixOf output.components

/-- The issues of a recipe's folders. -/
def ofFolders : List Text → List Issue
  | [] => []
  | output :: sources =>
    (if isPlain ⟨output⟩ then [] else [.conflict none (.outputNotBelowRoot output)]) ++
      (if sources.isEmpty then [.conflict none .noSourceFolder] else []) ++
      (sources.filter fun source => overlaps ⟨output⟩ ⟨source⟩).map fun source =>
        .conflict none (.overlap output source)

end Issue

/-- The issues of a recipe. -/
def Recipe.issues [Patterns] (recipe : Recipe) : List Issue :=
  (if recipe.mods.isEmpty && recipe.combinations.isEmpty then [.emptyRecipe] else []) ++
    (if !recipe.mods.isEmpty && recipe.info.folders.isEmpty then [.missingField none .folders]
      else Issue.ofFolders recipe.info.folders) ++
    recipe.mods.flatMap Issue.ofMod ++ recipe.combinations.flatMap Issue.ofCombination

end Graft
