import Graft.Component.Search
import Graft.Section.Combine

/-!
Recipes: what to change in which components, and which documents to combine.

The first folder of a recipe receives the output, and components are searched for in the others.
-/

namespace Graft

open Text

/-- A step of a mod. The `find` steps select the element that the steps after them act on. -/
inductive Step
  | findByTag (name : Text)
  | findByAttribute (name : Text)
  | findByAttributeValue (name value : Text)
  | findFirst
  | setAttribute (name value : Text)
  | removeAttribute (name : Text)
  | reduceAttribute (name value : Text)
  | extendAttribute (name value : Text) (glue : Option Text)
  | regexpAttribute (name pattern replacement : Text)
  | removeElement
  | renameElement (name : Text)
  | insertBefore (html : Text)
  | insertAfter (html : Text)
  | insertInside (html : Text)
  | unwrap
  deriving DecidableEq, Repr

/-- The kinds of steps. -/
inductive StepKind
  | findByTag
  | findByAttribute
  | findByAttributeValue
  | findFirst
  | setAttribute
  | removeAttribute
  | reduceAttribute
  | extendAttribute
  | regexpAttribute
  | removeElement
  | renameElement
  | insertBefore
  | insertAfter
  | insertInside
  | unwrap
  deriving DecidableEq, Repr

namespace StepKind

def all : List StepKind :=
  [.findByTag, .findByAttribute, .findByAttributeValue, .findFirst, .setAttribute,
    .removeAttribute, .reduceAttribute, .extendAttribute, .regexpAttribute, .removeElement,
    .renameElement, .insertBefore, .insertAfter, .insertInside, .unwrap]

/-- The name of a kind as recipes write it. -/
def name : StepKind → String
  | .findByTag => "find-by-tag"
  | .findByAttribute => "find-by-attribute"
  | .findByAttributeValue => "find-by-attribute-value"
  | .findFirst => "find-first"
  | .setAttribute => "set-attribute"
  | .removeAttribute => "remove-attribute"
  | .reduceAttribute => "reduce-attribute"
  | .extendAttribute => "extend-attribute"
  | .regexpAttribute => "regexp-attribute"
  | .removeElement => "remove-element"
  | .renameElement => "rename-element"
  | .insertBefore => "insert-before"
  | .insertAfter => "insert-after"
  | .insertInside => "insert-inside"
  | .unwrap => "unwrap"

/-- The kind with a name. -/
def ofName? (t : Text) : Option StepKind := all.find? fun kind => kind.name.toList == t

/-- Whether the steps of a kind select an element. -/
def selects : StepKind → Bool
  | .findByTag | .findByAttribute | .findByAttributeValue | .findFirst => true
  | _ => false

end StepKind

namespace Step

def kind : Step → StepKind
  | .findByTag _ => .findByTag
  | .findByAttribute _ => .findByAttribute
  | .findByAttributeValue _ _ => .findByAttributeValue
  | .findFirst => .findFirst
  | .setAttribute _ _ => .setAttribute
  | .removeAttribute _ => .removeAttribute
  | .reduceAttribute _ _ => .reduceAttribute
  | .extendAttribute _ _ _ => .extendAttribute
  | .regexpAttribute _ _ _ => .regexpAttribute
  | .removeElement => .removeElement
  | .renameElement _ => .renameElement
  | .insertBefore _ => .insertBefore
  | .insertAfter _ => .insertAfter
  | .insertInside _ => .insertInside
  | .unwrap => .unwrap

end Step

/-- A change to one component, which is named or given by its file. -/
structure Mod where
  id : Text
  component : Option Text := none
  file : Option Text := none
  output : Option Text := none
  comment : Option Text := none
  steps : List Step := []
  deriving DecidableEq, Repr

/-- A combination of two documents. -/
structure Combination where
  id : Text
  source : Text
  override : Text
  output : Option Text := none
  tags : List Text := Section.defaultTags
  deriving DecidableEq, Repr

/-- What a recipe says of itself and of the folders it works on. -/
structure RecipeInfo where
  name : Text := []
  description : Option Text := none
  folders : List Text := []
  extension : Text := SearchPath.defaultExtension
  deriving DecidableEq, Repr

structure Recipe where
  info : RecipeInfo := {}
  mods : List Mod := []
  combinations : List Combination := []
  deriving DecidableEq, Repr

namespace Recipe

variable (recipe : Recipe)

/-- The folder for output, below a root. -/
def outputFolder? (root : Path) : Option Path := recipe.info.folders.head?.map (root.join ⟨·⟩)

/-- The folders in which components are searched for, below a root. -/
def sourceFolders (root : Path) : List Path := recipe.info.folders.tail.map (root.join ⟨·⟩)

/-- The search for the components of a recipe. -/
def searchPath (root : Path) : SearchPath :=
  let search := SearchPath.ofFolders (recipe.sourceFolders root)
  let search := search.withExtension recipe.info.extension
  (recipe.outputFolder? root).elim search search.withOutput

end Recipe

end Graft
