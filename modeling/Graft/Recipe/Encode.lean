import Graft.Recipe
import Graft.Recipe.Datum

/-!
Recipes as data.

The fields of each object are those that are read back, in the order of its declaration. What is
absent is null.
-/

namespace Graft

open Text

namespace Datum

/-- An object with named fields. -/
def ofFields (fields : List (String × Datum)) : Datum :=
  .object (fields.map fun (name, d) => (name.toList, d))

def ofOption (t : Option Text) : Datum := t.elim .null .string

def ofTexts (ts : List Text) : Datum := .array (ts.map .string)

end Datum

open Datum

/-- The fields of a step without its kind. -/
def Step.fields : Step → List (String × Datum)
  | .findByTag name | .findByAttribute name | .removeAttribute name | .renameElement name =>
    [("name", .string name)]
  | .findByAttributeValue name value | .setAttribute name value | .reduceAttribute name value =>
    [("name", .string name), ("value", .string value)]
  | .extendAttribute name value glue =>
    [("name", .string name), ("value", .string value), ("glue", ofOption glue)]
  | .regexpAttribute name pattern replacement =>
    [("name", .string name), ("pattern", .string pattern), ("replacement", .string replacement)]
  | .insertBefore html | .insertAfter html | .insertInside html => [("html", .string html)]
  | .findFirst | .removeElement | .unwrap => []

def Step.toDatum (step : Step) : Datum :=
  .ofFields (("type", .string step.kind.name.toList) :: step.fields)

def Mod.toDatum (entry : Mod) : Datum :=
  .ofFields [("id", .string entry.id), ("component", ofOption entry.component),
    ("file", ofOption entry.file), ("output", ofOption entry.output),
    ("comment", ofOption entry.comment), ("steps", .array (entry.steps.map Step.toDatum))]

def Combination.toDatum (entry : Combination) : Datum :=
  .ofFields [("id", .string entry.id), ("source", .string entry.source),
    ("override", .string entry.override), ("output", ofOption entry.output),
    ("tags", ofTexts entry.tags)]

def RecipeInfo.toDatum (info : RecipeInfo) : Datum :=
  .ofFields [("name", .string info.name), ("description", ofOption info.description),
    ("directories", ofTexts info.folders), ("extension", .string info.extension)]

def Recipe.toDatum (recipe : Recipe) : Datum :=
  .ofFields [("meta", recipe.info.toDatum), ("mods", .array (recipe.mods.map Mod.toDatum)),
    ("combines", .array (recipe.combinations.map Combination.toDatum))]

end Graft
