import Graft.Recipe
import Graft.Recipe.Datum

/-!
The reading of recipe entries from data.

An entry is an object, or an array with the values of its fields in order. The fields of an object
are read in the order of their names, fields that an entry does not have are passed over, and a
field that is missing counts only once all others are read.
-/

namespace Graft

open Text

/-- What stands where something else was found. -/
inductive Expected
  | string
  | sequence
  | step
  | stepKind
  | entry (name : String)
  | entryItems (name : String) (count : Nat)
  | stepItems (kind : StepKind) (count : Nat)
  | fewerItems
  | items (count : Nat)
  deriving DecidableEq, Repr

/-- A number of elements, in words. -/
def elementCount (n : Nat) : String := if n = 1 then "1 element" else s!"{n} elements"

def Expected.describe : Expected → String
  | .string => "a string"
  | .sequence => "a sequence"
  | .step => "internally tagged enum Step"
  | .stepKind => "variant identifier"
  | .entry name => s!"struct {name}"
  | .entryItems name count => s!"struct {name} with {elementCount count}"
  | .stepItems kind count =>
    let name : Text := pascalCase kind.name.toList
    s!"struct variant Step::{name.asString} with {elementCount count}"
  | .fewerItems => "fewer elements in array"
  | .items count => s!"{elementCount count} in sequence"

/-- Why data cannot be read as an entry. -/
inductive DecodeError
  | invalidType (found : Datum) (expected : Expected)
  | invalidLength (length : Nat) (expected : Expected)
  | missingField (name : String)
  | unknownKind (name : Text)

def DecodeError.message : DecodeError → String
  | .invalidType found expected => s!"invalid type: {found.describe}, expected {expected.describe}"
  | .invalidLength length expected => s!"invalid length {length}, expected {expected.describe}"
  | .missingField name => s!"missing field `{name}`"
  | .unknownKind name =>
    let kinds := ", ".intercalate (StepKind.all.map fun kind => s!"`{kind.name}`")
    s!"unknown variant `{name.asString}`, expected one of {kinds}"

abbrev Decoded := Except DecodeError

namespace Datum

def decodeText : Datum → Decoded Text
  | .string t => .ok t
  | d => .error (.invalidType d .string)

/-- A text that may be absent. -/
def decodeOption : Datum → Decoded (Option Text)
  | .null => .ok none
  | d => d.decodeText.map some

def decodeList (decode : Datum → Decoded α) : Datum → Decoded (List α)
  | .array items => items.mapM decode
  | d => .error (.invalidType d .sequence)

/-- The fields of an object in the order of their names. -/
def inNameOrder (fields : List (Text × Datum)) : List (Text × Datum) :=
  fields.mergeSort fun a b => !decide (b.1 < a.1)

/-- The value of a field that an object must have. -/
def required (decode : Datum → Decoded α) (fields : List (Text × Datum)) (name : String) :
    Decoded α :=
  match fields.lookup name.toList with
  | some d => decode d
  | none => .error (.missingField name)

/-- The value of a field, or what stands in for it. -/
def optional (decode : Datum → Decoded α) (fields : List (Text × Datum)) (name : String)
    (default : α) : Decoded α :=
  match fields.lookup name.toList with
  | some d => decode d
  | none => .ok default

/-- The value at a position that a list must have. -/
def requiredAt (decode : Datum → Decoded α) (items : List Datum) (i : Nat) (expected : Expected) :
    Decoded α :=
  match items[i]? with
  | some d => decode d
  | none => .error (.invalidLength i expected)

/-- The value at a position of a list, or what stands in for it. -/
def optionalAt (decode : Datum → Decoded α) (items : List Datum) (i : Nat) (default : α) :
    Decoded α :=
  match items[i]? with
  | some d => decode d
  | none => .ok default

end Datum

open Datum

namespace StepKind

/-- The fields of the steps of a kind, and whether each must be there. -/
def fields : StepKind → List (String × Bool)
  | .findByTag | .findByAttribute | .removeAttribute | .renameElement => [("name", true)]
  | .findByAttributeValue | .setAttribute | .reduceAttribute => [("name", true), ("value", true)]
  | .extendAttribute => [("name", true), ("value", true), ("glue", false)]
  | .regexpAttribute => [("name", true), ("pattern", true), ("replacement", true)]
  | .insertBefore | .insertAfter | .insertInside => [("html", true)]
  | .findFirst | .removeElement | .unwrap => []

/-- The step of a kind whose fields have the given values. -/
def step (kind : StepKind) (value : String → Option Text) : Step :=
  let text (name : String) := (value name).getD []
  match kind with
  | .findByTag => .findByTag (text "name")
  | .findByAttribute => .findByAttribute (text "name")
  | .findByAttributeValue => .findByAttributeValue (text "name") (text "value")
  | .findFirst => .findFirst
  | .setAttribute => .setAttribute (text "name") (text "value")
  | .removeAttribute => .removeAttribute (text "name")
  | .reduceAttribute => .reduceAttribute (text "name") (text "value")
  | .extendAttribute => .extendAttribute (text "name") (text "value") (value "glue")
  | .regexpAttribute => .regexpAttribute (text "name") (text "pattern") (text "replacement")
  | .removeElement => .removeElement
  | .renameElement => .renameElement (text "name")
  | .insertBefore => .insertBefore (text "html")
  | .insertAfter => .insertAfter (text "html")
  | .insertInside => .insertInside (text "html")
  | .unwrap => .unwrap

def decode : Datum → Decoded StepKind
  | .string t =>
    match ofName? t with
    | some kind => .ok kind
    | none => .error (.unknownKind t)
  | d => .error (.invalidType d .stepKind)

/-- The value of a field of a step. -/
def decodeField (mandatory : Bool) (d : Datum) : Decoded (Option Text) :=
  if mandatory then d.decodeText.map some else d.decodeOption

/-- Reads a field of an object, if steps of the kind have such a field. -/
def checkField (kind : StepKind) (field : Text × Datum) : Decoded Unit :=
  match kind.fields.find? fun (name, _) => name.toList = field.1 with
  | some (_, mandatory) => (decodeField mandatory field.2).map fun _ => ()
  | none => .ok ()

/-- The step of a kind with the fields of an object. -/
def decodeFields (kind : StepKind) (fields : List (Text × Datum)) : Decoded Step := do
  (inNameOrder fields).forM kind.checkField
  let values ← kind.fields.mapM fun (name, mandatory) => do
    let value ←
      if mandatory then required (decodeField true) fields name
      else optional (decodeField false) fields name none
    return (name, value)
  return kind.step fun name => (values.lookup name).join

/-- The step of a kind with the values of its fields in order. -/
def decodeItems (kind : StepKind) (items : List Datum) : Decoded Step := do
  let count := kind.fields.length
  let values ← kind.fields.zipIdx.mapM fun ((name, mandatory), i) => do
    let value ←
      if mandatory then requiredAt (decodeField true) items i (.stepItems kind count)
      else optionalAt (decodeField false) items i none
    return (name, value)
  if count < items.length then throw (.invalidLength items.length (.items count))
  return kind.step fun name => (values.lookup name).join

end StepKind

def Step.decode : Datum → Decoded Step
  | .object fields => do
    let kind ← required StepKind.decode fields "type"
    kind.decodeFields (fields.filter fun field => field.1 ≠ "type".toList)
  | .array [] => .error (.missingField "type")
  | .array (d :: items) => do (← StepKind.decode d).decodeItems items
  | d => .error (.invalidType d .step)

namespace Mod

/-- The name by which messages call the form of a mod. -/
def form : String := "ModDefinition"

/-- Reads a field of an object, if mods have such a field. -/
def checkField (field : Text × Datum) : Decoded Unit :=
  let d := field.2
  let among (names : List String) : Bool := names.any fun name => name.toList = field.1
  if among ["id"] then d.decodeText.map fun _ => ()
  else if among ["component", "file", "output", "comment"] then d.decodeOption.map fun _ => ()
  else if among ["steps"] then (d.decodeList Step.decode).map fun _ => ()
  else .ok ()

def decode : Datum → Decoded Mod
  | .object fields => do
    (inNameOrder fields).forM checkField
    return {
      id := ← required decodeText fields "id"
      component := ← optional decodeOption fields "component" none
      file := ← optional decodeOption fields "file" none
      output := ← optional decodeOption fields "output" none
      comment := ← optional decodeOption fields "comment" none
      steps := ← optional (decodeList Step.decode) fields "steps" [] }
  | .array items => do
    let entry : Mod := {
      id := ← requiredAt decodeText items 0 (.entryItems form 6)
      component := ← optionalAt decodeOption items 1 none
      file := ← optionalAt decodeOption items 2 none
      output := ← optionalAt decodeOption items 3 none
      comment := ← optionalAt decodeOption items 4 none
      steps := ← optionalAt (decodeList Step.decode) items 5 [] }
    if 6 < items.length then throw (.invalidLength items.length .fewerItems)
    return entry
  | d => .error (.invalidType d (.entry form))

end Mod

namespace Combination

/-- The name by which messages call the form of a combination. -/
def form : String := "CombineDefinition"

/-- Reads a field of an object, if combinations have such a field. -/
def checkField (field : Text × Datum) : Decoded Unit :=
  let d := field.2
  let among (names : List String) : Bool := names.any fun name => name.toList = field.1
  if among ["id", "source", "override"] then d.decodeText.map fun _ => ()
  else if among ["output"] then d.decodeOption.map fun _ => ()
  else if among ["tags"] then (d.decodeList decodeText).map fun _ => ()
  else .ok ()

def decode : Datum → Decoded Combination
  | .object fields => do
    (inNameOrder fields).forM checkField
    return {
      id := ← required decodeText fields "id"
      source := ← required decodeText fields "source"
      override := ← required decodeText fields "override"
      output := ← optional decodeOption fields "output" none
      tags := ← optional (decodeList decodeText) fields "tags" Section.defaultTags }
  | .array items => do
    let entry : Combination := {
      id := ← requiredAt decodeText items 0 (.entryItems form 5)
      source := ← requiredAt decodeText items 1 (.entryItems form 5)
      override := ← requiredAt decodeText items 2 (.entryItems form 5)
      output := ← optionalAt decodeOption items 3 none
      tags := ← optionalAt (decodeList decodeText) items 4 Section.defaultTags }
    if 5 < items.length then throw (.invalidLength items.length .fewerItems)
    return entry
  | d => .error (.invalidType d (.entry form))

end Combination

namespace RecipeInfo

/-- The name by which messages call the form of a recipe's own table. -/
def form : String := "meta"

/-- Reads a field of an object, if a recipe's own table has such a field. -/
def checkField (field : Text × Datum) : Decoded Unit :=
  let d := field.2
  let among (names : List String) : Bool := names.any fun name => name.toList = field.1
  if among ["name", "extension"] then d.decodeText.map fun _ => ()
  else if among ["description"] then d.decodeOption.map fun _ => ()
  else if among ["directories"] then (d.decodeList decodeText).map fun _ => ()
  else .ok ()

/-- What a recipe says of itself. Items beyond those of the form are passed over. -/
def decode : Datum → Decoded RecipeInfo
  | .object fields => do
    (inNameOrder fields).forM checkField
    return {
      name := ← optional decodeText fields "name" []
      description := ← optional decodeOption fields "description" none
      folders := ← optional (decodeList decodeText) fields "directories" []
      extension := ← optional decodeText fields "extension" SearchPath.defaultExtension }
  | .array items => do
    return {
      name := ← optionalAt decodeText items 0 []
      description := ← optionalAt decodeOption items 1 none
      folders := ← optionalAt (decodeList decodeText) items 2 []
      extension := ← optionalAt decodeText items 3 SearchPath.defaultExtension }
  | d => .error (.invalidType d (.entry form))

end RecipeInfo

end Graft
