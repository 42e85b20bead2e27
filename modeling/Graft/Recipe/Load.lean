import Graft.Recipe.Decode
import Graft.Recipe.Issue
import Graft.Toml.Recovery

/-!
The loading of recipes from documents.

The document as a whole is read first, then each entry by itself, so that an error names the entry
it is in. A recipe with any issue is not loaded.
-/

namespace Graft

open Text

/-- The two lists of entries of a recipe. -/
inductive EntryList
  | mods
  | combinations
  deriving DecidableEq, Repr

/-- The name of a list of entries as recipes write it. -/
def EntryList.name : EntryList → String
  | .mods => "mods"
  | .combinations => "combines"

/-- Why a text is not loaded as a recipe: it is no document that could be one, its reading was given
up, an entry is not as it should be, or the recipe has issues. -/
inductive LoadError
  | notDocument
  | givenUp
  | entry (list : EntryList) (index : Nat) (id : Option Text) (e : DecodeError)
  | invalid (issues : List Issue)

/-- The message of an error in a recipe that is called by a name. -/
def LoadError.message (name : Text) : LoadError → String
  | .notDocument | .givenUp => s!"{name.asString}: invalid TOML"
  | .entry list index id e =>
    let label : Text := id.elim [] fun id => " ('".toList ++ id ++ "')".toList
    s!"{name.asString}: {list.name} entry #{index + 1}{label.asString}: {e.message}"
  | .invalid issues =>
    let lines := "\n".intercalate (issues.map Issue.message)
    s!"{name.asString}: invalid recipe:\n{lines}"

namespace Recipe

/-- What a recipe that comes from no file is called. -/
def unnamed : Text := "recipe".toList

/-- The entries of a list. -/
def decodeEntries (list : EntryList) (decode : Datum → Decoded α) (data : List Datum) :
    Except LoadError (List α) :=
  data.zipIdx.mapM fun (d, i) =>
    (decode d).mapError (.entry list i ((d.field? "id".toList).bind (·.text?)))

/-- The array under a key, empty where there is no such key. -/
def entriesAt (fields : List (Text × Datum)) (list : EntryList) : Except LoadError (List Datum) :=
  match fields.lookup list.name.toList with
  | none => .ok []
  | some (.array data) => .ok data
  | some _ => .error .notDocument

/-- What a document says of the recipe itself. A number without digits is no text, also where a text
may be left out. -/
def infoOf (fields : Toml.Fields) : Except LoadError RecipeInfo :=
  match (Toml.fieldsToData (.boolean false) fields).lookup "meta".toList with
  | none => .ok {}
  | some d => (RecipeInfo.decode d).mapError fun _ => .notDocument

/-- The recipe that a document holds, whatever its issues. -/
def ofDocument (fields : Toml.Fields) : Except LoadError Recipe := do
  let info ← infoOf fields
  let data := Toml.fieldsToData .null fields
  let mods ← entriesAt data .mods
  let combinations ← entriesAt data .combinations
  return {
    info := info
    mods := ← decodeEntries .mods Mod.decode mods
    combinations := ← decodeEntries .combinations Combination.decode combinations }

/-- The recipe that a text holds. -/
def ofText [Patterns] (t : Text) : Except LoadError Recipe := do
  match Toml.read t with
  | .error .malformed => throw .notDocument
  | .error .givenUp => throw .givenUp
  | .ok fields =>
    let recipe ← ofDocument fields
    if recipe.issues.isEmpty then return recipe
    else throw (.invalid recipe.issues)

/-- The recipe that a datum holds, whatever its issues. -/
def decode : Datum → Decoded Recipe
  | .object fields => do
    return {
      info := ← Datum.optional RecipeInfo.decode fields "meta" {}
      mods := ← Datum.optional (Datum.decodeList Mod.decode) fields "mods" []
      combinations := ←
        Datum.optional (Datum.decodeList Combination.decode) fields "combines" [] }
  | d => .error (.invalidType d (.entry "recipe"))

end Recipe

end Graft
