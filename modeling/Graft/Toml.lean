import Graft.Recipe.Datum

/-!
Documents of tables, keys and values in the TOML format, and the rules by which tables are put
together.

A table is defined once. One that a header or a dotted key only passes through may still be defined
by a header of its own, unless a dotted key made it, and a table written in braces is complete.
-/

namespace Graft

open Text

/-- How a table came to be: written in braces, by its own header, on the way to another table, or by
a dotted key. -/
inductive TableKind
  | inline
  | explicit
  | implicit
  | dotted
  deriving DecidableEq, Repr

/-- A value of a document. A number that is infinite or not a number has no digits. Only a malformed
document has a key whose value is missing. -/
inductive Toml
  | boolean (b : Bool)
  | integer (n : Int)
  | float (x : Option Binary64)
  | string (t : Text)
  | datetime (t : Text)
  | array (items : List Toml)
  | table (kind : TableKind) (fields : List (Text × Toml))
  | tables (elements : List (List (Text × Toml)))
  | missing

namespace Toml

/-- The keys and values of a table. -/
abbrev Fields := List (Text × Toml)

/-- The fields with a key's value replaced, or with the key added at the end. -/
def put (key : Text) (value : Toml) : Fields → Fields
  | [] => [(key, value)]
  | (k, v) :: rest => if k = key then (k, value) :: rest else (k, v) :: put key value rest

/-- The fields with a change to the table that a path of keys leads to. Tables that are missing on
the way are added, and an array of tables is entered at its last element. -/
def modifyAt (change : Fields → Option Fields) : List Text → Fields → Option Fields
  | [], fields => change fields
  | key :: path, fields =>
    match fields.lookup key with
    | none => do return put key (.table .implicit (← modifyAt change path [])) fields
    | some (.table .inline _) => none
    | some (.table kind inner) => do
      return put key (.table kind (← modifyAt change path inner)) fields
    | some (.tables elements) =>
      match elements.getLast? with
      | none => none
      | some last => do
        return put key (.tables (elements.dropLast ++ [← modifyAt change path last])) fields
    | some _ => none

/-- The fields with a value added under a key, which may be dotted. The tables that it passes
through must not have been defined by headers, and the last of them only by dotted keys. -/
def insertAt (key : Text) (value : Toml) : List Text → Fields → Option Fields
  | [], fields => if (fields.lookup key).isSome then none else some (fields ++ [(key, value)])
  | step :: path, fields =>
    match fields.lookup step with
    | none => do return put step (.table .dotted (← insertAt key value path [])) fields
    | some (.table .dotted inner) => do
      return put step (.table .dotted (← insertAt key value path inner)) fields
    | some (.table .implicit inner) =>
      if path = [] then none
      else do return put step (.table .implicit (← insertAt key value path inner)) fields
    | some (.tables elements) =>
      match path, elements.getLast? with
      | _ :: _, some last => do
        return put step (.tables (elements.dropLast ++ [← insertAt key value path last])) fields
      | _, _ => none
    | some _ => none

/-- The fields with the table of a header. -/
def openTable (key : Text) (fields : Fields) : Option Fields :=
  match fields.lookup key with
  | none => some (put key (.table .explicit []) fields)
  | some (.table .implicit inner) => some (put key (.table .explicit inner) fields)
  | some _ => none

/-- The fields with a further element of an array of tables. -/
def openElement (key : Text) (fields : Fields) : Option Fields :=
  match fields.lookup key with
  | none => some (put key (.tables [[]]) fields)
  | some (.tables elements) => some (put key (.tables (elements ++ [[]])) fields)
  | some _ => none

/-- The field by which a date or time shows when it is read as data. -/
def datetimeField : Text := "datetime".toList

mutual

/-- A value as data, where `strange` stands for a number without digits. -/
def toDatum (strange : Datum) : Toml → Datum
  | .boolean b => .boolean b
  | .integer n => .integer n
  | .float (some x) => .float x
  | .float none => strange
  | .string t => .string t
  | .datetime t => .object [(datetimeField, .string t)]
  | .array items => .array (itemsToData strange items)
  | .table _ fields => .object (fieldsToData strange fields)
  | .tables elements => .array (tablesToData strange elements)
  | .missing => .null

def itemsToData (strange : Datum) : List Toml → List Datum
  | [] => []
  | item :: rest => toDatum strange item :: itemsToData strange rest

def fieldsToData (strange : Datum) : List (Text × Toml) → List (Text × Datum)
  | [] => []
  | (key, value) :: rest => (key, toDatum strange value) :: fieldsToData strange rest

def tablesToData (strange : Datum) : List (List (Text × Toml)) → List Datum
  | [] => []
  | fields :: rest => .object (fieldsToData strange fields) :: tablesToData strange rest

end

end Toml

end Graft
