import Graft.Recipe.Datum

/-!
Data in JSON notation, with every item and every field on a line of its own.
-/

namespace Graft.Datum

open Text

/-- The blanks before an item inside so many arrays and objects. -/
def indent (depth : Nat) : Text := List.replicate (2 * depth) ' '

/-- The hexadecimal digits of a number, four of them at least. -/
def fourDigits (n : Nat) : Text :=
  let digits := hexDigits n
  List.replicate (4 - digits.length) '0' ++ digits

/-- A character as it is written in a string. Only quotes, backslashes and controls are escaped. -/
def escapedInString (c : Char) : Text :=
  if c = '"' then ['\\', '"']
  else if c = '\\' then ['\\', '\\']
  else if c = '\n' then ['\\', 'n']
  else if c = '\r' then ['\\', 'r']
  else if c = '\t' then ['\\', 't']
  else if c = '\x08' then ['\\', 'b']
  else if c = '\x0c' then ['\\', 'f']
  else if c < ' ' then ['\\', 'u'] ++ fourDigits c.toNat
  else [c]

def printString (t : Text) : Text := '"' :: t.flatMap escapedInString ++ ['"']

/-- Items between brackets, on lines of their own when there are any. -/
def enclose (opening closing : Char) (depth : Nat) (items : List Text) : Text :=
  if items.isEmpty then [opening, closing]
  else
    let lines := items.map fun item => '\n' :: indent (depth + 1) ++ item
    opening :: joinWith [','] lines ++ '\n' :: indent depth ++ [closing]

mutual

/-- A datum inside so many arrays and objects. -/
def print (depth : Nat) : Datum → Text
  | .null => "null".toList
  | .boolean b => if b then "true".toList else "false".toList
  | .integer n => (toString n).toList
  | .float x => x.shortest
  | .string t => printString t
  | .array items => enclose '[' ']' depth (printItems (depth + 1) items)
  | .object fields => enclose '\x7b' '\x7d' depth (printFields (depth + 1) fields)

def printItems (depth : Nat) : List Datum → List Text
  | [] => []
  | item :: rest => print depth item :: printItems depth rest

def printFields (depth : Nat) : List (Text × Datum) → List Text
  | [] => []
  | (name, d) :: rest =>
    (printString name ++ [':', ' '] ++ print depth d) :: printFields depth rest

end

end Graft.Datum
