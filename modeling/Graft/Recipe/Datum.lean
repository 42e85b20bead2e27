import Graft.Decimal
import Graft.Text.Quoted

/-!
Data as data files hold them, before they are read as anything in particular.
-/

namespace Graft

open Text

/-- A datum. The fields of an object have different names. -/
inductive Datum
  | null
  | boolean (b : Bool)
  | integer (n : Int)
  | float (x : Binary64)
  | string (t : Text)
  | array (items : List Datum)
  | object (fields : List (Text × Datum))
  deriving Inhabited

namespace Datum

/-- What a datum is, as messages say it. -/
def describe : Datum → String
  | .null => "null"
  | .boolean b => s!"boolean `{b}`"
  | .integer n => s!"integer `{n}`"
  | .float x => s!"floating point `{x.shortest.asString}`"
  | .string t => s!"string {(quoted t).asString}"
  | .array _ => "sequence"
  | .object _ => "map"

/-- The text of a string. -/
def text? : Datum → Option Text
  | .string t => some t
  | _ => none

/-- The field of an object. -/
def field? (name : Text) : Datum → Option Datum
  | .object fields => fields.lookup name
  | _ => none

end Datum

end Graft
