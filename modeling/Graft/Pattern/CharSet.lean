import Graft.Text.Age
import Graft.Text.CaseFold
import Graft.Text.Script
import Graft.Text.Word

/-!
The sets of characters that a pattern can name.
-/

namespace Graft.Pattern

open Text

/-- The sets of ASCII characters with names of their own, as in `[[:alpha:]]`. -/
def asciiSets : List NamedSet :=
  [⟨["alnum"], ["30-39 41-5A 61-7A"]⟩, ⟨["alpha"], ["41-5A 61-7A"]⟩, ⟨["ascii"], ["0-7F"]⟩,
   ⟨["blank"], ["9 20"]⟩, ⟨["cntrl"], ["0-1F 7F"]⟩, ⟨["digit"], ["30-39"]⟩,
   ⟨["graph"], ["21-7E"]⟩, ⟨["lower"], ["61-7A"]⟩, ⟨["print"], ["20-7E"]⟩,
   ⟨["punct"], ["21-2F 3A-40 5B-60 7B-7E"]⟩, ⟨["space"], ["9-D 20"]⟩, ⟨["upper"], ["41-5A"]⟩,
   ⟨["word"], ["30-39 41-5A 5F 61-7A"]⟩, ⟨["xdigit"], ["30-39 41-46 61-66"]⟩]

/-- The sets that a single letter after a backslash names. -/
inductive LetterSet
  | digit
  | space
  | word
  deriving DecidableEq, Repr

/-- The characters of such a set, in the Unicode sense or among the ASCII characters. -/
def LetterSet.ranges (unicode : Bool) : LetterSet → Ranges
  | .digit => if unicode then digitRanges else (NamedSet.find? asciiSets "digit").getD []
  | .space => if unicode then written "whitespace" else (NamedSet.find? asciiSets "space").getD []
  | .word => if unicode then wordRanges else (NamedSet.find? asciiSets "word").getD []

/-! ### Properties -/

/-- Whether a name begins with the letters `is` in any case. -/
def beginsWithIs : Text → Bool
  | c :: d :: _ => (c = 'i' || c = 'I') && (d = 's' || d = 'S')
  | _ => false

/-- A name as it is looked up: in lower case, without separators and without `is` in front. The name
`isc` is kept apart from `c`. -/
def looseName (name : Text) : String :=
  let hasIs := beginsWithIs name
  let bare := if hasIs then name.drop 2 else name
  let kept := bare.filter fun c => c.toNat < 0x80 && c ≠ ' ' && c ≠ '_' && c ≠ '-'
  let lowered := kept.map Char.toLower
  if hasIs ∧ lowered = ['c'] then "isc" else asString lowered

/-- The characters with a property, of a category or of a script. A name that a category shares with
a property of another kind stands for the category. -/
def namedSet? (name : String) : Option Ranges :=
  if name = "cf" ∨ name = "sc" ∨ name = "lc" then category? name
  else property? name <|> category? name <|> script? name

/-- The characters whose property of a kind has a value. -/
def valuedSet? (kind value : String) : Option Ranges :=
  match kind with
  | "generalcategory" | "gc" => category? value
  | "script" | "sc" => script? value
  | "scriptextensions" | "scx" => extendedScript? value
  | "age" => age? value
  | _ => none

/-- The characters that a description of a property stands for: a name, or a kind and a value. -/
def describedSet? (description : Text) : Option Ranges :=
  let valued? (mark : Text) : Option (Text × Text) :=
    (breakOn? mark description).map fun (kind, rest) => (kind, rest.drop mark.length)
  match valued? ['!', '='] <|> valued? [':'] <|> valued? ['='] with
  | some (kind, value) => valuedSet? (looseName kind) (looseName value)
  | none => namedSet? (looseName description)

end Graft.Pattern
