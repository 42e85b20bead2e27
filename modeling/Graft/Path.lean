import Graft.Text

/-!
Paths: their text, their components, and what is made from them.

The text of a path is kept as it was written, since messages show it. Two texts name the same path
when their components agree: doubled slashes, slashes at the end and `.` inside a path do not
count, while `..` is a component like any other.
-/

namespace Graft

open Text

/-- The name of a file or folder. -/
abbrev Name := Text

/-- A path as it is written. -/
structure Path where
  text : Text
  deriving DecidableEq, Repr

/-- A part of a path: the root, the `.` that a relative path may begin with, `..`, or a name. -/
inductive Component
  | root
  | current
  | parent
  | normal (name : Name)
  deriving DecidableEq, Repr

namespace Path

/-- The pieces of the text between slashes, some of which may be empty. -/
def pieces (p : Path) : List Text := splitOn '/' p.text

def isAbsolute (p : Path) : Bool := p.text.head? = some '/'

/-- The component of a piece that is not the first. -/
def componentOf? (piece : Text) : Option Component :=
  if piece = [] ∨ piece = ['.'] then none
  else if piece = ['.', '.'] then some .parent
  else some (.normal piece)

def components (p : Path) : List Component :=
  match p.pieces with
  | [] => []
  | first :: rest =>
    let start :=
      if p.isAbsolute then some .root
      else if first = ['.'] then some .current
      else componentOf? first
    start.toList ++ rest.filterMap componentOf?

/-- Whether two texts name the same path. -/
def same (p q : Path) : Bool := p.components = q.components

/-- Whether a path begins with all components of another. -/
def startsWith (p base : Path) : Bool := base.components.isPrefixOf p.components

/-- A path inside another. An absolute path stands for itself. -/
def join (base p : Path) : Path :=
  if p.isAbsolute then p
  else if base.text = [] ∨ base.text.getLast? = some '/' then ⟨base.text ++ p.text⟩
  else ⟨base.text ++ '/' :: p.text⟩

/-- The relative path of names. -/
def ofNames (names : List Name) : Path := ⟨joinWith ['/'] names⟩

/-- The path that names lead to from a folder, one after the other. -/
def descend (folder : Path) (names : List Name) : Path :=
  names.foldl (fun p name => p.join ⟨name⟩) folder

/-- The least size of a path, in bytes, that is too long for the system. -/
def limit : Nat := 4096

/-- Whether nothing can be looked up, listed, made or removed by a path, because it is too long. -/
def isTooLong (p : Path) : Bool := decide (limit ≤ p.text.size)

/-- The pieces up to the last that is a component. The first piece of a path counts also when it
is `.` and, before a slash, when it is empty. -/
def dropTrailing : List Text → List Text
  | [] => []
  | first :: rest =>
    first :: (rest.reverse.dropWhile fun piece => (componentOf? piece).isNone).reverse

/-- The path of pieces of which the first, when it is empty, stands for the root. -/
def ofPieces : List Text → Path
  | [[]] => ⟨['/']⟩
  | pieces => ⟨joinWith ['/'] pieces⟩

/-- The path without its last component; the root and the empty path have none. -/
def parent? (p : Path) : Option Path :=
  match dropTrailing p.pieces with
  | [] => none
  | [_] => if p.isAbsolute ∨ p.text = [] then none else some ⟨[]⟩
  | pieces => some (ofPieces (dropTrailing pieces.dropLast))

/-- The last component, when it is a name. -/
def fileName? (p : Path) : Option Name :=
  match p.components.getLast? with
  | some (.normal name) => some name
  | _ => none

end Path

namespace Name

/-- A name around its last dot. There is none in a name whose only dot comes first. -/
def splitDot? (name : Name) : Option (Name × Name) :=
  match (splitOn '.' name).reverse with
  | last :: before :: rest =>
    let stem := joinWith ['.'] (before :: rest).reverse
    if stem = [] then none else some (stem, last)
  | _ => none

/-- The name without its extension. -/
def stem (name : Name) : Name := (splitDot? name).elim name (·.1)

/-- What follows the last dot of a name. -/
def extension? (name : Name) : Option Name := (splitDot? name).map (·.2)

end Name

end Graft
