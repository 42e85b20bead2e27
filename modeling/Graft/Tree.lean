import Graft.Path
import Graft.Text.Quoted

/-!
Trees of files and folders, the lookup of paths in them, the walk through a folder, and the reading
of files.

A place in a tree is the list of the names that lead to it. A path leads from folder to folder, so
`..` and a slash at the end are refused after a file, and each name on the way must exist. Nothing
is reached by a path that is too long, though it may be reached from a folder that is nearer.

There are no links, permissions or names that are no text in a tree, and room for all that is
written.
-/

namespace Graft

open Text

/-- The bytes of a file: a text, or bytes that are no text. -/
inductive Content
  | text (t : Text)
  | bytes (b : List UInt8)
  deriving DecidableEq, Repr

namespace Content

/-- The content of a file with the given bytes, a text where they are the UTF-8 form of one. -/
def ofBytes (bytes : ByteArray) : Content :=
  match String.fromUTF8? bytes with
  | some s => .text s.toList
  | none => .bytes bytes.toList

def toBytes : Content → ByteArray
  | .text t => t.asString.toUTF8
  | .bytes b => b.toByteArray

end Content

/-- The names that lead to a place from the root. -/
abbrev Location := List Name

inductive Entry
  | file (content : Content)
  | folder
  deriving DecidableEq, Repr

/-- Why a file operation fails. -/
inductive IoFault
  | notFound
  | busy
  | exists
  | notFolder
  | isFolder
  | nameTooLong
  | nulInPath
  | notText
  | noParent
  | temporaryTooLong (path : Path)
  deriving DecidableEq, Repr

def IoFault.message : IoFault → String
  | .notFound => "No such file or directory (os error 2)"
  | .busy => "Device or resource busy (os error 16)"
  | .exists => "File exists (os error 17)"
  | .notFolder => "Not a directory (os error 20)"
  | .isFolder => "Is a directory (os error 21)"
  | .nameTooLong => "File name too long (os error 36)"
  | .nulInPath => "file name contained an unexpected NUL byte"
  | .notText => "stream did not contain valid UTF-8"
  | .noParent => "Path has no parent directory"
  | .temporaryTooLong path =>
    s!"File name too long (os error 36) at path {(quoted path.text).asString}"

/-- Files and folders by their locations, and the folder that relative paths start from. The root is
a folder without an entry. -/
structure Tree where
  home : Location
  entries : List (Location × Entry)
  deriving DecidableEq, Repr

namespace Tree

variable (tree : Tree)

/-- What is found at a location. -/
def entry? (l : Location) : Option Entry := if l = [] then some .folder else tree.entries.lookup l

def isFolderAt (l : Location) : Bool := tree.entry? l = some .folder

/-- The longest name that a file or folder can have, in bytes. -/
def nameLimit : Nat := 255

/-- The location that one piece of a path leads to from another. -/
def enter (l : Location) (piece : Text) : Except IoFault Location :=
  if !tree.isFolderAt l then .error .notFolder
  else if piece = [] ∨ piece = ['.'] then .ok l
  else if piece = ['.', '.'] then .ok l.dropLast
  else if nameLimit < piece.size then .error .nameTooLong
  else if (tree.entry? (l ++ [piece])).isNone then .error .notFound
  else .ok (l ++ [piece])

/-- Where a path starts. -/
def startOf (p : Path) : Location := if p.isAbsolute then [] else tree.home

/-- Refuses the texts that no lookup of a path begins with. -/
def checkPath (p : Path) : Except IoFault Unit :=
  if p.text.contains '\x00' then .error .nulInPath
  else if p.isTooLong then .error .nameTooLong
  else if p.text = [] then .error .notFound
  else .ok ()

/-- The location of a path that exists. -/
def locate (p : Path) : Except IoFault Location := do
  checkPath p
  p.pieces.foldlM tree.enter (tree.startOf p)

/-- The entry that a path leads to. -/
def find? (p : Path) : Option Entry :=
  match tree.locate p with
  | .ok l => tree.entry? l
  | .error _ => none

def isFile (p : Path) : Bool :=
  match tree.find? p with
  | some (.file _) => true
  | _ => false

def isFolder (p : Path) : Bool := tree.find? p = some .folder

/-- The text of a file. -/
def read (p : Path) : Except IoFault Text := do
  match tree.entry? (← tree.locate p) with
  | some (.file (.text t)) => return t
  | some (.file (.bytes _)) => throw .notText
  | _ => throw .isFolder

/-- The text of a file, if there is a file. -/
def readIfAny (p : Path) : Except IoFault (Option Text) :=
  match tree.read p with
  | .ok t => .ok (some t)
  | .error .notFound => .ok none
  | .error e => .error e

/-- The locations below a folder, without the names that lead to the folder. -/
def below (l : Location) : List (Location × Entry) :=
  tree.entries.filterMap fun (m, e) =>
    if l.isPrefixOf m ∧ m ≠ l then some (m.drop l.length, e) else none

/-! ### The walk through a folder -/

/-- The names of what is directly in a folder, in their order. -/
def childNames (l : Location) : List Name :=
  let names := tree.entries.filterMap fun x => if x.1.dropLast = l then x.1.getLast? else none
  names.mergeSort fun a b => !decide (b < a)

/-- The length of the longest location. -/
def depth : Nat := tree.entries.foldr (fun x n => max x.1.length n) 0

theorem length_le_depth {x : Location × Entry} (h : x ∈ tree.entries) :
    x.1.length ≤ tree.depth := by
  have hall : ∀ entries : List (Location × Entry), x ∈ entries →
      x.1.length ≤ entries.foldr (fun x n => max x.1.length n) 0 := by
    intro entries hx
    induction entries with
    | nil => cases hx
    | cons y ys ih =>
      rw [List.foldr_cons]
      rcases List.mem_cons.mp hx with rfl | hx
      · exact Nat.le_max_left _ _
      · exact Nat.le_trans (ih hx) (Nat.le_max_right _ _)
  exact hall tree.entries h

variable {tree} in
theorem directly_in_iff {l m : Location} {name : Name} :
    (if m.dropLast = l then m.getLast? else none) = some name ↔ m = l ++ [name] := by
  constructor
  · intro h
    split at h
    · next hdrop =>
      obtain ⟨front, rfl⟩ := List.getLast?_eq_some_iff.mp h
      rw [List.dropLast_concat] at hdrop
      rw [hdrop]
    · cases h
  · rintro rfl
    simp

variable {tree} in
theorem mem_childNames {l : Location} {name : Name} :
    name ∈ tree.childNames l ↔ ∃ x ∈ tree.entries, x.1 = l ++ [name] := by
  unfold childNames
  rw [List.mem_mergeSort, List.mem_filterMap]
  exact exists_congr fun x => and_congr_right fun _ => directly_in_iff

theorem length_lt_depth {l : Location} {name : Name} (h : name ∈ tree.childNames l) :
    l.length < tree.depth := by
  obtain ⟨x, hx, hplace⟩ := mem_childNames.mp h
  have hle := tree.length_le_depth hx
  rw [hplace, List.length_append] at hle
  exact hle

/-- The files that a walk through a folder meets, by the names that lead to them, where the folder
is reached by a path. What is in the folder is taken in the order of names, and a folder in it is
walked through at once. A folder with a path that is too long is passed over. -/
def traverse (l : Location) (p : Path) : List Location :=
  if p.isTooLong then []
  else
    (tree.childNames l).attach.flatMap fun ⟨name, _⟩ =>
      match tree.entry? (l ++ [name]) with
      | some (.file _) => [[name]]
      | some .folder => (traverse (l ++ [name]) (p.join ⟨name⟩)).map (name :: ·)
      | none => []
termination_by tree.depth - l.length
decreasing_by
  have hlt := tree.length_lt_depth ‹_›
  rw [List.length_append, List.length_singleton]
  omega

/-- The files that a path leads to, with the names that lead on to each: those that a walk through
the folder meets, or the file that the path itself leads to. -/
def filesOf (p : Path) : List Location :=
  match tree.locate p with
  | .error _ => []
  | .ok l =>
    match tree.entry? l with
    | some (.file _) => [[]]
    | some .folder => tree.traverse l p
    | none => []

end Tree

end Graft
