import Graft.Tree

/-!
The writing of files and folders.

A file is written whole or not at all: its text goes to a temporary file beside it, which is then
moved to its place. It may take the place of a file but not of a folder.
-/

namespace Graft.Tree

open Text

variable (tree : Tree)

/-- The tree with an entry at a location, in place of any that was there. -/
def insert (l : Location) (e : Entry) : Tree :=
  { tree with entries := (l, e) :: tree.entries.filter (·.1 ≠ l) }

/-- The folder that a path's last piece is in, that piece, and whether slashes follow it. The last
piece of the root is the `.` in it. -/
def splitLast (p : Path) : Except IoFault (Location × Text × Bool) := do
  checkPath p
  let pieces := p.pieces.reverse
  match pieces.dropWhile (·.isEmpty) with
  | [] => return ([], ['.'], true)
  | last :: before =>
    let l ← before.reverse.foldlM tree.enter (tree.startOf p)
    if !tree.isFolderAt l then throw .notFolder
    return (l, last, pieces.head? = some [])

/-- Makes a folder where there is nothing. -/
def makeFolder (p : Path) : Except IoFault Tree := do
  let (l, last, _) ← tree.splitLast p
  if last = ['.'] ∨ last = ['.', '.'] then throw .exists
  if nameLimit < last.size then throw .nameTooLong
  if (tree.entry? (l ++ [last])).isSome then throw .exists
  return tree.insert (l ++ [last]) .folder

/-- Makes a folder, unless there is one already. -/
def ensureFolder (p : Path) : Except IoFault Tree :=
  match tree.makeFolder p with
  | .ok made => .ok made
  | .error e => if tree.isFolder p then .ok tree else .error e

/-- Makes a folder with all the folders that lead to it. The folders made before a fault stay. -/
def makeFolders (tree : Tree) (p : Path) : Tree × Option IoFault :=
  if p.text = [] then (tree, none)
  else
    match tree.makeFolder p, p.parent? with
    | .error .notFound, some q =>
      if _h : q.text.length < p.text.length then
        match makeFolders tree q with
        | (tree, some fault) => (tree, some fault)
        | (tree, none) => finish tree
      else (tree, some .notFound)
    | _, _ => finish tree
termination_by p.text.length
where
  finish (tree : Tree) : Tree × Option IoFault :=
    match tree.ensureFolder p with
    | .ok made => (made, none)
    | .error fault => (tree, some fault)

/-- The name of a temporary file. Its last six characters are drawn at random, and each `X` stands
for one of them. -/
def temporaryName : Name := ".tmpXXXXXX".toList

/-- The path of a temporary file in the folder of a path. It begins at the root, and where the
folder has no name it leads through `.`. -/
def temporaryIn (folder : Path) : Path :=
  let folder : Path := if folder.text = [] then ⟨['.']⟩ else folder
  (Path.join ⟨'/' :: (Path.ofNames tree.home).text⟩ folder).join ⟨temporaryName⟩

/-- Writes a text to a file. -/
def write (p : Path) (t : Text) : Except IoFault Tree :=
  match p.parent? with
  | none => .error .noParent
  | some folder =>
    if (tree.temporaryIn folder).isTooLong then
      .error (.temporaryTooLong (tree.temporaryIn folder))
    else do
      let (l, last, slashed) ← tree.splitLast p
      if last = ['.'] ∨ last = ['.', '.'] then throw .busy
      if nameLimit < last.size then throw .nameTooLong
      if slashed then throw .notFolder
      if tree.isFolderAt (l ++ [last]) then throw .isFolder
      return tree.insert (l ++ [last]) (.file (.text t))

/-- Removes what is below a folder, but for the entries that stay and the folders that lead to
them. -/
def prune (l : Location) (stays : Location → Entry → Bool) : Tree :=
  let left := (tree.below l).filterMap fun (m, e) => if stays m e then some (l ++ m) else none
  { tree with entries := tree.entries.filter fun (m, _) =>
      if l.isPrefixOf m ∧ m ≠ l then left.any fun k => m.isPrefixOf k else true }

end Graft.Tree
