import Graft.Command.Reach
import Graft.Pattern

/-!
The program.

The files and folders that a command can reach are read into a tree. The command is run over the
tree, and where the tree has changed, so have the files and folders.
-/

namespace Graft.Program

open Text

local instance : Digest := Digest.multiplicative

local instance : Patterns := Patterns.leftmostFirst

/-- A location as the system writes it. -/
def systemPath (l : Location) : String := "/" ++ (Path.ofNames l).text.asString

/-- The location of an absolute path. -/
def locationOf (path : String) : Location := (splitOn '/' path.toList).filter (!·.isEmpty)

/-- What is at a location and, if asked for, below it. The root needs no entry. -/
partial def readEntries (deep : Bool) (l : Location) : IO (List (Location × Entry)) := do
  if l = [] then return []
  try
    let path ← IO.FS.realPath (systemPath l)
    if ← path.isDir then
      if !deep then return [(l, .folder)]
      let children ← path.readDir
      let below ← children.toList.mapM fun child =>
        readEntries true (l ++ [child.fileName.toList])
      return (l, .folder) :: below.flatten
    return [(l, .file (.ofBytes (← IO.FS.readBinFile path)))]
  catch _ => return []

/-- A tree with what is at the locations that paths lead through. -/
def readTree (tree : Tree) (reach : List Reach) : IO Tree := do
  let read (tree : Tree) (deep : Bool) (l : Location) : IO Tree := do
    return (← readEntries deep l).foldl (fun tree (l, e) => tree.insert l e) tree
  reach.foldlM (fun tree r => do
    let trail := r.path.trail (tree.startOf r.path)
    let tree ← trail.foldlM (read · false ·) tree
    if r.deep then read tree true (trail.getLastD []) else return tree) tree

/-- Writes an entry where a tree has another one or none. -/
def writeEntry (before : Tree) (l : Location) (e : Entry) : IO Unit := do
  if before.entry? l = some e then return
  match e with
  | .folder => IO.FS.createDir (systemPath l)
  | .file content => IO.FS.writeBinFile (systemPath l) content.toBytes

/-- Removes an entry that a tree does not have. -/
def removeEntry (after : Tree) (l : Location) (e : Entry) : IO Unit := do
  if (after.entry? l).isSome then return
  match e with
  | .folder => IO.FS.removeDir (systemPath l)
  | .file _ => IO.FS.removeFile (systemPath l)

/-- Carries out what changed from one tree to another. Folders are made before what is in them, and
removed after it. -/
def carryOut (before after : Tree) : IO Unit := do
  let shallower (a b : Location × Entry) : Bool := decide (a.1.length ≤ b.1.length)
  (after.entries.mergeSort shallower).forM fun (l, e) => writeEntry before l e
  (before.entries.mergeSort shallower).reverse.forM fun (l, e) => removeEntry after l e

/-- The tree that a command line is run over. -/
def treeFor (home : Location) (args : List Text) : IO Tree := do
  let tree : Tree := ⟨home, []⟩
  match Command.ofArguments args with
  | .error _ => return tree
  | .ok command =>
    let tree ← readTree tree command.reach
    readTree tree (command.reachOfRecipe tree)

/-- Runs a command line in the folder where the program was started. -/
def run (args : List Text) : IO UInt32 := do
  let home := locationOf (← IO.currentDir).toString
  let tree ← treeFor home args
  let outcome := Command.runArguments tree args
  carryOut tree outcome.tree
  IO.print outcome.printed.out
  IO.eprint outcome.printed.err
  return outcome.code.toUInt32

end Graft.Program

def main (args : List String) : IO UInt32 := Graft.Program.run (args.map String.toList)
