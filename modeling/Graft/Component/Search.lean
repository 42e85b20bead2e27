import Graft.Component
import Graft.Component.Similarity

/-!
The search for components in an ordered list of folders.

The first folder that holds a match wins, so a folder listed earlier hides the components of later
ones. In a folder the files are taken in the order of their paths, name by name.
-/

namespace Graft

open Text

/-- The folders in which components are searched for, the folder for output, and the extension of
component files. -/
structure SearchPath where
  folders : List Path
  outputFolder : Option Path
  extension : Name
  deriving DecidableEq, Repr

/-- A file that was found: its path, and its path in the folder where it was found. -/
structure Found where
  path : Path
  relative : Path
  deriving DecidableEq, Repr

namespace SearchPath

/-- The extension of component files when none is given. -/
def defaultExtension : Name := "vue".toList

/-- The extension without the dots that it may be written with. -/
def bareExtension (extension : Name) : Name := extension.dropWhile (· = '.')

def ofFolders (folders : List Path) : SearchPath := ⟨folders, none, defaultExtension⟩

variable (search : SearchPath)

def withOutput (folder : Path) : SearchPath := { search with outputFolder := some folder }

def withExtension (extension : Name) : SearchPath :=
  { search with extension := bareExtension extension }

/-- The folder for output: the one given, or else the first that is searched. -/
def output? : Option Path := search.outputFolder <|> search.folders.head?

/-- The name of a file that is found in a folder, or that the path of the folder leads to. -/
def fileName? (folder : Path) (names : List Name) : Option Name :=
  match names.getLast? with
  | some name => some name
  | none => folder.fileName?

/-- The component files of a folder: the names that lead to each, and the stem of its own name. -/
def filesIn (tree : Tree) (folder : Path) : List (List Name × Name) :=
  (tree.filesOf folder).filterMap fun names => do
    let name ← fileName? folder names
    if name.extension? = some search.extension then some (names, name.stem) else none

/-- The names that can be suggested for a file. -/
def knownFiles (tree : Tree) : List Text :=
  search.folders.flatMap fun folder =>
    (search.filesIn tree folder).map fun (names, _) =>
      (Path.ofNames names).text.map fun c => if c = '\\' then '/' else c

/-- The names that can be suggested for a component. -/
def knownNames (tree : Tree) : List Text :=
  search.folders.flatMap fun folder => (search.filesIn tree folder).map (·.2)

/-- The file with a path, which is written with slashes, in the first folder that has one. -/
def findFile (tree : Tree) (name : Text) : Except ComponentError Found :=
  let relative := Path.ofNames ((splitOn '/' name).filter (!·.isEmpty))
  match search.folders.find? fun folder => tree.isFile (folder.join relative) with
  | some folder => .ok ⟨folder.join relative, relative⟩
  | none =>
    .error (.notFound name search.folders (closestName? name (search.knownFiles tree)))

/-- The component file of a folder whose stem is a name, as it stands or in its other spelling. -/
def findIn? (tree : Tree) (name : Text) (folder : Path) : Option Found := do
  let (names, _) ← (search.filesIn tree folder).find? fun (_, stem) =>
    stem = name || stem = pascalCase name
  return ⟨folder.descend names, Path.ofNames names⟩

/-- The component with a name in the first folder that has one. -/
def findComponent (tree : Tree) (name : Text) : Except ComponentError Found :=
  match search.folders.findSome? (search.findIn? tree name) with
  | some found => .ok found
  | none =>
    .error (.notFound name search.folders (closestName? name (search.knownNames tree)))

/-- The component in a file that was found. -/
def load (tree : Tree) (found : Found) : Except ComponentError ComponentFile :=
  match tree.read found.path with
  | .ok content => .ok ⟨found.path, found.relative, search.output?, content, none⟩
  | .error fault => .error (.io found.path fault)

def loadFile (tree : Tree) (name : Text) : Except ComponentError ComponentFile := do
  search.load tree (← search.findFile tree name)

def loadComponent (tree : Tree) (name : Text) : Except ComponentError ComponentFile := do
  search.load tree (← search.findComponent tree name)

end SearchPath

end Graft
