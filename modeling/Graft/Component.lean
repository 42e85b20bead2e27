import Graft.Edit
import Graft.Markup.Selector
import Graft.Path
import Graft.Tree

/-!
A component file: its template and the revision of it.

The template is what stands between the first opening `template` tag and the last `</template>`, so
templates inside it belong to it.
-/

namespace Graft

open Text Markup

/-- Why a component cannot be found, read or revised. -/
inductive ComponentError
  | notFound (name : Text) (searched : List Path) (suggestion : Option Text)
  | missingTemplate (path : Path)
  | templateNotSet
  | io (path : Path) (fault : IoFault)
  | edit (e : Edit.Error)
  deriving DecidableEq, Repr

def ComponentError.message : ComponentError → String
  | .notFound name searched suggestion =>
    let folders : Text := joinWith [',', ' '] (searched.map (·.text))
    let hint : Text := suggestion.elim [] fun s => " (did you mean ".toList ++ s ++ ['?', ')']
    s!"{name.asString} not found in {folders.asString}{hint.asString}"
  | .missingTemplate path => s!"no <template> section in {path.text.asString}"
  | .templateNotSet => "set a new template before adding template comments"
  | .io path fault => s!"I/O error on {path.text.asString}: {fault.message}"
  | .edit e => s!"edit error: {e.message}"

/-- The tag that ends a template. -/
def templateEnd : Text := "</template>".toList

/-- The place of a template in a component: its opening tag, and where its closing tag begins. -/
structure TemplateBlock where
  head : Head
  closeStart : Nat
  deriving DecidableEq, Repr

namespace TemplateBlock

def stop (block : TemplateBlock) : Nat := block.closeStart + templateEnd.size

/-- The template of a component. -/
def find? (doc : Text) : Option TemplateBlock := do
  let head ← (heads doc).find? fun head => !head.tag.selfClosing && head.name == templateName
  let (_, tail) ← splitAt? head.stop doc
  let (body, _) ← breakOnLast? templateEnd tail
  return ⟨head, head.stop + body.size⟩

end TemplateBlock

/-- A component file: the path it was read from, its path in the folder where it was found, the
folder for output, its text, and its text as it is to be written. -/
structure ComponentFile where
  path : Path
  relative : Path
  output : Option Path
  content : Text
  revised : Option Text
  deriving DecidableEq, Repr

namespace ComponentFile

variable (file : ComponentFile)

/-- The text to write: the revised one, if there is one. -/
def text : Text := file.revised.getD file.content

/-- The template of a text of this component. -/
def block (doc : Text) : Except ComponentError TemplateBlock :=
  match TemplateBlock.find? doc with
  | some block => .ok block
  | none => .error (.missingTemplate file.path)

/-- The body of the template, without the white space at its ends. -/
def template : Except ComponentError Text := do
  let block ← file.block file.content
  return trim (file.content.slice block.head.stop block.closeStart)

/-- Where the output belongs: at the path given, or else at the component's own. -/
def target? (relative : Option Path) : Option Path :=
  file.output.map (·.join (relative.getD file.relative))

/-- The component as an earlier revision left it. -/
def rebase (path : Path) (content : Text) : ComponentFile :=
  { file with path := path, content := content, revised := none }

variable [Digest]

/-- Puts another body into the template. -/
def setTemplate (body : Text) : Except ComponentError ComponentFile := do
  let block ← file.block file.content
  let openTag := file.content.slice block.head.start block.head.stop
  let edit := Edit.replacement file.content block.head.start block.stop
    (openTag ++ '\n' :: body ++ '\n' :: templateEnd)
  let (doc, _) ← (edit.applyTo file.content).mapError .edit
  return { file with revised := some doc }

/-- The comment that marks a revised template. -/
def marker (comment : Text) : Text :=
  "\n<!-- Kombinator: ".toList ++ comment ++ " -->\n".toList

/-- Adds a comment at the end of the revised template. -/
def addComment (comment : Text) : Except ComponentError ComponentFile := do
  match file.revised with
  | none => throw .templateNotSet
  | some current =>
    let block ← file.block current
    let edit := Edit.insertion block.closeStart (marker comment)
    let (doc, _) ← (edit.applyTo current).mapError .edit
    return { file with revised := some doc }

end ComponentFile

end Graft
