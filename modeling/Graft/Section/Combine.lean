import Graft.Edit
import Graft.Section

/-!
The combination of a source document with the sections of an override.

The tags are taken in order, and each sees the document that the one before it left.
-/

namespace Graft

open Text

/-- Why a source and an override cannot be combined. -/
inductive CombineError
  | missingTarget (tag : Text)
  | unknownDirective (e : Section.UnknownDirective)
  | edit (e : Edit.Error)
  deriving DecidableEq, Repr

def CombineError.message : CombineError → String
  | .missingTarget tag =>
    s!"cannot replace <{tag.asString}>: the source document has no <{tag.asString}> section"
  | .unknownDirective ⟨tag, value⟩ =>
    s!"unknown merge directive {(quoted value).asString} on <{tag.asString}> " ++
      "(expected \"merge\" or \"replace\")"
  | .edit e => s!"edit error: {e.message}"

namespace Section

/-- The tags that are combined when none are named. -/
def defaultTags : List Text := ["style".toList, "script".toList]

variable [Digest]

/-- The edit that an override's section asks for in a document whose own section of the tag is
`existing`. Nothing is merged from an empty section. -/
def combineEdit? (doc : Text) (incoming : Section) (existing : Option Section) :
    Except CombineError (Option Edit) :=
  match incoming.operation, existing with
  | .replace, none => .error (.missingTarget incoming.tag)
  | .replace, some current => .ok (some (.replacement doc current.start current.stop incoming.text))
  | .merge, existing =>
    if incoming.content.isEmpty then .ok none
    else match existing with
      | some current => .ok (some (.insertion current.contentStop ('\n' :: incoming.content)))
      | none =>
        let closeTag := ['<', '/'] ++ incoming.tag ++ ['>']
        .ok (some (.insertion doc.size ('\n' :: incoming.openTag ++ incoming.content ++ closeTag)))

/-- A document after the override's section of a tag. -/
def combineTag (override : Text) (doc tag : Text) : Except CombineError Text := do
  match ← (find? override tag).mapError .unknownDirective with
  | none => return doc
  | some incoming =>
    let existing ← (find? doc tag).mapError .unknownDirective
    match ← combineEdit? doc incoming existing with
    | none => return doc
    | some edit => return (← (edit.applyTo doc).mapError .edit).1

/-- A source document after the override's sections of the given tags. -/
def combine (source override : Text) (tags : List Text) : Except CombineError Text :=
  tags.foldlM (combineTag override) source

end Section

end Graft
