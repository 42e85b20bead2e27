import Graft.Markup.Selector

/-!
The sections of a component: the first block of a tag, and what its directive asks for.

A directive is an attribute of the block's opening tag. It is for the combination of documents only
and does not belong to the text that a section contributes to one.
-/

namespace Graft

open Text Markup

/-- What an override's section does to the source's: it is added to the section's content, or it
takes the section's place. -/
inductive Operation
  | merge
  | replace
  deriving DecidableEq, Repr

namespace Operation

/-- The operation for a tag without a directive. -/
def ofTag (tag : Text) : Operation := if tag = templateName then .replace else .merge

/-- The operation that a directive's value names, white space around it aside. -/
def ofDirective? (value : Text) : Option Operation :=
  if trim value = "merge".toList then some .merge
  else if trim value = "replace".toList then some .replace
  else none

end Operation

/-- The names of the attributes that hold a directive. -/
def directiveNames : List Text := ["kombinator".toList, "kom".toList]

/-- The first block of a tag in a document. -/
structure Section where
  tag : Text
  operation : Operation
  /-- The opening tag without the directive. -/
  openTag : Text
  content : Text
  closeTag : Text
  start : Nat
  contentStart : Nat
  contentStop : Nat
  stop : Nat
  deriving DecidableEq, Repr

namespace Section

/-- The whole block without the directive. -/
def text (s : Section) : Text := s.openTag ++ s.content ++ s.closeTag

/-- A directive that names no operation. -/
structure UnknownDirective where
  tag : Text
  value : Text
  deriving DecidableEq, Repr

/-- The operation of a block and its opening tag without the directive. Only the first directive
counts. -/
def readDirective (doc tag : Text) (head : Head) : Except UnknownDirective (Operation × Text) :=
  match head.attributes.find? fun a => directiveNames.contains a.attr.name with
  | none => .ok (.ofTag tag, doc.slice head.start head.stop)
  | some a =>
    let value := a.attr.value?.getD []
    match Operation.ofDirective? value with
    | none => .error ⟨tag, value⟩
    | some op =>
      .ok (op, doc.slice head.start a.start ++ doc.slice a.stop head.stop)

/-- The opening tag and the range of the closing tag of the first block of a tag. A block that is
never closed counts as absent. -/
def findBlock? (doc tag : Text) : Option (Head × Range) := do
  let head ← (heads doc).find? fun head => !head.tag.selfClosing && head.name == tag
  match ← elementOf? doc head with
  | ⟨_, .explicit range⟩ => return (head, range)
  | _ => none

/-- The section of a tag in a document, if it has one. -/
def find? (doc tag : Text) : Except UnknownDirective (Option Section) :=
  match findBlock? doc tag with
  | none => .ok none
  | some (head, range) => do
    let (operation, openTag) ← readDirective doc tag head
    return some
      { tag, operation, openTag
        content := doc.slice head.stop range.start
        closeTag := doc.slice range.start range.stop
        start := head.start, contentStart := head.stop
        contentStop := range.start, stop := range.stop }

end Section

end Graft
