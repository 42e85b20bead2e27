import Graft.Markup.Attribute
import Graft.Markup.Element
import Graft.Text.Blank

/-!
The selection of one element of a document.

A selector picks the first opening tag that it matches. The element is found only when that tag can
be paired, so an element that is never closed counts as absent.
-/

namespace Graft.Markup

open Text

/-- How an element is picked out of a document. -/
inductive Selector
  | tag (name : Text)
  | attr (name : Text)
  | attrValue (name value : Text)
  | first
  deriving DecidableEq, Repr

namespace Selector

def describe : Selector → Text
  | .tag name => ['<'] ++ name ++ ['>']
  | .attr name => ['['] ++ name ++ [']']
  | .attrValue name value => ['['] ++ name ++ ['=', '"'] ++ value ++ ['"', ']']
  | .first => "first element".toList

/-- What is wrong with a selector, or with its absence. -/
inductive Fault
  | noTagName
  | noAttributeName
  | noAttributeValue
  | notSet
  deriving DecidableEq, Repr

def Fault.message : Fault → String
  | .noTagName => "tag name is empty"
  | .noAttributeName => "attribute name is empty"
  | .noAttributeValue => "attribute value is empty"
  | .notSet => "no selector set; call a find_* method first"

/-- The fault of a selector, if it has one: a name of nothing but white space, or an empty value. -/
def fault? : Selector → Option Fault
  | .tag name => if isWhite name then some .noTagName else none
  | .attr name => if isWhite name then some .noAttributeName else none
  | .attrValue name value =>
    if isWhite name then some .noAttributeName
    else if value.isEmpty then some .noAttributeValue
    else none
  | .first => none

/-- Whether a head has the tag name or attribute that a selector asks for. -/
def admits : Selector → Head → Bool
  | .tag name, head => head.name == name
  | .attr name, head => (head.find? name).isSome
  | .attrValue name value, head =>
    (head.findAll name).any fun a => a.attr.quote?.isSome && a.attr.value? == some value
  | .first, _ => true

end Selector

/-- The name of the element that wraps the markup of a component. -/
def templateName : Text := "template".toList

/-- The first opening tag inside the `template` that a document begins with, or else its first
opening tag. -/
def firstHead? (doc : Text) : Option Head := do
  let head ← (heads doc).head?
  if head.name ≠ templateName ∨ head.tag.selfClosing then return head
  match ← elementOf? doc head with
  | ⟨_, .explicit closing⟩ =>
    let inside ← ((← tokensFrom? doc head.stop).filterMap Token.head?).head?
    if inside.start < closing.start then some inside else none
  | _ => none

/-- The opening tag that a selector picks. -/
def Selector.findHead? (doc : Text) : Selector → Option Head
  | .first => firstHead? doc
  | selector => (heads doc).find? selector.admits

/-- An element's place in a document: its opening tag and the range of its closing tag. -/
structure Span where
  head : Head
  closing : Option Range
  deriving DecidableEq, Repr

namespace Span

/-- The end of the whole element. -/
def stop (span : Span) : Nat := span.closing.elim span.head.stop (·.stop)

end Span

/-- The place of the element that an opening tag begins, unless it is never closed. -/
def spanOf? (doc : Text) (head : Head) : Option Span :=
  if head.tag.selfClosing then some ⟨head, none⟩
  else (elementOf? doc head).map fun bounds =>
    match bounds.closing with
    | .explicit range => ⟨head, some range⟩
    | .selfClosing _ | .void => ⟨head, none⟩

/-- Why no element is located. -/
inductive LocateError
  | invalidSelector (fault : Selector.Fault)
  | notFound (selector : Selector)
  deriving DecidableEq, Repr

def LocateError.message : LocateError → String
  | .invalidSelector fault => s!"invalid selector: {fault.message}"
  | .notFound selector => s!"failed to find element matching {selector.describe.asString}"

/-- The place of the element that a selector picks. -/
def locate (doc : Text) (selector : Selector) : Except LocateError Span :=
  match selector.fault? with
  | some fault => .error (.invalidSelector fault)
  | none =>
    match (selector.findHead? doc).bind (spanOf? doc) with
    | some span => .ok span
    | none => .error (.notFound selector)

end Graft.Markup
