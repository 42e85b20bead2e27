import Graft.Edit
import Graft.Markup.Selector
import Graft.Pattern.Matcher

/-!
A document under revision, with the selector of the element that revisions act on.

The selector is resolved anew for each revision, against the document as it then stands. Every
revision is a batch of verified edits, and one that fails leaves the draft as it was.
-/

namespace Graft.Markup

open Text

/-- A document under revision, the text that it began as, and the selector in force. -/
structure Draft where
  initial : Text
  document : Text
  selector : Option Selector
  deriving DecidableEq, Repr

/-- A revision that some elements do not take. -/
inductive Unsupported
  | rename (name : Text)
  | insertInside
  deriving DecidableEq, Repr

def Unsupported.message : Unsupported → String
  | .rename name => s!"rename_element does not support tag name {(quoted name).asString}"
  | .insertInside => "insert_inside does not support self closing tags"

/-- Why a revision fails. -/
inductive DraftError
  | locate (e : LocateError)
  | attributeNotFound (name : Text)
  | unsupported (u : Unsupported)
  | edit (e : Edit.Error)
  deriving DecidableEq, Repr

def DraftError.message : DraftError → String
  | .locate e => e.message
  | .attributeNotFound name => s!"attribute \"{name.asString}\" does not exist"
  | .unsupported u => u.message
  | .edit e => s!"edit error: {e.message}"

/-- A value in quotes: in the preferred ones when it does not hold them, else in the other ones, and
when it holds both in the preferred ones with each of those in it written as an entity. -/
def quoteValue (preferred : Char) (value : Text) : Text :=
  let other := if preferred = '\'' then '"' else '\''
  if ¬value.contains preferred then preferred :: value ++ [preferred]
  else if ¬value.contains other then other :: value ++ [other]
  else
    let entity := if preferred = '"' then "&quot;".toList else "&#39;".toList
    preferred :: replaceChar preferred entity value ++ [preferred]

namespace Draft

/-- A text before any revision. -/
def ofText (t : Text) : Draft := ⟨t, t, none⟩

variable (draft : Draft)

def select (selector : Selector) : Draft := { draft with selector := some selector }

/-- The place of the selected element. -/
def locate : Except DraftError Span :=
  match draft.selector with
  | none => .error (.locate (.invalidSelector .notSet))
  | some selector => (Markup.locate draft.document selector).mapError .locate

/-- The text as it stands. The selected element must exist when nothing has changed. -/
def text : Except DraftError Text := do
  if draft.document = draft.initial then
    let _ ← draft.locate
  return draft.document

/-- The text of the selected element. -/
def elementText : Except DraftError Text := do
  let span ← draft.locate
  return draft.document.slice span.head.start span.stop

/-- The value of an attribute of the selected element, empty when it has none. -/
def attributeValue (name : Text) : Except DraftError Text := do
  let span ← draft.locate
  return ((span.head.find? name).bind (·.attr.value?)).getD []

variable [Digest]

/-- The draft after a batch of edits. -/
def revise (edits : List Edit) : Except DraftError Draft :=
  let result := Edit.applyBatch edits draft.document
  match result.outcome with
  | .ok _ => .ok { draft with document := result.doc }
  | .error e => .error (.edit e)

/-- The edit that gives an attribute a value. Its quotes are kept unless the value holds them. -/
def valueEdit (a : PlacedAttribute) (value : Text) : Edit :=
  match a.attr.assignment with
  | some assignment =>
    match assignment.value with
    | .quoted quote _ _ =>
      if value.contains quote then
        .replacement draft.document (a.writtenStart assignment) a.stop (quoteValue quote value)
      else
        .replacement draft.document (a.valueStart assignment) (a.valueEnd assignment) value
    | .unquoted _ =>
      .replacement draft.document (a.valueStart assignment) (a.valueEnd assignment)
        (quoteValue '"' value)
  | none => .insertion a.nameEnd ('=' :: quoteValue '"' value)

/-- The edit that gives a tag a further attribute. -/
def additionEdit (head : Head) (name value : Text) : Edit :=
  .insertion head.insertAt (' ' :: name ++ '=' :: quoteValue '"' value)

/-- The edit that takes an attribute away, with the blanks before it. -/
def removalEdit (a : PlacedAttribute) : Edit := .replacement draft.document a.start a.stop []

/-- Gives the first attribute of a name a value, or adds it. -/
def setAttribute (name value : Text) : Except DraftError Draft := do
  let span ← draft.locate
  match span.head.find? name with
  | some a => draft.revise [draft.valueEdit a value]
  | none => draft.revise [additionEdit span.head name value]

/-- Takes all attributes of a name away. -/
def removeAttribute (name : Text) : Except DraftError Draft := do
  let span ← draft.locate
  draft.revise ((span.head.findAll name).map draft.removalEdit)

/-- The edit that takes the first occurrence of a text out of a value, if it changes anything. -/
def reductionEdit? (part : Text) (a : PlacedAttribute) : Option Edit := do
  let current ← a.attr.value?
  let reduced := trim (eraseFirst part current)
  if reduced.isEmpty then some (draft.removalEdit a)
  else if reduced = current then none
  else some (draft.valueEdit a reduced)

/-- Takes the first occurrence of a text out of the values of a name. A value with nothing left goes
with its attribute. -/
def reduceAttribute (name part : Text) : Except DraftError Draft := do
  let span ← draft.locate
  draft.revise ((span.head.findAll name).filterMap (draft.reductionEdit? part))

/-- A value with another one appended. -/
def extended (current value glue : Text) : Text :=
  let current := trim current
  if current.isEmpty then value else current ++ glue ++ value

/-- Appends a text to the values of a name, or adds the attribute. -/
def extendAttribute (name value glue : Text) : Except DraftError Draft := do
  let span ← draft.locate
  let value := trim value
  match span.head.findAll name with
  | [] => draft.revise [additionEdit span.head name value]
  | found =>
    draft.revise (found.map fun a =>
      draft.valueEdit a (extended (a.attr.value?.getD []) value glue))

/-- Replaces what a pattern matches in the first value of a name. -/
def replaceInAttribute (name : Text) (pattern : Matcher) (replacement : Text) :
    Except DraftError Draft := do
  let span ← draft.locate
  match span.head.find? name with
  | none => throw (.attributeNotFound name)
  | some a =>
    let replaced := pattern.replaceAll (a.attr.value?.getD []) replacement
    if a.attr.value? = some replaced then return draft
    else draft.revise [draft.valueEdit a replaced]

/-- Sets an attribute to a function of its value, or takes it away where that gives none. -/
def transformAttribute (name : Text) (f : Text → Option Text) : Except DraftError Draft := do
  match f (← draft.attributeValue name) with
  | some value => draft.setAttribute name value
  | none => draft.removeAttribute name

/-- Takes the element away. -/
def removeElement : Except DraftError Draft := do
  let span ← draft.locate
  draft.revise [.replacement draft.document span.head.start span.stop []]

/-- Whether a text can be written as the name of a tag. -/
def isTagName (name : Text) : Bool :=
  !name.isEmpty && name.all fun c => !(isSpace c || c = '<' || c = '>' || c = '/')

/-- Gives the element another name, in both of its tags. -/
def renameElement (name : Text) : Except DraftError Draft := do
  if ¬isTagName name then throw (.unsupported (.rename name))
  let span ← draft.locate
  let old := span.head.name
  let opening := Edit.ofExpected span.head.nameStart span.head.nameEnd name old
  let closing := span.closing.map fun range =>
    Edit.ofExpected (range.start + 2) (range.start + 2 + old.size) name old
  draft.revise (opening :: closing.toList)

/-- Inserts a text before the element. -/
def insertBefore (html : Text) : Except DraftError Draft := do
  let span ← draft.locate
  draft.revise [.insertion span.head.start html]

/-- Inserts a text after the element. -/
def insertAfter (html : Text) : Except DraftError Draft := do
  let span ← draft.locate
  draft.revise [.insertion span.stop html]

/-- Inserts a text at the end of the element's content. -/
def insertInside (html : Text) : Except DraftError Draft := do
  let span ← draft.locate
  match span.closing with
  | none => throw (.unsupported .insertInside)
  | some range => draft.revise [.insertion range.start html]

/-- Puts the element's content in its place. -/
def unwrapElement : Except DraftError Draft := do
  let span ← draft.locate
  match span.closing with
  | none => draft.removeElement
  | some range =>
    draft.revise [.replacement draft.document range.start range.stop [],
      .replacement draft.document span.head.start span.head.stop []]

end Draft

end Graft.Markup
