import Graft.Text.Quoted

/-!
Verified edits: a range of bytes, the text to put there, and what is expected to stand there before.

An edit whose text already stands in its range does nothing. Long expectations are kept as a digest.
A batch is validated as a whole against the text that it is applied to, then applied from the end of
the text to its start, so that no edit moves the range of a later one.
-/

namespace Graft

open Text

/-- A digest of texts, by which long texts are compared. -/
class Digest where
  digest : Text → UInt64

/-- The 64-bit digest that takes in the characters by exclusive or and multiplication. -/
@[reducible] def Digest.multiplicative : Digest where
  digest t := t.foldl (fun h c => (h ^^^ c.toNat.toUInt64) * 1099511628211) 14695981039346656037

/-- What an edit expects to find in its range. -/
inductive Expectation
  | exact (text : Text)
  | digest (value : UInt64)
  deriving DecidableEq, Repr

namespace Expectation

/-- The most bytes of a text that is kept in full. -/
def exactLimit : Nat := 1024

/-- An expectation as errors tell it. -/
def shown : Expectation → Text
  | .exact text => "ExactMatch(".toList ++ quoted text ++ [')']
  | .digest value => s!"Hash({value.toNat})".toList

variable [Digest]

/-- The expectation of a text: the text itself, or its digest when it is long. -/
def ofText (t : Text) : Expectation :=
  if exactLimit < t.size then .digest (Digest.digest t) else .exact t

def holdsOf (expectation : Expectation) (t : Text) : Bool :=
  match expectation with
  | .exact text => t = text
  | .digest value => Digest.digest t = value

end Expectation

/-- The replacement of the bytes `[start, stop)` by a text. -/
structure Edit where
  start : Nat
  stop : Nat
  new : Text
  expected : Expectation
  deriving DecidableEq, Repr

namespace Edit

/-- Why an edit cannot be applied. -/
inductive Error
  | mismatch (start stop : Nat) (expected found : Text)
  | invalidRange (start stop length : Nat)
  | overlap (start stop : Nat)
  | splitCharacter (offset : Nat)
  deriving DecidableEq, Repr

def Error.message : Error → String
  | .mismatch start stop _ found =>
    s!"Before-text verification failed at {start}..{stop}: found {(quoted found).asString}"
  | .invalidRange start stop length =>
    s!"Invalid byte range: [{start}, {stop}) in document of length {length}"
  | .overlap start stop => s!"Overlapping edits at {start}..{stop}"
  | .splitCharacter offset => s!"Edit boundary splits a UTF-8 character at byte {offset}"

/-- What applying an edit did: it put a number of bytes in place, or found them there already. -/
inductive Outcome
  | applied (bytes : Nat)
  | alreadyApplied
  deriving DecidableEq, Repr

variable [Digest]

/-- The edit that expects a given text in its range. -/
def ofExpected (start stop : Nat) (new expected : Text) : Edit :=
  ⟨start, stop, new, .ofText expected⟩

/-- The insertion of a text at an offset. -/
def insertion (offset : Nat) (new : Text) : Edit := ofExpected offset offset new []

/-- The edit that expects what a document holds in its range. -/
def replacement (doc : Text) (start stop : Nat) (new : Text) : Edit :=
  ofExpected start stop new (doc.slice start stop)

/-- The parts of a document before, in and after an edit's range, when the edit may be applied. -/
def validate (edit : Edit) (doc : Text) : Except Error (Text × Text × Text) :=
  if edit.stop < edit.start ∨ doc.size < edit.stop then
    .error (.invalidRange edit.start edit.stop doc.size)
  else
    match splitAt? edit.start doc with
    | none => .error (.splitCharacter edit.start)
    | some (before, tail) =>
      match splitAt? (edit.stop - edit.start) tail with
      | none => .error (.splitCharacter edit.stop)
      | some (found, after) =>
        if found = edit.new ∨ edit.expected.holdsOf found then .ok (before, found, after)
        else .error (.mismatch edit.start edit.stop edit.expected.shown found)

/-- A document after an edit, and what the edit did. -/
def applyTo (edit : Edit) (doc : Text) : Except Error (Text × Outcome) := do
  let (before, found, after) ← edit.validate doc
  if found = edit.new then return (doc, .alreadyApplied)
  else return (before ++ edit.new ++ after, .applied edit.new.size)

/-- Whether an edit is applied before another: the one that starts later, or of two that start
together the one that stops later. -/
def appliesBefore (a b : Edit) : Bool :=
  b.start < a.start || (a.start == b.start && b.stop ≤ a.stop)

/-- The first overlap of neighbours among edits in the order of their application. -/
def findOverlap? : List Edit → Option Error
  | later :: earlier :: rest =>
    if later.start < earlier.stop then some (.overlap later.start earlier.stop)
    else findOverlap? (earlier :: rest)
  | _ => none

/-- A document after a batch, and what each edit did in the order of application, or why the batch
stopped. -/
structure BatchResult where
  doc : Text
  outcome : Except Error (List Outcome)

/-- The application of edits one after the other, up to the first that fails. -/
def applyInOrder : List Edit → Text → BatchResult
  | [], doc => ⟨doc, .ok []⟩
  | edit :: rest, doc =>
    match edit.applyTo doc with
    | .error e => ⟨doc, .error e⟩
    | .ok (doc', did) =>
      let result := applyInOrder rest doc'
      ⟨result.doc, result.outcome.map (did :: ·)⟩

/-- The application of a batch. Nothing changes unless each edit is valid for the document and no
two of them overlap. -/
def applyBatch (edits : List Edit) (doc : Text) : BatchResult :=
  let sorted := edits.mergeSort appliesBefore
  match sorted.forM fun edit => (edit.validate doc).map fun _ => () with
  | .error e => ⟨doc, .error e⟩
  | .ok () =>
    match findOverlap? sorted with
    | some e => ⟨doc, .error e⟩
    | none => applyInOrder sorted doc

end Edit

end Graft
