import Graft.Toml.Reader

/-!
The reading of malformed documents.

A fault does not end the reading at once, which goes on with the next line. A key after which the
equals sign is doubled stays without a value. A later key that leads through such a key leads
nowhere, and with it the reading is given up.
-/

namespace Graft.Toml

open Text

/-- Why a text is not read as a document. -/
inductive Fault
  | malformed
  | givenUp
  deriving DecidableEq, Repr

/-- Whether a path of keys leads through one without a value. -/
def leadsThroughMissing : List Text → Fields → Bool
  | [], _ => false
  | key :: path, fields =>
    match fields.lookup key with
    | some .missing => true
    | some (.table _ inner) => leadsThroughMissing path inner
    | some (.tables elements) => elements.getLast?.any (leadsThroughMissing path)
    | _ => false

/-- Whether a character ends a part of a key, well formed or not. -/
def endsKeyPart (c : Char) : Bool :=
  endsScalar c || isQuote c || c = '.' || c = '=' || c = '[' || c = '\x7b'

/-- A part of a key as far as it can be read, which may be nothing. -/
def readKeyPart (cs : Text) : Text × Text :=
  let (key, rest) := (readSimpleKey? cs).getD ([], cs)
  (key ++ rest.takeWhile (!endsKeyPart ·), rest.dropWhile (!endsKeyPart ·))

/-- The parts of a key as far as they can be read, and the text after it and any blanks. -/
def readKeyLoosely (cs : Text) : List Text × Text :=
  let (part, rest) := readKeyPart (cs.dropWhile isLineBlank)
  match rest.dropWhile isLineBlank with
  | '.' :: after =>
    if _h : after.length < cs.length then
      let (parts, rest) := readKeyLoosely after
      (part :: parts, rest)
    else ([part], after)
  | after => ([part], after)
termination_by cs.length
decreasing_by exact _h

/-- A value as far as it can be read, which is missing after a second equals sign. -/
def readValueLoosely (cs : Text) : Toml × Text :=
  match cs.dropWhile isLineBlank with
  | '=' :: rest => (.missing, rest)
  | rest => (readValue? depthLimit rest).getD (.string [], rest)

namespace Document

/-- The document after a header as far as it can be read, whose first bracket stands before the
text. What breaks the rules is left out. -/
def readHeaderLoosely? (doc : Document) (cs : Text) : Option (Document × Text) :=
  let (isElement, cs) := match cs with
    | '[' :: rest => (true, rest)
    | _ => (false, cs)
  let (key, rest) := readKeyLoosely cs
  let last := key.getLast?.getD []
  let change := if isElement then openElement last else openTable last
  if leadsThroughMissing key.dropLast doc.fields then none
  else
    match modifyAt change key.dropLast doc.fields with
    | some fields => some (⟨fields, key⟩, rest)
    | none => some (doc, rest)

/-- The document after a key and its value as far as they can be read. What breaks the rules is left
out. -/
def readPairLoosely? (doc : Document) (cs : Text) : Option (Document × Text) :=
  match readKeyLoosely cs with
  | (key, '=' :: rest) =>
    let (value, rest) := readValueLoosely rest
    if leadsThroughMissing (doc.current ++ key.dropLast) doc.fields then none
    else
      match modifyAt (insertPair key value) doc.current doc.fields with
      | some fields => some ({ doc with fields := fields }, rest)
      | none => some (doc, rest)
  | (_, rest) => some (doc, rest)

/-- Whether the reading of the lines of a text is given up. -/
def isGivenUp (doc : Document) (cs : Text) : Bool :=
  match cs.dropWhile isLineBlank with
  | [] => false
  | c :: start =>
    match if c = '[' then doc.readHeaderLoosely? start else doc.readPairLoosely? (c :: start) with
    | none => true
    | some (doc, rest) =>
      let after := (rest.dropWhile (· ≠ '\n')).drop 1
      if _h : after.length < cs.length then isGivenUp doc after else false
termination_by cs.length
decreasing_by exact _h

end Document

/-- The fields of the document that a text is. -/
def read (cs : Text) : Except Fault Fields :=
  match ofText? cs with
  | some fields => .ok fields
  | none =>
    .error (if Document.isGivenUp {} (dropByteOrderMark cs) then .givenUp else .malformed)

end Graft.Toml
