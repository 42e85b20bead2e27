import Graft.Toml.Scalar

/-!
The reading of documents.

Reading fails where a document is not well formed, where a key is given twice, and where a table is
defined against the rules.
-/

namespace Graft.Toml

open Text

/-- The text after a comment, which ends with its line. -/
def readComment? : Text → Option Text
  | '#' :: cs =>
    let rest := cs.dropWhile fun c => !isControl c
    match rest with
    | [] => some []
    | _ => if (readNewline? rest).isSome then some rest else none
  | _ => none

/-- The text after blanks, comments and ends of lines. -/
def skipFiller? (cs : Text) : Option Text :=
  match cs with
  | [] => some []
  | c :: rest =>
    if isLineBlank c ∨ c = '\n' then skipFiller? rest
    else if c = '\r' then
      match readNewline? cs with
      | some after => if _h : after.length ≤ rest.length then skipFiller? after else none
      | none => none
    else if c = '#' then
      match readComment? cs with
      | some after => if _h : after.length ≤ rest.length then skipFiller? after else none
      | none => none
    else some cs
termination_by cs.length
decreasing_by
  · exact Nat.lt_succ_self _
  · exact Nat.lt_succ_of_le _h
  · exact Nat.lt_succ_of_le _h

/-- The text after the rest of a line that holds nothing more than a comment. -/
def readLineEnd? (cs : Text) : Option Text := do
  let rest := cs.dropWhile isLineBlank
  let rest ← if rest.head? = some '#' then readComment? rest else some rest
  if rest.isEmpty then some [] else readNewline? rest

/-! ### Keys -/

/-- Whether a character may stand in a key without quotes. -/
def isKeyChar (c : Char) : Bool := c.isAlphanum || c = '_' || c = '-'

/-- A key without dots: bare, or a string on one line. -/
def readSimpleKey? (cs : Text) : Option (Text × Text) :=
  match cs with
  | '"' :: rest => readBasic? rest
  | '\'' :: rest => readLiteral? rest
  | _ =>
    if (cs.takeWhile isKeyChar).isEmpty then none
    else some (cs.takeWhile isKeyChar, cs.dropWhile isKeyChar)

/-- The parts of a key between its dots, and the text after it and any blanks. -/
def readKeyParts? (cs : Text) : Option (List Text × Text) :=
  match readSimpleKey? (cs.dropWhile isLineBlank) with
  | none => none
  | some (key, rest) =>
    match rest.dropWhile isLineBlank with
    | '.' :: after =>
      if _h : after.length < cs.length then
        (readKeyParts? after).map fun (keys, r) => (key :: keys, r)
      else none
    | after => some ([key], after)
termination_by cs.length

/-- How deep brackets and braces may be nested, and the most parts that a key may have. -/
def depthLimit : Nat := 80

/-- A key of not too many parts, and the text after it and any blanks. -/
def readKey? (cs : Text) : Option (List Text × Text) :=
  (readKeyParts? cs).filter (·.1.length ≤ depthLimit)

/-! ### Values -/

/-- A reader of values. -/
abbrev ValueReader := Text → Option (Toml × Text)

/-- The items of an array, after its bracket or a comma. -/
def readItems? (readValue? : ValueReader) (cs : Text) : Option (List Toml × Text) :=
  match skipFiller? cs with
  | none => none
  | some (']' :: rest) => some ([], rest)
  | some start =>
    match readValue? start with
    | none => none
    | some (item, rest) =>
      match skipFiller? rest with
      | some (',' :: after) =>
        if _h : after.length < cs.length then
          (readItems? readValue? after).map fun (items, r) => (item :: items, r)
        else none
      | some (']' :: after) => some ([item], after)
      | _ => none
termination_by cs.length

/-- A key and its value. -/
def readPair? (readValue? : ValueReader) (cs : Text) : Option (List Text × Toml × Text) := do
  let (key, rest) ← readKey? cs
  let '=' :: rest := rest | none
  let (value, rest) ← readValue? (rest.dropWhile isLineBlank)
  return (key, value, rest)

/-- The fields with a value under a key of one or more parts. -/
def insertPair (key : List Text) (value : Toml) (fields : Fields) : Option Fields :=
  match key.getLast? with
  | none => none
  | some last => insertAt last value key.dropLast fields

/-- The fields of a table in braces, after its brace or a comma. -/
def readFields? (readValue? : ValueReader) (fields : Fields) (cs : Text) :
    Option (Fields × Text) :=
  match skipFiller? cs with
  | none => none
  | some ('\x7d' :: rest) => some (fields, rest)
  | some start =>
    match readPair? readValue? start with
    | none => none
    | some (key, value, rest) =>
      match insertPair key value fields with
      | none => none
      | some fields =>
        match skipFiller? rest with
        | some (',' :: after) =>
          if _h : after.length < cs.length then readFields? readValue? fields after else none
        | some ('\x7d' :: after) => some (fields, after)
        | _ => none
termination_by cs.length

/-- A value without brackets and braces at the front of a text, and the text after it. -/
def readPlain? : ValueReader
  | [] => none
  | c :: cs =>
    if c = '"' ∨ c = '\'' then (readString? (c :: cs)).map fun (t, r) => (.string t, r)
    else readScalar? (c :: cs)

/-- The value at the front of a text, and the text after it, where brackets and braces are nested no
deeper than given. -/
def readValue? : Nat → ValueReader
  | 0, cs => readPlain? cs
  | depth + 1, cs =>
    match cs with
    | '[' :: rest => do
      let (items, after) ← readItems? (readValue? depth) rest
      return (.array items, after)
    | '\x7b' :: rest => do
      let (fields, after) ← readFields? (readValue? depth) [] rest
      return (.table .inline fields, after)
    | _ => readPlain? cs

/-! ### Documents -/

/-- A document so far: its fields, and the keys that lead to the table whose header came last. -/
structure Document where
  fields : Fields := []
  current : List Text := []

namespace Document

/-- The document after a header, whose first bracket stands before the text. -/
def readHeader? (doc : Document) (cs : Text) : Option (Document × Text) := do
  let (isElement, cs) := match cs with
    | '[' :: rest => (true, rest)
    | _ => (false, cs)
  let (key, rest) ← readKey? cs
  let rest ← match isElement, rest with
    | true, ']' :: ']' :: after => some after
    | false, ']' :: after => some after
    | _, _ => none
  let last ← key.getLast?
  let open? := if isElement then openElement last else openTable last
  let fields ← modifyAt open? key.dropLast doc.fields
  return (⟨fields, key⟩, rest)

/-- The document after a line with a key and its value. -/
def readPair? (doc : Document) (cs : Text) : Option (Document × Text) := do
  let (key, value, rest) ← Toml.readPair? (readValue? depthLimit) cs
  let fields ← modifyAt (insertPair key value) doc.current doc.fields
  return ({ doc with fields := fields }, rest)

/-- The document after all lines of a text. -/
def readAll? (doc : Document) (cs : Text) : Option Document :=
  match skipFiller? cs with
  | none => none
  | some [] => some doc
  | some (c :: start) =>
    match if c = '[' then doc.readHeader? start else doc.readPair? (c :: start) with
    | none => none
    | some (doc, rest) =>
      match readLineEnd? rest with
      | none => none
      | some after => if _h : after.length < cs.length then readAll? doc after else none
termination_by cs.length

end Document

/-- A text without the mark of byte order at its start. -/
def dropByteOrderMark : Text → Text
  | '\ufeff' :: cs => cs
  | cs => cs

/-- The fields of the document that a text is. A mark of byte order at its start does not count. -/
def ofText? (cs : Text) : Option Fields :=
  (Document.readAll? {} (dropByteOrderMark cs)).map (·.fields)

end Graft.Toml
