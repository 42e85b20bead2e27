import Graft.Pattern.Escape

/-!
Sets of characters in brackets.

Sets may be nested, and joined by the operations `&&`, `--` and `~~`, which are read from left to
right. A set is read with its depth: brackets, operations and the union of several members each
nest what they hold one level deeper.
-/

namespace Graft.Pattern

open Text

/-- How two sets in brackets are joined. -/
inductive SetOperation
  | inter
  | diff
  | symmDiff
  deriving DecidableEq, Repr

/-- A set that is read, and how deep it is nested. -/
structure NestedSet where
  ranges : Ranges
  depth : Nat

/-- The members of a set read so far: their characters, their number, and the depth of the
deepest. -/
structure Members where
  ranges : Ranges := []
  count : Nat := 0
  depth : Nat := 0

/-- What waits while the set in the innermost brackets is read: the members around it, or the left
side of an operation. -/
inductive SetFrame
  | bracket (negated : Bool) (outer : Members)
  | operation (op : SetOperation) (left : NestedSet)

namespace Members

/-- The members with a further one. -/
def add (members : Members) (s : NestedSet) : Members :=
  ⟨members.ranges.union s.ranges, members.count + 1, max members.depth s.depth⟩

/-- The members with further characters. -/
def addRanges (members : Members) (s : Ranges) : Members := members.add ⟨s, 0⟩

/-- The set of the members. -/
def toSet (members : Members) : NestedSet :=
  ⟨members.ranges, if 2 ≤ members.count then members.depth + 1 else members.depth⟩

end Members

namespace Bracket

variable (flags : Flags)

/-- A set with the other case of its letters in it, where case is ignored. -/
def fold (s : Ranges) : Ranges :=
  if !flags.ignoreCase then s else if flags.unicode then s.anyCase else s.anyCaseAscii

/-- A set under the flags in force, or the characters that are not in it. Only sets of ASCII
characters are allowed unless characters are taken in the Unicode sense. -/
def finish? (negated : Bool) (s : Ranges) : Option Ranges :=
  let s := if negated then (fold flags s).complement else fold flags s
  if flags.unicode ∨ s.isAscii then some s else none

/-- The join of two sets, of which each is taken with both cases where case is ignored. -/
def combine (op : SetOperation) (left right : NestedSet) : NestedSet :=
  let s := fold flags left.ranges
  let t := fold flags right.ranges
  let ranges := match op with
    | .inter => s.inter t
    | .diff => s.diff t
    | .symmDiff => s.symmDiff t
  ⟨ranges, max left.depth right.depth + 1⟩

/-- The set read so far with the operation that waits for it, and the frames below. -/
def applyPending (s : NestedSet) : List SetFrame → NestedSet × List SetFrame
  | .operation op left :: rest => (combine flags op left s, rest)
  | frames => (s, frames)

/-- The named set whose `[` stands before a text. -/
def readNamed? : Text → Option (Ranges × Text)
  | ':' :: cs => do
    let (negated, cs) := match cs with
      | '^' :: rest => (true, rest)
      | _ => (false, cs)
    let (name, rest) ← breakOn? [':', ']'] cs
    let s ← NamedSet.find? asciiSets (asString name)
    return (if negated then (fold flags s).complement else fold flags s, rest.drop 2)
  | _ => none

/-- The hyphens that are members at the start of a set, and the text after them. -/
def readHyphens (members : Members) (cs : Text) : Members × Text :=
  match flags.skipFiller cs with
  | '-' :: rest =>
    if _h : rest.length < cs.length then readHyphens (members.addRanges (.single 0x2D)) rest
    else (members, cs)
  | rest => (members, rest)
termination_by cs.length

/-- The start of a set in brackets, after its `[`: whether a `^` negates it, the hyphens or the
bracket that count as members there, and the text after them. -/
def readStart (cs : Text) : Bool × Members × Text :=
  let (negated, cs) := match flags.skipFiller cs with
    | '^' :: rest => (true, flags.skipFiller rest)
    | rest => (false, rest)
  match readHyphens flags {} cs with
  | (members, ']' :: rest) =>
    if members.count = 0 then (negated, members.addRanges (.single 0x5D), rest)
    else (negated, members, ']' :: rest)
  | (members, rest) => (negated, members, rest)

/-- A character or an escape in brackets. -/
def readMember? : Text → Option (Escaped × Text)
  | '\\' :: cs => Escaped.read? flags cs
  | c :: cs => some (.literal c, cs)
  | [] => none

/-- The character after a hyphen, as far as it tells whether the hyphen makes a range: after filler
with at most one `#` in it. -/
def peekAfter (cs : Text) : Option Char :=
  if !flags.filler then cs.head?
  else
    match cs.dropWhile isSpace with
    | '#' :: rest => (rest.dropWhile isSpace).head?
    | rest => rest.head?

/-- The set of a character in brackets. -/
def ofChar? (c : Char) : Option Ranges :=
  if flags.unicode ∨ c.toNat < 0x80 then some (.single c.toNat) else none

/-- A member of a set, or a range of characters. -/
def readRange? (cs : Text) : Option (Ranges × Text) := do
  let (first, rest) ← readMember? flags cs
  let alone : Option Ranges :=
    match first with
    | .literal c => ofChar? flags c
    | .set s => some s
    | .assertion _ => none
  match flags.skipFiller rest with
  | [] => none
  | '-' :: after =>
    let next := peekAfter flags after
    if next = some ']' ∨ next = some '-' then return (← alone, '-' :: after)
    else
      match first, ← readMember? flags (flags.skipFiller after) with
      | .literal c, (.literal d, after) =>
        let _ ← ofChar? flags c
        let _ ← ofChar? flags d
        if c ≤ d then some ([(c.toNat, d.toNat)], after) else none
      | _, _ => none
  | rest => return (← alone, rest)

/-- The set whose outermost `[` and start stand before the text, and the text after it. -/
def read? (frames : List SetFrame) (members : Members) (cs : Text) : Option (NestedSet × Text) :=
  let continueWith (frames : List SetFrame) (members : Members) (rest : Text) :=
    if _h : rest.length < cs.length then read? frames members rest else none
  let operate (op : SetOperation) (rest : Text) :=
    let (left, below) := applyPending flags members.toSet frames
    continueWith (.operation op left :: below) {} rest
  match flags.skipFiller cs with
  | [] => none
  | ']' :: rest =>
    match applyPending flags members.toSet frames with
    | (s, .bracket negated outer :: below) => do
      let s : NestedSet := ⟨← finish? flags negated s.ranges, s.depth + 1⟩
      if below.isEmpty then some (s, rest) else continueWith below (outer.add s) rest
    | _ => none
  | '[' :: rest =>
    match readNamed? flags rest with
    | some (s, after) =>
      if flags.unicode ∨ s.isAscii then continueWith frames (members.addRanges s) after else none
    | none =>
      let (negated, start, after) := readStart flags rest
      continueWith (.bracket negated members :: frames) start after
  | '&' :: '&' :: rest => operate .inter rest
  | '-' :: '-' :: rest => operate .diff rest
  | '~' :: '~' :: rest => operate .symmDiff rest
  | cs => do
    let (s, rest) ← readRange? flags cs
    continueWith frames (members.addRanges s) rest
termination_by cs.length

end Bracket

/-- The set in brackets whose first `[` stands before a text, and the text after it. -/
def NestedSet.read? (flags : Flags) (cs : Text) : Option (NestedSet × Text) :=
  let (negated, start, rest) := Bracket.readStart flags cs
  Bracket.read? flags [.bracket negated {}] start rest

end Graft.Pattern
