import Graft.Pattern.Bracket

/-!
The reading of patterns.

A pattern is read from left to right, with a stack of the groups still open. Reading fails where the
pattern is not well formed, where it is nested too deep, and where it asks for what a search in one
pass cannot give: a look at the text around, or a reference to an earlier group.
-/

namespace Graft.Pattern

open Text

namespace Reader

/-! ### Repetitions -/

/-- The least number that is too great for a count. -/
def countLimit : Nat := Nat.pow 2 32

/-- A number in decimal digits, white space around it allowed. -/
def readCount? (flags : Flags) (cs : Text) : Option (Nat × Text) :=
  let (digits, rest) := flags.takeSpaced Char.isDigit false (trimStart cs)
  let n := digits.foldl (fun n d => 10 * n + (d.toNat - '0'.toNat)) 0
  if digits.isEmpty ∨ countLimit ≤ n then none else some (n, flags.skipFiller (trimStart rest))

/-- The bounds of a repetition, whose opening brace stands before the text. -/
def readBounds? (flags : Flags) (cs : Text) : Option ((Nat × Option Nat) × Text) := do
  let (min, rest) ← readCount? flags (flags.skipFiller cs)
  match rest with
  | '\x7d' :: after => return ((min, some min), after)
  | ',' :: rest =>
    match flags.skipFiller rest with
    | '\x7d' :: after => return ((min, none), after)
    | rest =>
      let (max, rest) ← readCount? flags rest
      match rest with
      | '\x7d' :: after => if min ≤ max then some ((min, some max), after) else none
      | _ => none
  | _ => none

/-- The bounds of the repetition at the front of a text. -/
def readRepetition? (flags : Flags) : Text → Option ((Nat × Option Nat) × Text)
  | '?' :: cs => some ((0, some 1), cs)
  | '*' :: cs => some ((0, none), cs)
  | '+' :: cs => some ((1, none), cs)
  | '\x7b' :: cs => (readBounds? flags cs).map fun (bounds, rest) => (bounds, flags.skipFiller rest)
  | _ => none

/-! ### Groups -/

/-- Whether a text is the name of a group: it begins with a letter or an underscore, and goes on
with letters, numbers, underscores, dots and brackets. -/
def isGroupName : Text → Bool
  | [] => false
  | c :: cs =>
    let isLetter (c : Char) : Bool := c = '_' || letterRanges.contains c.toNat
    isLetter c && cs.all fun c =>
      isLetter c || numberRanges.contains c.toNat || c = '.' || c = '[' || c = ']'

/-- A part of a pattern, and how deep it is nested. -/
structure Item where
  expr : Expr
  depth : Nat

/-- The depth of items that stand together: alone an item adds nothing, and several add one. -/
def depthOf : List Item → Nat
  | [] => 0
  | [item] => item.depth
  | items => items.foldl (fun depth item => max depth item.depth) 0 + 1

/-- Items in sequence, the last of which comes first. -/
def sequenceOf (items : List Item) : Item :=
  ⟨.sequence (items.reverse.map (·.expr)), depthOf items⟩

/-- Items of which the earlier are preferred, the last of which comes first. -/
def alternationOf (items : List Item) : Item :=
  ⟨.alternation (items.reverse.map (·.expr)), depthOf items⟩

/-- A group that is still open: the alternatives and the items read before it in the group around
it, the number under which it is remembered, and the flags to go back to. -/
structure Frame where
  alternatives : List Item
  items : List Item
  index : Option Nat
  flags : Flags

/-- The state of the reading: the groups still open, the alternatives and items of the innermost
one with the last first, whether a repetition may follow, and the number and names of the groups so
far. -/
structure State where
  frames : List Frame := []
  alternatives : List Item := []
  items : List Item := []
  repeatable : Bool := false
  flags : Flags := {}
  groups : Nat := 0
  names : List (Text × Nat) := []

namespace State

variable (state : State)

def push (item : Item) : State :=
  { state with items := item :: state.items, repeatable := true }

/-- The expression of a character, or of both its cases where case is ignored. -/
def ofChar (c : Char) : Expr :=
  let s := Ranges.single c.toNat
  if state.flags.ignoreCase then
    .ofSet (if state.flags.unicode then s.anyCase else s.anyCaseAscii)
  else .literal [c]

def pushEscaped : Escaped → State
  | .literal c => state.push ⟨state.ofChar c, 0⟩
  | .set s => state.push ⟨.ofSet s, 0⟩
  | .assertion a => state.push ⟨.assertion a, 0⟩

/-- The state after flags are switched, which count as an item that nothing repeats. -/
def switch (flags : Flags) : State :=
  { state with items := ⟨.empty, 0⟩ :: state.items, repeatable := false, flags := flags }

/-- The end of an alternative. -/
def closeAlternative : State :=
  { state with alternatives := sequenceOf state.items :: state.alternatives, items := [],
               repeatable := false }

/-- The alternatives of the innermost group. -/
def choice : Item := alternationOf state.closeAlternative.alternatives

def openGroup (index : Option Nat) (flags : Flags) : State :=
  { state with
    frames := ⟨state.alternatives, state.items, index, state.flags⟩ :: state.frames
    alternatives := [], items := [], repeatable := false, flags := flags }

/-- A group that is remembered, under its number and, when it has one, its name. -/
def openCapture (name : Option Text) : State :=
  let index := state.groups + 1
  { state.openGroup (some index) state.flags with
    groups := index
    names := name.elim state.names fun name => (name, index) :: state.names }

def closeGroup? : Option State :=
  match state.frames with
  | [] => none
  | frame :: below =>
    let inside := state.choice
    let e := match frame.index with
      | some i => Expr.group i inside.expr
      | none => inside.expr
    some { state with
      frames := below, alternatives := frame.alternatives
      items := ⟨e, inside.depth + 1⟩ :: frame.items, repeatable := true, flags := frame.flags }

/-- The last item repeated. -/
def repeat? (min : Nat) (max : Option Nat) (greedy : Bool) : Option State :=
  match state.repeatable, state.items with
  | true, item :: rest =>
    let e := Expr.repetition min max (greedy != state.flags.swapGreed) item.expr
    some (({ state with items := rest } : State).push ⟨e, item.depth + 1⟩)
  | _, _ => none

/-- A named group, from its name on. -/
def readNamed? (cs : Text) : Option (State × Text) := do
  let (name, rest) ← breakOn? ['>'] cs
  if isGroupName name ∧ (state.names.lookup name).isNone then
    some (state.openCapture (some name), rest.drop 1)
  else none

/-- The opening of a group, whose `(` stands before the text. -/
def readGroup? (cs : Text) : Option (State × Text) :=
  match state.flags.skipFiller cs with
  | '?' :: 'P' :: '<' :: cs => state.readNamed? cs
  | '?' :: '<' :: cs => state.readNamed? cs
  | '?' :: cs => do
    match ← state.flags.read? true [] cs with
    | (flags, ':' :: rest) => some (state.openGroup none flags, rest)
    | (flags, rest) => some (state.switch flags, rest.drop 1)
  | cs => some (state.openCapture none, cs)

/-- The characters that a dot stands for. -/
def dot? : Option Ranges :=
  if !state.flags.unicode then none
  else if state.flags.dotAll then some Ranges.everything
  else if state.flags.carriageReturn then some (Ranges.ofLines ["A D"]).complement
  else some (Ranges.single 0xA).complement

/-- The reading of what comes next in a pattern. -/
def next? (c : Char) (cs : Text) : Option (State × Text) :=
  match c with
  | '(' => state.readGroup? cs
  | ')' => do return (← state.closeGroup?, cs)
  | '|' => some (state.closeAlternative, cs)
  | '[' => do
    let (s, rest) ← NestedSet.read? state.flags cs
    return (state.push ⟨.ofSet s.ranges, s.depth⟩, rest)
  | '.' => do return (state.push ⟨.ofSet (← state.dot?), 0⟩, cs)
  | '^' =>
    let a := if state.flags.lines then .lineStart state.flags.carriageReturn else .textStart
    some (state.push ⟨.assertion a, 0⟩, cs)
  | '$' =>
    let a := if state.flags.lines then .lineEnd state.flags.carriageReturn else .textEnd
    some (state.push ⟨.assertion a, 0⟩, cs)
  | '\\' => do
    let (escaped, rest) ← Escaped.read? state.flags cs
    return (state.pushEscaped escaped, rest)
  | _ =>
    if c = '?' ∨ c = '*' ∨ c = '+' ∨ c = '\x7b' then do
      let ((min, max), rest) ← readRepetition? state.flags (c :: cs)
      match rest with
      | '?' :: after => return (← state.repeat? min max false, after)
      | _ => return (← state.repeat? min max true, rest)
    else some (state.pushEscaped (.literal c), cs)

end State

/-- The state at the end of a pattern. -/
def readAll? (state : State) (cs : Text) : Option State :=
  match state.flags.skipFiller cs with
  | [] => some state
  | c :: start =>
    match state.next? c start with
    | none => none
    | some (state, rest) => if _h : rest.length < cs.length then readAll? state rest else none
termination_by cs.length
decreasing_by exact _h

/-- How deep the parts of a pattern may be nested. -/
def depthLimit : Nat := 250

end Reader

/-- The expression that a pattern stands for, with the names of its groups. -/
def Expr.ofText? (cs : Text) : Option (Expr × List (Text × Nat)) := do
  let state ← Reader.readAll? {} cs
  let whole := state.choice
  if state.frames.isEmpty ∧ whole.depth ≤ Reader.depthLimit then some (whole.expr, state.names)
  else none

end Graft.Pattern
