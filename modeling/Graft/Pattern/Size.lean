import Graft.Pattern.Expr
import Graft.Pattern.Utf8
import Std.Data.HashMap

/-!
The size of the automata over bytes that a pattern stands for.

One automaton reads a match from its start to its end and another backward. A state takes up a fixed
number of bytes, and more for each way that leads on from it to several states. A pattern is too
large when either automaton takes up more than a limit. The repetition of a body is as large as the
body written out, so the size is found by going through all copies, as far as the limit allows.
-/

namespace Graft.Pattern

open Text

/-- The direction in which an automaton reads. -/
inductive Direction
  | forward
  | backward
  deriving DecidableEq, Repr

/-- The size of an automaton so far: the number of its states, and the bytes that they take up
besides those of each state. -/
structure Size where
  states : Nat
  extra : Nat
  deriving DecidableEq, Repr

namespace Size

def stateBytes : Nat := 32

/-- The bytes of a way on for a range of bytes, in a state with several. -/
def rangeBytes : Nat := 8

/-- The bytes of a way on without a byte, in a state with several. -/
def branchBytes : Nat := 4

/-- The most bytes that an automaton may take up. -/
def limit : Nat := 10 * 1024 * 1024

def plus (size : Size) (states extra : Nat) : Size := ⟨size.states + states, size.extra + extra⟩

/-- The size, unless it is too great. -/
def check? (size : Size) : Option Size :=
  if limit < stateBytes * size.states + size.extra then none else some size

end Size

/-- How a part of a pattern makes an automaton larger; nothing when it becomes too large. -/
abbrev Growth := Size → Option Size

namespace Growth

/-- States, of which so many ranges and branches lead on. -/
def add (states ranges branches : Nat) : Growth := fun size =>
  (size.plus states (Size.rangeBytes * ranges + Size.branchBytes * branches)).check?

/-- One part after another. -/
def append (f g : Growth) : Growth := fun size =>
  match f size with
  | some size => g size
  | none => none

instance : Append Growth := ⟨append⟩

/-- A part as many times. -/
def times (g : Growth) : Nat → Growth
  | 0, size => some size
  | n + 1, size =>
    match g size with
    | some size => times g n size
    | none => none

end Growth

/-! ### Sets -/

/-- The states of a set while they are found: the size so far, and the states that may be used
again, by the place where they are remembered. A state is described by numbers, and its place is
computed from those; a later state takes the place of an earlier one. -/
structure Sharing where
  size : Size
  known : Std.HashMap Nat (List Nat × Nat) := {}

namespace Sharing

/-- The place of a state among a number of places. -/
def place (places : UInt64) (description : List Nat) : Nat :=
  let mix (h : UInt64) (n : Nat) : UInt64 := (h ^^^ n.toUInt64) * 1099511628211
  (description.foldl mix 14695981039346656037 % places).toNat

/-- The number of a state that is remembered at a place, if it has a description. -/
def known? (sharing : Sharing) (place : Nat) (description : List Nat) : Option Nat :=
  match sharing.known[place]? with
  | some (known, number) => if known = description then some number else none
  | none => none

/-- The number of a state with a description: of one that is remembered, or else of a new one. -/
def state (sharing : Sharing) (places : UInt64) (ranges : Nat) (description : List Nat) :
    Nat × Sharing :=
  let place := place places description
  match sharing.known? place description with
  | some number => (number, sharing)
  | none =>
    let ⟨size, known⟩ := sharing
    (size.states, ⟨size.plus 1 (Size.rangeBytes * ranges),
      known.insert place (description, size.states)⟩)

/-- The number of the state from which byte sequences, of which those that begin alike stand
together, lead to a given state. It is remembered among ten thousand. -/
def forward (target : Nat) : Nat → List (List ByteRange) → Sharing → Nat × Sharing
  | 0, _, sharing => (target, sharing)
  | depth + 1, sequences, sharing =>
    if sequences.any (·.isEmpty) then (target, sharing)
    else
      let groups := sequences.splitBy fun s t => s.head? == t.head?
      let (ways, sharing) := groups.foldl (fun (ways, sharing) group =>
        match group with
        | ((a, b) :: _) :: _ =>
          let (next, sharing) := forward target depth (group.map List.tail) sharing
          ([next, b, a] ++ ways, sharing)
        | _ => (ways, sharing)) ([], sharing)
      sharing.state 10000 groups.length ways.reverse

/-- The states that lead to a given one by a byte sequence read backward, each remembered among a
thousand. -/
def backward (target : Nat) (sequence : List ByteRange) (sharing : Sharing) : Sharing :=
  (sequence.foldl (fun (target, sharing) (a, b) =>
    Sharing.state sharing 1000 0 [target, a, b]) (target, sharing)).2

end Sharing

/-- The growth by a set: a single state where all its characters are ASCII, and else states for
their byte sequences. -/
def Growth.ofSet (direction : Direction) (s : Ranges) : Growth := fun size =>
  if s.isAscii then Growth.add 2 s.length 0 size
  else
    match direction with
    | .forward =>
      (Sharing.forward size.states 4 (byteSequences s) ⟨size.plus 1 0, {}⟩).2.size.check?
    | .backward =>
      let sequences := byteSequences s
      let branches := Size.branchBytes * sequences.length
      (sequences.foldl (fun sharing sequence =>
        Sharing.backward (size.states + 1) sequence sharing) ⟨size.plus 2 branches, {}⟩).size.check?

/-! ### Literals to choose from -/

/-- The growth by the tree of words, each a list of bytes, of which the earlier are preferred. Words
that begin alike share states, but not across the end of a word that is preferred to the later. -/
def Growth.ofWords : Nat → List (List UInt8) → Growth
  | 0, _ => some
  | depth + 1, words =>
    let runs := words.splitBy fun v w => v.isEmpty == w.isEmpty
    let chunks := runs.filter fun run => run.any (!·.isEmpty)
    let ends := (words.dropWhile (·.isEmpty)).countP (·.isEmpty) +
      (if words.head? = some [] then 1 else 0)
    let ofChunk (chunk : List (List UInt8)) : Growth :=
      let bytes := (chunk.filterMap List.head?).eraseDups
      let below := bytes.foldl (fun (g : Growth) byte =>
        let tails := (chunk.filter (·.head? = some byte)).map List.tail
        if tails.all (·.isEmpty) then g else g ++ ofWords depth tails) some
      below ++ add 1 (if bytes.length = 1 then 0 else bytes.length) 0
    chunks.foldl (fun (g : Growth) chunk => g ++ ofChunk chunk) some ++
      add 1 0 (chunks.length + ends)

/-- The bytes of a text. -/
def utf8Bytes (t : Text) : List UInt8 := t.flatMap String.utf8EncodeChar

/-- The growth by literals of which the earlier are preferred. -/
def Growth.ofLiterals (direction : Direction) (ts : List Text) : Growth :=
  let words := ts.map fun t =>
    match direction with
    | .forward => utf8Bytes t
    | .backward => (utf8Bytes t).reverse
  add 1 0 0 ++ ofWords (words.foldl (fun n w => max n w.length) 0 + 1) words

/-! ### Expressions -/

/-- The text of a literal that is not empty. -/
def Expr.literal? : Expr → Option Text
  | .literal t => if t.isEmpty then none else some t
  | _ => none

namespace Growth

mutual

/-- The growth by an expression. Groups are noted only on the way forward. -/
def ofExpr (direction : Direction) : Expr → Growth
  | .literal t => add (if t.isEmpty then 1 else t.size) 0 0
  | .set s => ofSet direction s
  | .assertion _ => add 1 0 0
  | .group _ e =>
    match direction with
    | .forward => add 1 0 0 ++ ofExpr .forward e ++ add 1 0 0
    | .backward => ofExpr .backward e
  | .seq es =>
    match direction with
    | .forward => inTurn es
    | .backward => inTurnBackward es
  | .alt es =>
    match es.mapM Expr.literal? with
    | some ts => ofLiterals direction ts
    | none => branches direction 0 es
  | .repeated 0 (some 1) _ e => add 1 0 2 ++ ofExpr direction e ++ add 1 0 0
  | .repeated 0 none _ e =>
    if e.isProductive then add 1 0 2 ++ ofExpr direction e else ofExpr direction e ++ add 3 0 4
  | .repeated (n + 1) none _ e =>
    times (ofExpr direction e) (n + 1) ++ add 1 0 2
  | .repeated min (some max) _ e =>
    let first : Growth := if min = 0 then add 1 0 0 else times (ofExpr direction e) min
    if min = max then first
    else first ++ add 1 0 0 ++ times (add 1 0 2 ++ ofExpr direction e) (max - min)

/-- The growth by expressions one after another on the way forward. -/
def inTurn : List Expr → Growth
  | [] => some
  | e :: es => ofExpr .forward e ++ inTurn es

/-- The growth by expressions one after another on the way backward, the last of which comes
first. -/
def inTurnBackward : List Expr → Growth
  | [] => some
  | e :: es => inTurnBackward es ++ ofExpr .backward e

/-- The growth by alternatives, after as many of them. The second brings the state that they branch
from and the one that they lead to. -/
def branches (direction : Direction) (before : Nat) : List Expr → Growth
  | [] => some
  | e :: es =>
    let joint : Growth :=
      match before with
      | 0 => some
      | 1 => add 2 0 2
      | _ => add 0 0 1
    ofExpr direction e ++ joint ++ branches direction (before + 1) es

end

/-- The growth by a whole pattern: what comes before a match, the match, and the report of it. -/
def ofPattern (direction : Direction) (e : Expr) : Growth :=
  add 3 1 2 ++ ofExpr direction (.group 0 e) ++ add 1 0 0

end Growth

/-- Whether the automata of an expression are not too large. -/
def Expr.fits (e : Expr) : Bool :=
  (Growth.ofPattern .forward e ⟨0, 0⟩).isSome && (Growth.ofPattern .backward e ⟨0, 0⟩).isSome

end Graft.Pattern
