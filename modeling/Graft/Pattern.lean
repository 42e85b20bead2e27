import Graft.Pattern.Matcher
import Graft.Pattern.Program
import Graft.Pattern.Reader
import Graft.Pattern.Size

/-!
Patterns and the replacement of what they match.

Matches do not overlap, and an empty match directly after the match before it is passed over. In a
replacement `$1` and `${name}` stand for what a group of the match holds and `$$` for a dollar sign.
-/

namespace Graft

open Text

/-- A pattern that can be searched for, and the numbers of its named groups. -/
structure Pattern where
  program : Pattern.Program
  names : List (Text × Nat)

namespace Pattern

/-- The pattern that a text stands for, unless the text is not well formed or its pattern is too
large. -/
def ofText (cs : Text) : Except Text Pattern :=
  match Expr.ofText? cs with
  | none => .error "not well formed".toList
  | some (e, names) =>
    if e.fits then .ok ⟨.ofExpr e, names⟩ else .error "too large".toList

/-- The positions that the groups of a match begin and end at, counted in characters; group 0 is the
whole match. -/
structure Match where
  start : Nat
  stop : Nat
  slots : Slots

namespace Match

def ofSlots? (slots : Slots) : Option Match := do
  return ⟨← slots.lookup 0, ← slots.lookup 1, slots⟩

/-- What a group of a match on a text holds: nothing when the group takes no part in the match. -/
def group (m : Match) (cs : Text) (i : Nat) : Text :=
  match m.slots.lookup (2 * i), m.slots.lookup (2 * i + 1) with
  | some start, some stop => (cs.drop start).take (stop - start)
  | _, _ => []

end Match

variable (pattern : Pattern)

/-- The first match at or after a position. -/
def firstFrom? (cs : Text) (position : Nat) : Option Match :=
  let before := if position = 0 then none else cs[position - 1]?
  (pattern.program.search before position [] none (cs.drop position)).bind Match.ofSlots?

/-- The first match after a match that ends at a position. -/
def nextFrom? (cs : Text) (position : Nat) : Option Match :=
  match pattern.firstFrom? cs position with
  | some m =>
    if m.stop = position then
      if position < cs.length then pattern.firstFrom? cs (position + 1) else none
    else some m
  | none => none

/-- The matches after one that ends at a position. Each ends further on than the one before it, so
as many rounds suffice as characters follow the position. -/
def matchesFrom (cs : Text) : Nat → Nat → List Match
  | 0, _ => []
  | rounds + 1, position =>
    match pattern.nextFrom? cs position with
    | some m => m :: matchesFrom cs rounds m.stop
    | none => []

/-- The matches on a text, in order. -/
def allMatches (cs : Text) : List Match :=
  match pattern.firstFrom? cs 0 with
  | some m => m :: pattern.matchesFrom cs (cs.length - m.stop) m.stop
  | none => []

/-- A piece of a replacement: text as it stands, or a group by number or name. -/
inductive Piece
  | literal (t : Text)
  | number (i : Nat)
  | name (t : Text)
  deriving DecidableEq, Repr

/-- The least number that is too great for a reference. -/
def referenceLimit : Nat := Nat.pow 2 64

/-- The piece that a reference stands for: a number with an optional sign, or else a name. -/
def Piece.ofReference (reference : Text) : Piece :=
  let digits := if reference.head? = some '+' then reference.drop 1 else reference
  let n := digits.foldl (fun n d => 10 * n + (d.toNat - '0'.toNat)) 0
  if digits.isEmpty ∨ ¬digits.all Char.isDigit ∨ referenceLimit ≤ n then .name reference
  else .number n

/-- Whether a character continues a reference without braces. -/
def isReferenceChar (c : Char) : Bool := c.isAlphanum || c = '_'

/-- The piece at the front of a replacement, and the text after it. -/
def readPiece : Char → Text → Piece × Text
  | '$', '$' :: cs => (.literal ['$'], cs)
  | '$', '\x7b' :: cs =>
    match breakOn? ['\x7d'] cs with
    | some (reference, rest) => (.ofReference reference, rest.drop 1)
    | none => (.literal ['$'], '\x7b' :: cs)
  | '$', cs =>
    if (cs.takeWhile isReferenceChar).isEmpty then (.literal ['$'], cs)
    else (.ofReference (cs.takeWhile isReferenceChar), cs.dropWhile isReferenceChar)
  | c, cs => (.literal [c], cs)

/-- The pieces of a replacement. -/
def readPieces : Text → List Piece
  | [] => []
  | c :: cs =>
    if _h : (readPiece c cs).2.length ≤ cs.length then
      (readPiece c cs).1 :: readPieces (readPiece c cs).2
    else []
termination_by cs => cs.length

/-- The text that a piece stands for at a match. -/
def Piece.expand (cs : Text) (m : Match) : Piece → Text
  | .literal t => t
  | .number i => m.group cs i
  | .name t => (pattern.names.lookup t).elim [] (m.group cs)

/-- A text from a position on, with the given matches replaced. -/
def substitute (pieces : List Piece) (cs : Text) : Nat → List Match → Text
  | position, [] => cs.drop position
  | position, m :: rest =>
    (cs.drop position).take (m.start - position) ++ pieces.flatMap (Piece.expand pattern cs m) ++
      substitute pieces cs m.stop rest

/-- A text with every match replaced. -/
def replaceAll (cs replacement : Text) : Text :=
  pattern.substitute (readPieces replacement) cs 0 (pattern.allMatches cs)

end Pattern

/-- The engine of this library. -/
@[reducible] def Patterns.leftmostFirst : Patterns where
  read cs := (Pattern.ofText cs).map fun pattern => ⟨pattern.replaceAll⟩

end Graft
