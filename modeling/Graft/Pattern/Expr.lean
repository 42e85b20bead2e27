import Graft.Text.Word

/-!
Patterns as expressions.

The functions `sequence`, `alternation` and `repetition` put expressions together and keep them
simple: no sequence stands directly in a sequence, no alternation directly in an alternation,
neighbouring literals are one, and alternatives that are all sets are one set.
-/

namespace Graft.Pattern

open Text

/-- What a condition asks of the characters around a position: that it is at the edge of a word or
is not, that a word starts or ends there, or that none comes before or after. -/
inductive WordCondition
  | edge
  | noEdge
  | start
  | stop
  | noneBefore
  | noneAfter
  deriving DecidableEq, Repr

/-- A condition on a position in a text. A line may end with a line feed only, or with a carriage
return too; words are made of ASCII characters only, or of those of all scripts. -/
inductive Assertion
  | textStart
  | textEnd
  | lineStart (carriageReturn : Bool)
  | lineEnd (carriageReturn : Bool)
  | word (condition : WordCondition) (unicode : Bool)
  deriving DecidableEq, Repr

/-- Whether the condition holds between two positions of which either may be in a word. -/
def WordCondition.holds (before after : Bool) : WordCondition → Bool
  | .edge => before != after
  | .noEdge => before == after
  | .start => !before && after
  | .stop => before && !after
  | .noneBefore => !before
  | .noneAfter => !after

/-- Whether the condition holds between two characters, either of which may be missing. -/
def Assertion.holdsBetween (before after : Option Char) : Assertion → Bool
  | .textStart => before.isNone
  | .textEnd => after.isNone
  | .lineStart false => before.all (· = '\n')
  | .lineStart true => before.all (· = '\n') || (before = some '\r' && after ≠ some '\n')
  | .lineEnd false => after.all (· = '\n')
  | .lineEnd true => after.all (· = '\r') || (after = some '\n' && before ≠ some '\r')
  | .word condition unicode =>
    let inWord (c : Option Char) : Bool := c.any (if unicode then isWordChar else isAsciiWordChar)
    condition.holds (inWord before) (inWord after)

/-- An expression. A repetition without a `max` has no upper bound, and a greedy one prefers more
rounds to fewer. -/
inductive Expr
  | literal (t : Text)
  | set (s : Ranges)
  | assertion (a : Assertion)
  | group (index : Nat) (e : Expr)
  | seq (es : List Expr)
  | alt (es : List Expr)
  | repeated (min : Nat) (max : Option Nat) (greedy : Bool) (e : Expr)
  deriving Repr

namespace Expr

/-- The expression that matches the empty text. -/
def empty : Expr := .literal []

/-- The expression of a set, which is a literal where the set has one character. -/
def ofSet : Ranges → Expr
  | [(a, b)] => if a = b then .literal [Char.ofNat a] else .set [(a, b)]
  | s => .set s

mutual

/-- Whether every match takes at least one character. -/
def isProductive : Expr → Bool
  | .literal t => !t.isEmpty
  | .set s => !s.isEmpty
  | .assertion _ => false
  | .group _ e => isProductive e
  | .seq es => anyProductive es
  | .alt es => allProductive es
  | .repeated min _ _ e => 0 < min && isProductive e

def anyProductive : List Expr → Bool
  | [] => false
  | e :: es => isProductive e || anyProductive es

def allProductive : List Expr → Bool
  | [] => true
  | e :: es => isProductive e && allProductive es

end

mutual

/-- Whether no match takes a character. -/
def isWidthless : Expr → Bool
  | .literal t => t.isEmpty
  | .set _ => false
  | .assertion _ => true
  | .group _ e => isWidthless e
  | .seq es | .alt es => allWidthless es
  | .repeated _ max _ e => max == some 0 || isWidthless e

def allWidthless : List Expr → Bool
  | [] => true
  | e :: es => isWidthless e && allWidthless es

end

mutual

/-- Whether two expressions are the same. -/
def same : Expr → Expr → Bool
  | .literal s, .literal t => s == t
  | .set s, .set t => s == t
  | .assertion a, .assertion b => a == b
  | .group i e, .group j f => i == j && same e f
  | .seq es, .seq fs => sameAll es fs
  | .alt es, .alt fs => sameAll es fs
  | .repeated min max greedy e, .repeated min' max' greedy' f =>
    min == min' && max == max' && greedy == greedy' && same e f
  | _, _ => false

def sameAll : List Expr → List Expr → Bool
  | [], [] => true
  | e :: es, f :: fs => same e f && sameAll es fs
  | _, _ => false

end

/-! ### Sequences -/

/-- The parts of an expression in a sequence. -/
def parts : Expr → List Expr
  | .seq es => es
  | e => [e]

/-- A part in front of others, joined to the first where both are literals. -/
def consPart : Expr → List Expr → List Expr
  | .literal [], es => es
  | .literal s, .literal t :: es => .literal (s ++ t) :: es
  | e, es => e :: es

/-- Expressions one after another. -/
def sequence (es : List Expr) : Expr :=
  match (es.flatMap parts).foldr consPart [] with
  | [] => .empty
  | [e] => e
  | parts => .seq parts

/-! ### Alternatives -/

/-- The alternatives of an expression. -/
def alternatives : Expr → List Expr
  | .alt es => es
  | e => [e]

/-- The character that a literal of one character is. -/
def char? : Expr → Option Char
  | .literal [c] => some c
  | _ => none

def set? : Expr → Option Ranges
  | .set s => some s
  | _ => none

/-- Expressions of which the earlier are preferred. Characters join to a set, and so do sets. -/
def preferred (es : List Expr) : Expr :=
  match es with
  | [e] => e
  | _ =>
    match es.mapM char?, es.mapM set? with
    | some chars, _ => ofSet (.ofList (chars.map fun c => (c.toNat, c.toNat)))
    | none, some sets => ofSet (.unions sets)
    | none, none => .alt es

/-- The number of parts that two lists have in common at their starts. -/
def commonLength : List Expr → List Expr → Nat
  | e :: es, f :: fs => if same e f then commonLength es fs + 1 else 0
  | _, _ => 0

/-- The parts of sequences. -/
def seq? : Expr → Option (List Expr)
  | .seq es => some es
  | _ => none

/-- Expressions of which the earlier are preferred. What sequences have in common at their starts
stands before the choice between them. -/
def alternation (es : List Expr) : Expr :=
  let es := es.flatMap alternatives
  match es.mapM seq? with
  | some (first :: second :: rest) =>
    let n := (second :: rest).foldl (fun n parts => min n (commonLength first parts)) first.length
    if n = 0 then preferred es
    else
      let tails := (first :: second :: rest).map fun parts => sequence (parts.drop n)
      sequence (first.take n ++ [preferred (tails.flatMap alternatives)])
  | _ => preferred es

/-! ### Repetitions -/

/-- The repetition of an expression. One that takes no characters is never tried more than once. -/
def repetition (min : Nat) (max : Option Nat) (greedy : Bool) (e : Expr) : Expr :=
  let (min, max) :=
    if e.isWidthless then (Nat.min min 1, some (max.elim 1 (Nat.min · 1))) else (min, max)
  if min = 0 ∧ max = some 0 then .empty
  else if min = 1 ∧ max = some 1 then e
  else .repeated min max greedy e

end Expr

end Graft.Pattern
