import Graft.Pattern.Expr

/-!
Patterns as programs of numbered steps, and the search for the first match.

The search follows all ways through the program at once, one character at a time, in the order in
which the pattern prefers them. Each step is entered at most once at a position, by the way that
is preferred most. The match found begins at the earliest position possible, and of the matches
that begin there it is the one that the pattern prefers.
-/

namespace Graft.Pattern

open Text

/-- A step of a program: take a character, require a condition, note the position, go on in two
ways of which the first is preferred, or report a match. -/
inductive Step
  | take (s : Ranges) (next : Nat)
  | require (a : Assertion) (next : Nat)
  | save (slot next : Nat)
  | fork (first second : Nat)
  | finish

/-- The construction of a program from its end to its start. -/
abbrev Builder := StateM (Array Step)

namespace Builder

/-- A further step, by its number. -/
def emit (step : Step) : Builder Nat := modifyGet fun steps => (steps.size, steps.push step)

/-- A fork between a way that goes on and the way out; a greedy one prefers to go on. -/
def fork (greedy : Bool) (onward out : Nat) : Step :=
  if greedy then .fork onward out else .fork out onward

/-- A body as many times in a row. -/
def times (body : Nat → Builder Nat) : Nat → Nat → Builder Nat
  | 0, next => pure next
  | n + 1, next => do times body n (← body next)

/-- A body up to as many times, each round leading on to the rounds after it, which start at a given
step, or out. -/
def atMost (greedy : Bool) (body : Nat → Builder Nat) (out : Nat) : Nat → Nat → Builder Nat
  | 0, start => pure start
  | n + 1, start => do
    let onward ← body start
    atMost greedy body out n (← emit (fork greedy onward out))

/-- A body once or more: the fork after it leads back to it. -/
def onceOrMore (greedy : Bool) (body : Nat → Builder Nat) (next : Nat) : Builder Nat := do
  let back ← emit .finish
  let start ← body back
  modify (·.setIfInBounds back (fork greedy start next))
  return start

/-- A body any number of times, where each round takes a character: the fork before it is also
where it leads back to. -/
def anyTimes (greedy : Bool) (body : Nat → Builder Nat) (next : Nat) : Builder Nat := do
  let back ← emit .finish
  let start ← body back
  modify (·.setIfInBounds back (fork greedy start next))
  return back

mutual

/-- The steps of an expression that lead to a given step. -/
def ofExpr : Expr → Nat → Builder Nat
  | .literal t, next => t.foldrM (fun c next => emit (.take (.single c.toNat) next)) next
  | .set s, next => emit (.take s next)
  | .assertion a, next => emit (.require a next)
  | .group i e, next => do
    let body ← ofExpr e (← emit (.save (2 * i + 1) next))
    emit (.save (2 * i) body)
  | .seq es, next => inTurn es next
  | .alt es, next => inOrder es next
  | .repeated min (some max) greedy e, next => do
    times (ofExpr e) min (← atMost greedy (ofExpr e) next (max - min) next)
  | .repeated 0 none greedy e, next => do
    if e.isProductive then anyTimes greedy (ofExpr e) next
    else emit (fork greedy (← onceOrMore greedy (ofExpr e) next) next)
  | .repeated (n + 1) none greedy e, next => do
    times (ofExpr e) n (← onceOrMore greedy (ofExpr e) next)

/-- The steps of expressions one after another. -/
def inTurn : List Expr → Nat → Builder Nat
  | [], next => pure next
  | e :: es, next => do ofExpr e (← inTurn es next)

/-- The steps of alternatives, the preferred ones first. -/
def inOrder : List Expr → Nat → Builder Nat
  | [], next => emit (.take [] next)
  | [e], next => ofExpr e next
  | e :: es, next => do
    let first ← ofExpr e next
    let second ← inOrder es next
    emit (.fork first second)

end

end Builder

/-- The steps of a pattern and the number of the first. -/
structure Program where
  steps : Array Step
  start : Nat

/-- The program of an expression, which notes where the match begins and ends in slots 0 and 1. -/
def Program.ofExpr (e : Expr) : Program :=
  let (start, steps) := (Builder.emit .finish >>= Builder.ofExpr (.group 0 e)).run #[]
  ⟨steps, start⟩

/-- The positions noted on one way through a program. -/
abbrev Slots := List (Nat × Nat)

/-- A way through a program: the step it has come to and what it has noted. -/
structure Thread where
  step : Nat
  slots : Slots

namespace Program

variable (program : Program)

/-- The threads, the preferred ones first, that reach a step which takes a character or reports a
match, without taking any; those that have reached one already are given with the last first. A step
is entered once, so as many rounds suffice as the threads at hand and two for each step. -/
def settle (before after : Option Char) (position : Nat) :
    Nat → List Thread → Array Bool → List Thread → List Thread
  | 0, _, _, settled => settled.reverse
  | _ + 1, [], _, settled => settled.reverse
  | rounds + 1, thread :: rest, entered, settled =>
    if entered.getD thread.step true then
      settle before after position rounds rest entered settled
    else
      let entered := entered.setIfInBounds thread.step true
      let onward (rest settled : List Thread) : List Thread :=
        settle before after position rounds rest entered settled
      match program.steps.getD thread.step .finish with
      | .take _ _ | .finish => onward rest (thread :: settled)
      | .require a next =>
        if a.holdsBetween before after then onward (⟨next, thread.slots⟩ :: rest) settled
        else onward rest settled
      | .save slot next => onward (⟨next, (slot, position) :: thread.slots⟩ :: rest) settled
      | .fork first second =>
        onward (⟨first, thread.slots⟩ :: ⟨second, thread.slots⟩ :: rest) settled

/-- Whether a thread is about to take a character. -/
def isLive (thread : Thread) : Bool :=
  match program.steps.getD thread.step .finish with
  | .finish => false
  | _ => true

/-- The threads after they have taken a character. -/
def advance (c : Char) (threads : List Thread) : List Thread :=
  threads.filterMap fun thread =>
    match program.steps.getD thread.step .finish with
    | .take s next => if s.contains c.toNat then some ⟨next, thread.slots⟩ else none
    | _ => none

/-- What the best match notes, where `best` is the match found so far. A new thread begins at each
position until a match is found. -/
def search (before : Option Char) (position : Nat) (threads : List Thread) (best : Option Slots)
    (rest : Text) : Option Slots :=
  let threads := if best.isNone then threads ++ [⟨program.start, []⟩] else threads
  let size := program.steps.size
  let settled := program.settle before rest.head? position (threads.length + 2 * size + 1) threads
    (Array.replicate size false) []
  let (live, matching) := settled.span program.isLive
  let best := (matching.head?.map (·.slots)) <|> best
  match rest with
  | [] => best
  | c :: cs =>
    let next := program.advance c live
    if next.isEmpty && best.isSome then best else search (some c) (position + 1) next best cs

end Program

end Graft.Pattern
