import Graft.Text

/-!
Sets of characters as lists of code point ranges, their written form, and maps between characters as
lists of runs.

Every operation on sets gives ranges that are ascending and apart from each other, so that a set has
one list of ranges.
-/

namespace Graft.Text

/-- Ranges of code points `(first, last)`, ascending and apart from each other. -/
abbrev Ranges := List (Nat × Nat)

/-- Whether a code point lies in one of the ranges. The search stops at the first range that begins
after it. -/
def Ranges.contains : Ranges → Nat → Bool
  | [], _ => false
  | (first, last) :: rest, n => if n < first then false else n ≤ last || Ranges.contains rest n

namespace Ranges

/-- The greatest code point. -/
def greatest : Nat := 0x10FFFF

/-- All characters. -/
def everything : Ranges := [(0, greatest)]

/-- The set of one code point. -/
def single (n : Nat) : Ranges := [(n, n)]

/-- A range before ranges that begin no earlier, joined to those that it overlaps or touches. -/
def joinFrom (first last : Nat) : Ranges → Ranges
  | [] => [(first, last)]
  | (a, b) :: rest =>
    if a ≤ last + 1 then joinFrom first (max last b) rest else (first, last) :: joinFrom a b rest

/-- The set of ranges in the order of their first code points. -/
def join : Ranges → Ranges
  | [] => []
  | (a, b) :: rest => joinFrom a b rest

/-- The set of ranges in any order. -/
def ofList (ranges : List (Nat × Nat)) : Ranges := join (ranges.mergeSort fun r q => r.1 ≤ q.1)

def union (s t : Ranges) : Ranges := join (s.merge t fun r q => r.1 ≤ q.1)

def unions (sets : List Ranges) : Ranges := sets.foldl union []

/-- The code points from one on that are in none of the ranges. -/
def complementFrom (n : Nat) : Ranges → Ranges
  | [] => if n ≤ greatest then [(n, greatest)] else []
  | (a, b) :: rest =>
    if n < a then (n, a - 1) :: complementFrom (b + 1) rest else complementFrom (b + 1) rest

def complement (s : Ranges) : Ranges := complementFrom 0 s

def inter (s t : Ranges) : Ranges := complement (union (complement s) (complement t))

/-- The code points of the first set that are not in the second. -/
def diff (s t : Ranges) : Ranges := inter s (complement t)

/-- The code points that are in exactly one of two sets. -/
def symmDiff (s t : Ranges) : Ranges := union (diff s t) (diff t s)

/-- Whether all code points of a set are among the first 128. -/
def isAscii (s : Ranges) : Bool := s.all fun r => r.2 < 0x80

/-! ### Written sets -/

/-- The number that hexadecimal digits in upper case stand for. -/
def ofHex (digits : Text) : Nat :=
  digits.foldl (fun n d => 16 * n + (if d.isDigit then d.toNat - 48 else d.toNat - 55)) 0

/-- The ranges of one word of a written set: a code point, a range with a hyphen, or every second
code point of a range with `/2` after it. -/
def ofWord (word : Text) : Ranges :=
  match splitOn '-' word with
  | [first, rest] =>
    match splitOn '/' rest with
    | [last, _] =>
      (List.range ((ofHex last - ofHex first) / 2 + 1)).map fun i =>
        (ofHex first + 2 * i, ofHex first + 2 * i)
    | _ => [(ofHex first, ofHex rest)]
  | _ => [(ofHex word, ofHex word)]

/-- The set that lines of words stand for, written in ascending order. -/
def ofLines (lines : List String) : Ranges :=
  lines.flatMap fun line => (splitOn ' ' line.toList).flatMap ofWord

end Ranges

/-- A written set with the names that it goes by. Names are in lower case and without separators. -/
structure NamedSet where
  names : List String
  lines : List String

/-- The set of a name. -/
def NamedSet.find? (sets : List NamedSet) (name : String) : Option Ranges :=
  (sets.find? (·.names.contains name)).map (Ranges.ofLines ·.lines)

/-- A part of a map of code points: `first`, `first + step`, … up to `last` are each moved by
`offset`. -/
structure CaseRun where
  first : Nat
  last : Nat
  step : Nat
  offset : Int

namespace CaseRun

/-- Whether a run moves a code point. -/
def moves (run : CaseRun) (n : Nat) : Bool :=
  run.first ≤ n && n ≤ run.last && (n - run.first) % run.step == 0

/-- Where runs move a code point; one that none of them moves stays. -/
def image (runs : List CaseRun) (n : Nat) : Nat :=
  match runs.find? (·.moves n) with
  | some run => ((n : Int) + run.offset).toNat
  | none => n

/-- The code points that a run moves, each with the one it is moved to. -/
def pairs (run : CaseRun) : List (Nat × Nat) :=
  (List.range ((run.last - run.first) / run.step + 1)).map fun i =>
    let n := run.first + run.step * i
    (n, ((n : Int) + run.offset).toNat)

end CaseRun

end Graft.Text
