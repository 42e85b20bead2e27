import Graft.Pattern.CharSet
import Graft.Pattern.Expr
import Graft.Pattern.Flags

/-!
What stands after a backslash in a pattern.
-/

namespace Graft.Pattern

open Text

/-- What an escape stands for. -/
inductive Escaped
  | literal (c : Char)
  | set (s : Ranges)
  | assertion (a : Assertion)

namespace Escaped

variable (flags : Flags)

/-- The value of a hexadecimal digit. -/
def hexValue? (c : Char) : Option Nat :=
  if c.isDigit then some (c.toNat - '0'.toNat)
  else if 'a' ≤ c ∧ c ≤ 'f' then some (c.toNat - 'a'.toNat + 10)
  else if 'A' ≤ c ∧ c ≤ 'F' then some (c.toNat - 'A'.toNat + 10)
  else none

/-- The character whose code point is written in hexadecimal digits. -/
def charOfHex? (digits : Text) : Option Char := do
  if digits.isEmpty then none
  let n ← digits.foldlM (fun n d => do return 16 * n + (← hexValue? d)) 0
  if n.isValidChar then some (Char.ofNat n) else none

/-- As many characters with the filler before each left out, and the text after them. -/
def takeCount? : Nat → Text → Option (Text × Text)
  | 0, cs => some ([], cs)
  | n + 1, cs =>
    match flags.skipFiller cs with
    | [] => none
    | c :: rest => (takeCount? n rest).map fun (taken, rest) => (c :: taken, rest)

/-- What stands in braces, after the first of them, and the text after them. -/
def readBraced? (cs : Text) : Option (Text × Text) :=
  match flags.takeSpaced (· ≠ '\x7d') false cs with
  | (inside, '\x7d' :: rest) => some (inside, rest)
  | _ => none

/-- A code point in braces, or in a fixed number of digits. Two digits stand for a byte, which is a
character by itself only in ASCII unless characters are taken in the Unicode sense. -/
def readHex? (width : Nat) (cs : Text) : Option (Escaped × Text) := do
  match flags.skipFiller cs with
  | '\x7b' :: rest =>
    let (digits, after) ← readBraced? flags rest
    return (.literal (← charOfHex? digits), after)
  | cs =>
    let (digits, after) ← takeCount? flags width cs
    let c ← charOfHex? digits
    if width = 2 ∧ !flags.unicode ∧ 0x80 ≤ c.toNat then none
    return (.literal c, after)

/-- The set of a letter after a backslash, or the characters that are not in it. -/
def ofLetter? (s : LetterSet) (negated : Bool) : Option Escaped :=
  if negated ∧ !flags.unicode then none
  else
    let s := s.ranges flags.unicode
    some (.set (if negated then s.complement else s))

/-- The characters with a property, which is named by one letter or described in braces, or those
without it. -/
def readProperty? (negated : Bool) (cs : Text) : Option (Escaped × Text) := do
  if !flags.unicode then none
  let (description, rest) ← match flags.skipFiller cs with
    | '\x7b' :: rest => readBraced? flags rest
    | c :: rest => if c = '\\' then none else some ([c], rest)
    | [] => none
  let s ← describedSet? description
  let s := if flags.ignoreCase then s.anyCase else s
  return (.set (if negated then s.complement else s), rest)

/-- The condition that a name in braces after `\b` asks for. Braces with no name are left to be read
as a repetition. -/
def readBoundary? (cs : Text) : Option (Escaped × Text) :=
  let plain : Option (Escaped × Text) := some (.assertion (.word .edge flags.unicode), cs)
  let isNameChar (c : Char) : Bool := c.isAlpha || c = '-'
  match cs with
  | '\x7b' :: rest =>
    match flags.takeSpaced isNameChar false rest with
    | ([], _) => plain
    | (name, '\x7d' :: after) => do
      let condition ← [("start".toList, WordCondition.start), ("end".toList, .stop),
        ("start-half".toList, .noneBefore), ("end-half".toList, .noneAfter)].lookup name
      return (.assertion (.word condition flags.unicode), after)
    | _ => none
  | _ => plain

/-- The escape whose backslash stands before a text. -/
def read? : Text → Option (Escaped × Text)
  | [] => none
  | c :: cs =>
    let here (e : Escaped) : Option (Escaped × Text) := some (e, cs)
    let ofSet? (s : LetterSet) (negated : Bool) : Option (Escaped × Text) :=
      (ofLetter? flags s negated).map (·, cs)
    match c with
    | 'd' => ofSet? .digit false
    | 'D' => ofSet? .digit true
    | 's' => ofSet? .space false
    | 'S' => ofSet? .space true
    | 'w' => ofSet? .word false
    | 'W' => ofSet? .word true
    | 'p' => readProperty? flags false cs
    | 'P' => readProperty? flags true cs
    | 'x' => readHex? flags 2 cs
    | 'u' => readHex? flags 4 cs
    | 'U' => readHex? flags 8 cs
    | 'a' => here (.literal '\x07')
    | 'f' => here (.literal '\x0c')
    | 't' => here (.literal '\t')
    | 'n' => here (.literal '\n')
    | 'r' => here (.literal '\r')
    | 'v' => here (.literal '\x0b')
    | 'A' => here (.assertion .textStart)
    | 'z' => here (.assertion .textEnd)
    | 'b' => readBoundary? flags cs
    | 'B' => here (.assertion (.word .noEdge flags.unicode))
    | '<' => here (.assertion (.word .start flags.unicode))
    | '>' => here (.assertion (.word .stop flags.unicode))
    | _ => if c.toNat < 128 ∧ !c.isAlphanum then here (.literal c) else none

end Escaped

end Graft.Pattern
