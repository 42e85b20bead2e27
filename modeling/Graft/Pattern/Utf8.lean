import Graft.Text.Ranges

/-!
Sets of characters as sequences of byte ranges.

The characters of a range have UTF-8 forms of one to four bytes. A range is cut where the number of
bytes changes and where a byte could not be chosen by itself, so that the forms of each piece are
all ways to choose a byte from each range of one sequence.
-/

namespace Graft.Pattern

open Text

/-- Bytes from a first to a last. -/
abbrev ByteRange := Nat × Nat

/-- The sequences of ranges of digits to base 64 for the numbers from `first` to `last`, which have
`n` digits after their leading part. -/
def digitSequences : Nat → Nat → Nat → List (List ByteRange)
  | 0, first, last => [[(first, last)]]
  | n + 1, first, last =>
    let unit := Nat.pow 64 (n + 1)
    let (a, low) := (first / unit, first % unit)
    let (b, high) := (last / unit, last % unit)
    if a = b then (digitSequences n low high).map ((a, a) :: ·)
    else
      let before := if low = 0 then [] else (digitSequences n low (unit - 1)).map ((a, a) :: ·)
      let after := if high + 1 = unit then [] else (digitSequences n 0 high).map ((b, b) :: ·)
      let a := if low = 0 then a else a + 1
      let b := if high + 1 = unit then b else b - 1
      let between := if a ≤ b then [(a, b) :: List.replicate (n + 1) (0, 63)] else []
      before ++ between ++ after

/-- The characters whose UTF-8 forms have the same shape: the number of bytes after the first, and
what the first byte adds to the leading part of the code point. -/
structure ByteShape where
  first : Nat
  last : Nat
  more : Nat
  lead : Nat

def byteShapes : List ByteShape :=
  [⟨0, 0x7F, 0, 0⟩, ⟨0x80, 0x7FF, 1, 0xC0⟩, ⟨0x800, 0xD7FF, 2, 0xE0⟩, ⟨0xE000, 0xFFFF, 2, 0xE0⟩,
   ⟨0x10000, 0x10FFFF, 3, 0xF0⟩]

/-- The bytes that digits stand for. -/
def ByteShape.bytes (shape : ByteShape) : List ByteRange → List ByteRange
  | [] => []
  | (a, b) :: rest =>
    (shape.lead + a, shape.lead + b) :: rest.map fun (c, d) => (0x80 + c, 0x80 + d)

/-- The byte sequences of the characters of a set, in ascending order. -/
def byteSequences (s : Ranges) : List (List ByteRange) :=
  s.flatMap fun (first, last) => byteShapes.flatMap fun shape =>
    let a := max first shape.first
    let b := min last shape.last
    if a ≤ b then (digitSequences shape.more a b).map shape.bytes else []

end Graft.Pattern
