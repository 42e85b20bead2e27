import Graft.Text

/-!
White space in the Unicode sense, and the trimming of it.

It is wider than the blanks that separate the parts of a tag: every blank is white space.
-/

namespace Graft.Text

/-- The characters with the Unicode property `White_Space`. -/
def isSpace (c : Char) : Bool :=
  let n := c.toNat
  (9 ≤ n && n ≤ 13) || n = 0x20 || n = 0x85 || n = 0xA0 || n = 0x1680 ||
    (0x2000 ≤ n && n ≤ 0x200A) || n = 0x2028 || n = 0x2029 || n = 0x202F || n = 0x205F ||
    n = 0x3000

theorem isSpace_of_isBlank {c : Char} (h : isBlank c = true) : isSpace c = true := by
  simp only [isBlank, Bool.or_eq_true, decide_eq_true_eq] at h
  obtain (((rfl | rfl) | rfl) | rfl) | rfl := h <;> rfl

/-- The text without the white space at its start. -/
def trimStart (t : Text) : Text := t.dropWhile isSpace

/-- The text without the white space at its end. -/
def trimEnd (t : Text) : Text := (t.reverse.dropWhile isSpace).reverse

/-- The text without the white space at its ends. -/
def trim (t : Text) : Text := trimEnd (trimStart t)

/-- Whether a text holds nothing but white space. -/
def isWhite (t : Text) : Bool := t.all isSpace

end Graft.Text
