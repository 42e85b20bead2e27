/-!
Texts as lists of characters, measured in the bytes of their UTF-8 form.

Offsets into a text count bytes. A text splits at an offset only where a character begins, so
`Text.splitAt?` answers `none` both inside a character and past the end.
-/

namespace Graft

/-- A document, or any piece of one. -/
abbrev Text := List Char

namespace Text

/-- The number of bytes of the UTF-8 form. -/
def size : Text → Nat
  | [] => 0
  | c :: cs => c.utf8Size + size cs

@[simp] theorem size_nil : size [] = 0 := rfl

@[simp] theorem size_cons (c : Char) (cs : Text) : size (c :: cs) = c.utf8Size + size cs := rfl

@[simp] theorem size_append (s t : Text) : size (s ++ t) = size s + size t := by
  induction s with
  | nil => simp
  | cons c cs ih => simp [ih, Nat.add_assoc]

/-- The text before a byte offset and the text from it on, where the offset is a boundary between
characters. -/
def splitAt? : Nat → Text → Option (Text × Text)
  | 0, t => some ([], t)
  | _ + 1, [] => none
  | n + 1, c :: cs =>
    if c.utf8Size ≤ n + 1 then
      (splitAt? (n + 1 - c.utf8Size) cs).map fun (s, r) => (c :: s, r)
    else none

theorem splitAt?_zero (t : Text) : splitAt? 0 t = some ([], t) := by
  cases t <;> rfl

/-- A text splits at the end of each of its beginnings. -/
@[simp] theorem splitAt?_append (s t : Text) : splitAt? s.size (s ++ t) = some (s, t) := by
  induction s with
  | nil => exact splitAt?_zero t
  | cons c cs ih =>
    have hc := c.utf8Size_pos
    obtain ⟨n, hn⟩ : ∃ n, c.utf8Size + size cs = n + 1 := ⟨c.utf8Size + size cs - 1, by omega⟩
    have hrest : n + 1 - c.utf8Size = size cs := by omega
    simp only [size_cons, hn, List.cons_append, splitAt?, hrest, ih]
    rw [if_pos (by omega)]
    rfl

/-- The two sides of a split make up the text, and the offset is the size of the first. -/
theorem eq_append_of_splitAt? {n : Nat} {t s r : Text} (h : splitAt? n t = some (s, r)) :
    t = s ++ r ∧ s.size = n := by
  induction n, t using splitAt?.induct generalizing s r with
  | case1 t =>
    obtain ⟨rfl, rfl⟩ : s = [] ∧ t = r := by simpa [splitAt?_zero] using h
    exact ⟨rfl, rfl⟩
  | case2 => simp [splitAt?] at h
  | case3 n c cs hc ih =>
    simp only [splitAt?, hc, if_true, Option.map_eq_some_iff] at h
    obtain ⟨⟨s', r'⟩, hs, heq⟩ := h
    obtain ⟨rfl, rfl⟩ := Prod.mk.inj heq
    obtain ⟨ht, hn⟩ := ih hs
    exact ⟨by simp [ht], by simp [hn]; omega⟩
  | case4 n c cs hc => simp [splitAt?, hc] at h

/-- Whether an offset lies between two characters, or at either end. -/
def isBoundary (t : Text) (n : Nat) : Bool := (splitAt? n t).isSome

/-- The text of the bytes `[start, stop)`, where both offsets are boundaries in order. -/
def slice? (t : Text) (start stop : Nat) : Option Text :=
  if start ≤ stop then do
    let (_, tail) ← splitAt? start t
    let (middle, _) ← splitAt? (stop - start) tail
    return middle
  else none

/-- The text of the bytes `[start, stop)`, empty where they are not whole characters. -/
def slice (t : Text) (start stop : Nat) : Text := (slice? t start stop).getD []

/-- A blank separates the parts of a tag: space, tab, line feed, form feed or carriage return. -/
def isBlank (c : Char) : Bool :=
  c = ' ' || c = '\t' || c = '\n' || c = '\x0c' || c = '\r'

/-- Either mark that encloses a value. -/
def isQuote (c : Char) : Bool := c = '"' || c = '\''

/-- The text before the first occurrence of `needle`, and the text from that occurrence on. -/
def breakOn? (needle : Text) : Text → Option (Text × Text)
  | [] => if needle.isEmpty then some ([], []) else none
  | c :: cs =>
    if needle.isPrefixOf (c :: cs) then some ([], c :: cs)
    else (breakOn? needle cs).map fun (s, r) => (c :: s, r)

/-- The text before the last occurrence of `needle`, and the text from that occurrence on. -/
def breakOnLast? (needle : Text) : Text → Option (Text × Text)
  | [] => if needle.isEmpty then some ([], []) else none
  | c :: cs =>
    match breakOnLast? needle cs with
    | some (s, r) => some (c :: s, r)
    | none => if needle.isPrefixOf (c :: cs) then some ([], c :: cs) else none

/-- Nothing is lost around the first occurrence. -/
theorem eq_append_of_breakOn? {needle t s r : Text} (h : breakOn? needle t = some (s, r)) :
    t = s ++ r ∧ needle <+: r := by
  induction t generalizing s with
  | nil =>
    simp only [breakOn?, List.isEmpty_iff] at h
    split at h <;> simp_all
  | cons c cs ih =>
    simp only [breakOn?] at h
    split at h
    · next hp =>
      obtain ⟨rfl, rfl⟩ := Prod.mk.inj (Option.some.inj h)
      exact ⟨rfl, List.isPrefixOf_iff_prefix.1 hp⟩
    · obtain ⟨⟨s', r'⟩, hs, heq⟩ := Option.map_eq_some_iff.1 h
      obtain ⟨rfl, rfl⟩ := Prod.mk.inj heq
      obtain ⟨rfl, hr⟩ := ih hs
      exact ⟨rfl, hr⟩

/-- Every occurrence of a character replaced by a text. -/
def replaceChar (c : Char) (new : Text) (t : Text) : Text :=
  t.flatMap fun d => if d = c then new else [d]

/-- The text without the first occurrence of `needle`. -/
def eraseFirst (needle t : Text) : Text :=
  match breakOn? needle t with
  | some (s, r) => s ++ r.drop needle.length
  | none => t

/-- The pieces between the occurrences of a separating character: one more than there are of it. -/
def splitOn (sep : Char) : Text → List Text
  | [] => [[]]
  | c :: cs =>
    if c = sep then [] :: splitOn sep cs
    else match splitOn sep cs with
      | [] => [[c]]
      | piece :: pieces => (c :: piece) :: pieces

/-- The pieces joined by a separating text. -/
def joinWith (sep : Text) (pieces : List Text) : Text := (pieces.intersperse sep).flatten

/-- The text as a string, for messages and output. -/
def asString (t : Text) : String := String.ofList t

end Text

end Graft
