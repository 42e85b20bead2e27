import Graft.Markup.Token

/-!
The attributes of an opening tag.

What stands between a tag's name and its end is read as a list of attributes and of filler, which is
blanks and stray `=`. The parts put together are the text that was read, so each of its characters
belongs to exactly one part.
-/

namespace Graft.Markup

open Text

/-- A value as it is written: between quotes, the last of which may be missing, or bare up to the
next blank. -/
inductive Value
  | quoted (quote : Char) (text : Text) (ended : Bool)
  | unquoted (text : Text)
  deriving DecidableEq, Repr

namespace Value

/-- The text as it is written. -/
def written : Value → Text
  | .quoted quote text ended => quote :: text ++ if ended then [quote] else []
  | .unquoted text => text

/-- The text without its quotes. -/
def text : Value → Text
  | .quoted _ text _ => text
  | .unquoted text => text

def quote? : Value → Option Char
  | .quoted quote _ _ => some quote
  | .unquoted _ => none

/-- The value at the front of a text, and the text after it. -/
def read (cs : Text) : Value × Text :=
  match cs with
  | quote :: rest =>
    if isQuote quote then
      match breakOn? [quote] rest with
      | some (text, after) => (.quoted quote text true, after.drop 1)
      | none => (.quoted quote rest false, [])
    else (.unquoted (cs.takeWhile (!isBlank ·)), cs.dropWhile (!isBlank ·))
  | [] => (.unquoted [], [])

theorem eq_append_of_read {cs rest : Text} {v : Value} (h : read cs = (v, rest)) :
    cs = v.written ++ rest := by
  unfold read at h
  split at h
  · split at h
    · split at h
      · next hb =>
        obtain ⟨rfl, rfl⟩ := Prod.mk.inj h
        simp [written, eq_append_of_breakOn?_single hb]
      · obtain ⟨rfl, rfl⟩ := Prod.mk.inj h
        simp [written]
    · obtain ⟨rfl, rfl⟩ := Prod.mk.inj h
      simp [written]
  · obtain ⟨rfl, rfl⟩ := Prod.mk.inj h
    simp [written]

end Value

/-- A value and the text between the attribute's name and it: a `=` with the blanks around it. -/
structure Assignment where
  gap : Text
  value : Value
  deriving DecidableEq, Repr

namespace Assignment

def text (a : Assignment) : Text := a.gap ++ a.value.written

/-- The assignment at the front of a text, when a `=` comes first there after any blanks. -/
def read? (cs : Text) : Option (Assignment × Text) :=
  match cs.dropWhile isBlank with
  | '=' :: rest =>
    let (value, after) := Value.read (rest.dropWhile isBlank)
    some (⟨cs.takeWhile isBlank ++ '=' :: rest.takeWhile isBlank, value⟩, after)
  | _ => none

theorem eq_append_of_read? {cs rest : Text} {a : Assignment} (h : read? cs = some (a, rest)) :
    cs = a.text ++ rest := by
  unfold read? at h
  split at h
  · next tail hd =>
    obtain ⟨rfl, rfl⟩ := Prod.mk.inj (Option.some.inj h)
    have hv : tail.dropWhile isBlank = _ := Value.eq_append_of_read rfl
    have htail := List.takeWhile_append_dropWhile (p := isBlank) (l := tail)
    have hcs := List.takeWhile_append_dropWhile (p := isBlank) (l := cs)
    rw [hd, ← htail, hv] at hcs
    simpa [text] using hcs.symm
  · simp at h

end Assignment

/-- An attribute: the blanks before its name, the name, and the value when it has one. -/
structure Attribute where
  lead : Text
  name : Text
  assignment : Option Assignment
  deriving DecidableEq, Repr

namespace Attribute

def assignmentText : Option Assignment → Text
  | some a => a.text
  | none => []

def text (a : Attribute) : Text :=
  a.lead ++ a.name ++ assignmentText a.assignment

/-- The value without its quotes; a bare attribute has none. -/
def value? (a : Attribute) : Option Text :=
  a.assignment.map (·.value.text)

/-- The quote around the value. -/
def quote? (a : Attribute) : Option Char :=
  a.assignment.bind (·.value.quote?)

end Attribute

/-- A part of what stands between a tag's name and its end. -/
inductive HeadPart
  | filler (text : Text)
  | attr (a : Attribute)
  deriving DecidableEq, Repr

namespace HeadPart

def text : HeadPart → Text
  | .filler text => text
  | .attr a => a.text

/-- Whether a character continues an attribute's name. -/
def isNameChar (c : Char) : Bool := !(isBlank c || c = '=')

/-- The part at the front of a text that holds one, and the text after it. -/
def read? (cs : Text) : Option (HeadPart × Text) :=
  match cs.dropWhile isBlank with
  | [] => if cs.isEmpty then none else some (.filler cs, [])
  | '=' :: rest => some (.filler (cs.takeWhile isBlank ++ ['=']), rest)
  | c :: rest =>
    match Assignment.read? (rest.dropWhile isNameChar) with
    | some (assignment, after) =>
      some (.attr ⟨cs.takeWhile isBlank, c :: rest.takeWhile isNameChar, some assignment⟩, after)
    | none =>
      some (.attr ⟨cs.takeWhile isBlank, c :: rest.takeWhile isNameChar, none⟩,
        rest.dropWhile isNameChar)

theorem eq_append_of_read? {cs rest : Text} {p : HeadPart} (h : read? cs = some (p, rest)) :
    cs = p.text ++ rest ∧ p.text ≠ [] := by
  have hcs := List.takeWhile_append_dropWhile (p := isBlank) (l := cs)
  unfold read? at h
  split at h
  · split at h
    · simp at h
    · next hne =>
      obtain ⟨rfl, rfl⟩ := Prod.mk.inj (Option.some.inj h)
      simpa [text] using hne
  · next tail hd =>
    obtain ⟨rfl, rfl⟩ := Prod.mk.inj (Option.some.inj h)
    rw [hd] at hcs
    simp [text, hcs]
  · next c tail _ hd =>
    rw [hd, ← List.takeWhile_append_dropWhile (p := isNameChar) (l := tail)] at hcs
    split at h
    · next assignment after ha =>
      obtain ⟨rfl, rfl⟩ := Prod.mk.inj (Option.some.inj h)
      rw [Assignment.eq_append_of_read? ha] at hcs
      refine ⟨?_, by simp [text, Attribute.text]⟩
      simpa [text, Attribute.text, Attribute.assignmentText] using hcs.symm
    · obtain ⟨rfl, rfl⟩ := Prod.mk.inj (Option.some.inj h)
      refine ⟨?_, by simp [text, Attribute.text]⟩
      simpa [text, Attribute.text, Attribute.assignmentText] using hcs.symm

theorem length_lt_of_read? {cs rest : Text} {p : HeadPart} (h : read? cs = some (p, rest)) :
    rest.length < cs.length := by
  obtain ⟨hcs, hne⟩ := eq_append_of_read? h
  have hpos : 0 < p.text.length := List.length_pos_iff.2 hne
  rw [hcs, List.length_append]
  omega

/-- The parts of a text that follows a tag's name. -/
def readAll (cs : Text) : List HeadPart :=
  match _h : read? cs with
  | some (part, rest) => part :: readAll rest
  | none => []
termination_by cs.length
decreasing_by exact length_lt_of_read? _h

theorem eq_nil_of_read? {cs : Text} (h : read? cs = none) : cs = [] := by
  unfold read? at h
  split at h
  · split at h
    · next he => exact List.isEmpty_iff.1 he
    · simp at h
  · simp at h
  · split at h <;> simp at h

/-- The parts of a text put together are the text. -/
theorem flatMap_text_readAll (cs : Text) : (readAll cs).flatMap text = cs := by
  induction cs using readAll.induct with
  | case1 cs part rest h ih =>
    rw [readAll]
    split <;> simp_all [(eq_append_of_read? h).1.symm]
  | case2 cs h =>
    rw [readAll]
    split <;> simp_all [eq_nil_of_read? h]

end HeadPart

/-- An attribute and the byte offset at which it begins. -/
structure PlacedAttribute where
  start : Nat
  attr : Attribute
  deriving DecidableEq, Repr

namespace PlacedAttribute

variable (a : PlacedAttribute)

def nameStart : Nat := a.start + a.attr.lead.size

def nameEnd : Nat := a.nameStart + a.attr.name.size

def stop : Nat := a.start + a.attr.text.size

/-- Where the value begins as it is written, with its quote. -/
def writtenStart (assignment : Assignment) : Nat := a.nameEnd + assignment.gap.size

/-- Where the text of the value begins, after its quote. -/
def valueStart (assignment : Assignment) : Nat :=
  a.writtenStart assignment + (assignment.value.quote?.elim 0 Char.utf8Size)

/-- Where the text of the value ends, before its quote. -/
def valueEnd (assignment : Assignment) : Nat :=
  a.valueStart assignment + assignment.value.text.size

end PlacedAttribute

namespace HeadPart

/-- The attributes among the parts, where the first part begins at the given offset. -/
def place : Nat → List HeadPart → List PlacedAttribute
  | _, [] => []
  | n, .filler text :: rest => place (n + text.size) rest
  | n, .attr a :: rest => ⟨n, a⟩ :: place (n + a.text.size) rest

end HeadPart

/-- The attributes of a tag, in order. -/
def OpenTag.attributes (tag : OpenTag) : List Attribute :=
  (HeadPart.readAll tag.inner).filterMap fun
    | .attr a => some a
    | .filler _ => none

namespace Head

/-- The attributes of a head at their offsets. -/
def attributes (head : Head) : List PlacedAttribute :=
  HeadPart.place head.nameEnd (HeadPart.readAll head.tag.inner)

/-- The first attribute with a name. -/
def find? (head : Head) (name : Text) : Option PlacedAttribute :=
  head.attributes.find? fun a => a.attr.name == name

/-- The attributes with a name. -/
def findAll (head : Head) (name : Text) : List PlacedAttribute :=
  head.attributes.filter fun a => a.attr.name == name

/-- Where a further attribute goes: after the last one, or after the tag's name. -/
def insertAt (head : Head) : Nat := head.attributes.getLast?.elim head.nameEnd (·.stop)

end Head

end Graft.Markup
