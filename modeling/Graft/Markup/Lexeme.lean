import Graft.Text

/-!
The tag-like pieces of a markup document, read off the front of a text.

An opening tag ends at the first `>` outside its quoted values, and a quote counts as one only
after a `=`. Nothing is lost: a lexeme's text and what follows it make up the text it was read
from.
-/

namespace Graft.Markup

open Text

/-- The elements that never have a closing tag, also when written without `/>`. -/
def voidNames : List Text :=
  ["area".toList, "base".toList, "br".toList, "col".toList, "embed".toList, "hr".toList,
    "img".toList, "input".toList, "link".toList, "meta".toList, "param".toList,
    "source".toList, "track".toList, "wbr".toList]

/-- The elements whose content holds no markup. -/
def rawNames : List Text := ["script".toList, "style".toList]

/-- Whether a character continues a tag name. -/
def isNameChar (c : Char) : Bool := !(isBlank c || c = '/' || c = '>' || c = '<')

/-- The tag name at the front of a text: an ASCII letter and the name characters after it. -/
def readName? : Text → Option (Text × Text)
  | [] => none
  | c :: cs =>
    if c.isAlpha then some (c :: cs.takeWhile isNameChar, cs.dropWhile isNameChar) else none

/-- Where the reading of a tag head stands: outside values, after a `=` that a quote may follow,
or inside a quoted value. -/
inductive HeadState
  | outside
  | afterEquals
  | quoted (quote : Char)
  deriving DecidableEq, Repr

/-- The state after one more character of the head. Blanks keep a `=` in force. -/
def HeadState.next : HeadState → Char → HeadState
  | .quoted q, c => if c = q then .outside else .quoted q
  | .outside, c => if c = '=' then .afterEquals else .outside
  | .afterEquals, c =>
    if isQuote c then .quoted c
    else if c = '=' || isBlank c then .afterEquals
    else .outside

/-- Whether a character ends the head in this state. -/
def HeadState.ends : HeadState → Char → Bool
  | .quoted _, _ => false
  | _, c => c = '>'

/-- The head up to the `>` that ends it, and the text after that `>`. -/
def readHead? : HeadState → Text → Option (Text × Text)
  | _, [] => none
  | s, c :: cs =>
    if s.ends c then some ([], cs)
    else (readHead? (s.next c) cs).map fun (inner, rest) => (c :: inner, rest)

/-- An opening tag `<name inner>`, or `<name inner/>` when it is self-closing. -/
structure OpenTag where
  name : Text
  inner : Text
  selfClosing : Bool
  deriving DecidableEq, Repr

namespace OpenTag

/-- The delimiter that ends the tag. -/
def delimiter (tag : OpenTag) : Text := if tag.selfClosing then ['/', '>'] else ['>']

def text (tag : OpenTag) : Text := '<' :: (tag.name ++ tag.inner ++ tag.delimiter)

/-- The tag of a name and of what stands between the name and the `>`. -/
def ofHead (name head : Text) : OpenTag :=
  if head.getLast? = some '/' then ⟨name, head.dropLast, true⟩ else ⟨name, head, false⟩

theorem text_ofHead (name head : Text) :
    (ofHead name head).text = '<' :: (name ++ head ++ ['>']) := by
  unfold ofHead
  split
  · next h =>
    have hh : head.dropLast ++ ['/'] = head := by
      obtain ⟨init, rfl⟩ := List.getLast?_eq_some_iff.1 h
      simp
    simp only [text, delimiter, if_true, List.append_assoc, List.cons.injEq, true_and]
    rw [show ['/', '>'] = ['/'] ++ ['>'] from rfl, ← List.append_assoc head.dropLast, hh]
  · rfl

/-- Whether the tag is of an element that never has a closing tag. -/
def isVoid (tag : OpenTag) : Bool := voidNames.contains tag.name

/-- Whether the tag opens an element whose content holds no markup. -/
def opensRaw (tag : OpenTag) : Bool := !tag.selfClosing && rawNames.contains tag.name

end OpenTag

/-- A closing tag `</name junk>`. -/
structure CloseTag where
  name : Text
  junk : Text
  deriving DecidableEq, Repr

def CloseTag.text (tag : CloseTag) : Text :=
  ['<', '/'] ++ tag.name ++ tag.junk ++ ['>']

/-- A tag-like piece of a document. A comment `<!--body-->` and a declaration, such as `<!body>` or
`<?body>`, extend to the end of the document when nothing ends them. -/
inductive Lexeme
  | opening (tag : OpenTag)
  | closing (tag : CloseTag)
  | comment (body : Text) (ended : Bool)
  | declaration (body : Text) (ended : Bool)
  deriving DecidableEq, Repr

namespace Lexeme

def text : Lexeme → Text
  | .opening tag => tag.text
  | .closing tag => tag.text
  | .comment body ended => ['<', '!', '-', '-'] ++ body ++ if ended then ['-', '-', '>'] else []
  | .declaration body ended => '<' :: body ++ if ended then ['>'] else []

/-- The comment whose opening mark stands before the given text. -/
def readComment (cs : Text) : Lexeme × Text :=
  match breakOn? ['-', '-', '>'] cs with
  | some (body, rest) => (.comment body true, rest.drop 3)
  | none => (.comment cs false, [])

/-- The declaration whose `<` stands before the given text. -/
def readDeclaration (cs : Text) : Lexeme × Text :=
  match breakOn? ['>'] cs with
  | some (body, rest) => (.declaration body true, rest.drop 1)
  | none => (.declaration cs false, [])

/-- The closing tag whose `</` stands before the given text. -/
def readClosing? (cs : Text) : Option (Lexeme × Text) := do
  let (name, tail) ← readName? cs
  let (junk, rest) ← breakOn? ['>'] tail
  return (.closing ⟨name, junk⟩, rest.drop 1)

/-- The opening tag whose `<` stands before the given text. -/
def readOpening? (cs : Text) : Option (Lexeme × Text) := do
  let (name, tail) ← readName? cs
  let (head, rest) ← readHead? .outside tail
  return (.opening (.ofHead name head), rest)

/-- The lexeme at the front of a text and the text after it. There is none where a `<` starts no
tag, as in `a < b`, nor where a tag is never ended. -/
def read? : Text → Option (Lexeme × Text)
  | '<' :: '/' :: cs => readClosing? cs
  | '<' :: '!' :: '-' :: '-' :: cs => some (readComment cs)
  | '<' :: '!' :: cs => some (readDeclaration ('!' :: cs))
  | '<' :: '?' :: cs => some (readDeclaration ('?' :: cs))
  | '<' :: cs => readOpening? cs
  | _ => none

end Lexeme

/-! Nothing is lost in the reading of a lexeme. -/

theorem eq_append_of_readName? {t name rest : Text} (h : readName? t = some (name, rest)) :
    t = name ++ rest ∧ name ≠ [] := by
  cases t with
  | nil => simp [readName?] at h
  | cons c cs =>
    simp only [readName?] at h
    split at h
    · obtain ⟨rfl, rfl⟩ := Prod.mk.inj (Option.some.inj h)
      simp
    · simp at h

theorem eq_append_of_readHead? {s : HeadState} {t head rest : Text}
    (h : readHead? s t = some (head, rest)) : t = head ++ '>' :: rest := by
  induction t generalizing s head with
  | nil => simp [readHead?] at h
  | cons c cs ih =>
    simp only [readHead?] at h
    split at h
    · next hc =>
      obtain ⟨rfl, rfl⟩ := Prod.mk.inj (Option.some.inj h)
      cases s <;> simp_all [HeadState.ends]
    · obtain ⟨⟨inner, rest'⟩, hs, heq⟩ := Option.map_eq_some_iff.1 h
      obtain ⟨rfl, rfl⟩ := Prod.mk.inj heq
      simp [ih hs]

/-- The text before a single character that was searched for, the character, and the rest. -/
theorem eq_append_of_breakOn?_single {c : Char} {t s r : Text} (h : breakOn? [c] t = some (s, r)) :
    t = s ++ c :: r.drop 1 := by
  obtain ⟨rfl, tail, rfl⟩ := eq_append_of_breakOn? h
  simp

namespace Lexeme

theorem eq_append_of_readComment {cs rest : Text} {l : Lexeme} (h : readComment cs = (l, rest)) :
    ['<', '!', '-', '-'] ++ cs = l.text ++ rest := by
  unfold readComment at h
  split at h
  · next hb =>
    obtain ⟨rfl, tail, rfl⟩ := eq_append_of_breakOn? hb
    obtain ⟨rfl, rfl⟩ := Prod.mk.inj h
    simp [text]
  · obtain ⟨rfl, rfl⟩ := Prod.mk.inj h
    simp [text]

theorem eq_append_of_readDeclaration {cs rest : Text} {l : Lexeme}
    (h : readDeclaration cs = (l, rest)) : '<' :: cs = l.text ++ rest := by
  unfold readDeclaration at h
  split at h
  · next hb =>
    obtain ⟨rfl, rfl⟩ := Prod.mk.inj h
    simp [text, eq_append_of_breakOn?_single hb]
  · obtain ⟨rfl, rfl⟩ := Prod.mk.inj h
    simp [text]

theorem eq_append_of_readClosing? {cs rest : Text} {l : Lexeme}
    (h : readClosing? cs = some (l, rest)) : ['<', '/'] ++ cs = l.text ++ rest := by
  simp only [readClosing?, Option.bind_eq_bind, Option.bind_eq_some_iff] at h
  obtain ⟨⟨name, tail⟩, hn, ⟨junk, after⟩, hb, heq⟩ := h
  obtain ⟨rfl, rfl⟩ := Prod.mk.inj (Option.some.inj heq)
  obtain ⟨rfl, -⟩ := eq_append_of_readName? hn
  have htail : tail = _ := eq_append_of_breakOn?_single hb
  simp [text, CloseTag.text, htail]

theorem eq_append_of_readOpening? {cs rest : Text} {l : Lexeme}
    (h : readOpening? cs = some (l, rest)) : '<' :: cs = l.text ++ rest := by
  simp only [readOpening?, Option.bind_eq_bind, Option.bind_eq_some_iff] at h
  obtain ⟨⟨name, tail⟩, hn, ⟨head, after⟩, hb, heq⟩ := h
  obtain ⟨rfl, rfl⟩ := Prod.mk.inj (Option.some.inj heq)
  obtain ⟨rfl, -⟩ := eq_append_of_readName? hn
  have htail : tail = _ := eq_append_of_readHead? hb
  simp [text, OpenTag.text_ofHead, htail]

/-- A lexeme's text and the rest make up the text that it was read from. -/
theorem eq_append_of_read? {cs rest : Text} {l : Lexeme} (h : read? cs = some (l, rest)) :
    cs = l.text ++ rest := by
  unfold read? at h
  split at h
  · exact eq_append_of_readClosing? h
  · exact eq_append_of_readComment (Option.some.inj h)
  · exact eq_append_of_readDeclaration (Option.some.inj h)
  · exact eq_append_of_readDeclaration (Option.some.inj h)
  · exact eq_append_of_readOpening? h
  · simp at h

theorem text_ne_nil (l : Lexeme) : l.text ≠ [] := by
  cases l <;> simp [text, OpenTag.text, CloseTag.text]

/-- A lexeme takes at least one character, so reading on from its end goes forward. -/
theorem length_lt_of_read? {cs rest : Text} {l : Lexeme} (h : read? cs = some (l, rest)) :
    rest.length < cs.length := by
  have hpos : 0 < l.text.length := List.length_pos_iff.2 l.text_ne_nil
  rw [eq_append_of_read? h, List.length_append]
  omega

end Lexeme

end Graft.Markup
