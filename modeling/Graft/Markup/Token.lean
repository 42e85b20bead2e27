import Graft.Markup.Lexeme

/-!
A document as the list of its plain characters and lexemes, and the lexemes at their byte offsets.

The content of `script` and `style` is plain up to the next `</script` or `</style`. The items of a
document put together are the document.
-/

namespace Graft.Markup

open Text

/-- A part of a document: a character that belongs to no tag, or a lexeme. -/
inductive Item
  | plain (c : Char)
  | tag (lexeme : Lexeme)
  deriving DecidableEq, Repr

def Item.text : Item → Text
  | .plain c => [c]
  | .tag lexeme => lexeme.text

/-- The name whose closing tag ends the raw content that a lexeme opens. -/
def Lexeme.rawName? : Lexeme → Option Text
  | .opening tag => if tag.opensRaw then some tag.name else none
  | _ => none

/-- The content after a lexeme that holds no markup, and the text where markup goes on. -/
def Lexeme.splitRaw (lexeme : Lexeme) (cs : Text) : Text × Text :=
  match lexeme.rawName? with
  | none => ([], cs)
  | some name => (breakOn? ('<' :: '/' :: name) cs).getD (cs, [])

theorem Lexeme.splitRaw_append (lexeme : Lexeme) (cs : Text) :
    (lexeme.splitRaw cs).1 ++ (lexeme.splitRaw cs).2 = cs := by
  unfold splitRaw
  split
  · rfl
  · next name _ =>
    cases h : breakOn? ('<' :: '/' :: name) cs with
    | none => simp
    | some parts => exact (eq_append_of_breakOn? (s := parts.1) (r := parts.2) h).1.symm

theorem Lexeme.length_splitRaw_le (lexeme : Lexeme) (cs : Text) :
    (lexeme.splitRaw cs).2.length ≤ cs.length := by
  have h := congrArg List.length (lexeme.splitRaw_append cs)
  rw [List.length_append] at h
  omega

/-- The items of a text. A `<` that starts no lexeme is a plain character. -/
def items : Text → List Item
  | [] => []
  | c :: cs =>
    match h : Lexeme.read? (c :: cs) with
    | some (lexeme, rest) =>
      .tag lexeme :: (lexeme.splitRaw rest).1.map .plain ++ items (lexeme.splitRaw rest).2
    | none => .plain c :: items cs
termination_by cs => cs.length
decreasing_by
  · have := Lexeme.length_lt_of_read? h
    have := lexeme.length_splitRaw_le rest
    simp only [List.length_cons] at *
    omega
  · simp

theorem items_nil : items [] = [] := by rw [items]

/-- A lexeme at the front comes first, then its raw content, then the items after that. -/
theorem items_of_read? {cs rest : Text} {lexeme : Lexeme}
    (h : Lexeme.read? cs = some (lexeme, rest)) :
    items cs =
      .tag lexeme :: (lexeme.splitRaw rest).1.map .plain ++ items (lexeme.splitRaw rest).2 := by
  cases cs with
  | nil => simp [Lexeme.read?] at h
  | cons c cs => rw [items]; split <;> simp_all

theorem items_cons_of_read? {c : Char} {cs : Text} (h : Lexeme.read? (c :: cs) = none) :
    items (c :: cs) = .plain c :: items cs := by
  rw [items]
  split <;> simp_all

/-- The items of a text put together are the text. -/
theorem flatMap_text_items (cs : Text) : (items cs).flatMap Item.text = cs := by
  induction cs using items.induct with
  | case1 => rw [items_nil]; rfl
  | case2 c cs lexeme rest h ih =>
    rw [items_of_read? h, Lexeme.eq_append_of_read? h]
    simp only [List.cons_append, List.flatMap_cons, List.flatMap_append, ih, Item.text]
    conv => rhs; rw [← lexeme.splitRaw_append rest]
    simp [List.flatMap_map, Item.text]
  | case3 c cs h ih => rw [items_cons_of_read? h]; simp [Item.text, ih]

/-- An opening tag and the byte offset of its `<`. -/
structure Head where
  start : Nat
  tag : OpenTag
  deriving DecidableEq, Repr

namespace Head

variable (head : Head)

def name : Text := head.tag.name

def nameStart : Nat := head.start + 1

def nameEnd : Nat := head.nameStart + head.tag.name.size

/-- Where the `>` or `/>` begins. -/
def delimiterStart : Nat := head.nameEnd + head.tag.inner.size

def stop : Nat := head.delimiterStart + head.tag.delimiter.size

end Head

/-- A lexeme and the byte offset of its `<`. -/
structure Token where
  start : Nat
  lexeme : Lexeme
  deriving DecidableEq, Repr

namespace Token

def stop (token : Token) : Nat := token.start + token.lexeme.text.size

/-- The opening tag, when the token is one. -/
def head? (token : Token) : Option Head :=
  match token.lexeme with
  | .opening tag => some ⟨token.start, tag⟩
  | _ => none

end Token

/-- The lexemes of a list of items whose first item begins at the given offset. -/
def place : Nat → List Item → List Token
  | _, [] => []
  | n, .plain c :: rest => place (n + c.utf8Size) rest
  | n, .tag lexeme :: rest => ⟨n, lexeme⟩ :: place (n + lexeme.text.size) rest

/-- The tokens of a document. -/
def tokens (doc : Text) : List Token := place 0 (items doc)

/-- The tokens from an offset on: none past the end, and no answer inside a character. -/
def tokensFrom? (doc : Text) (start : Nat) : Option (List Token) :=
  if doc.size ≤ start then some []
  else (splitAt? start doc).map fun (_, rest) => place start (items rest)

/-- The token at an offset. -/
def tokenAt? (doc : Text) (start : Nat) : Option Token := do
  let (_, rest) ← splitAt? start doc
  let (lexeme, _) ← Lexeme.read? rest
  return ⟨start, lexeme⟩

/-- The opening tag at an offset. -/
def headAt? (doc : Text) (start : Nat) : Option Head := (tokenAt? doc start).bind Token.head?

/-- The opening tags of a document. -/
def heads (doc : Text) : List Head := (tokens doc).filterMap Token.head?

end Graft.Markup
