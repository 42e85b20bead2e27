import Graft.Markup.Element
import Graft.Proofs.Text

/-! The tokens of an arbitrary document: each is read where it begins, and the tokens from there on
are those that are read from there. -/

namespace Graft.Markup

open Text

theorem place_plain (text : Text) (n : Nat) (rest : List Item) :
    place n (text.map .plain ++ rest) = place (n + text.size) rest := by
  induction text generalizing n with
  | nil => rfl
  | cons c cs ih => rw [List.map_cons, List.cons_append, place, ih, size_cons, Nat.add_assoc]

/-- The tokens of a text that begins with a lexeme. -/
theorem place_of_read? {cs rest : Text} {lexeme : Lexeme} (n : Nat)
    (h : Lexeme.read? cs = some (lexeme, rest)) :
    place n (items cs) = ⟨n, lexeme⟩ ::
      place (n + lexeme.text.size + (lexeme.splitRaw rest).1.size)
        (items (lexeme.splitRaw rest).2) := by
  rw [items_of_read? h, List.cons_append, place, place_plain]

/-- `Reads n cs token` says that the token is read from `cs`, whose text begins at offset `n`, at
the token's own offset. -/
def Reads (n : Nat) (cs : Text) (token : Token) : Prop :=
  ∃ before rest after, cs = before ++ rest ∧ token.start = n + before.size ∧
    Lexeme.read? rest = some (token.lexeme, after)

theorem Reads.append {n : Nat} {cs : Text} {token : Token} (before : Text)
    (h : Reads (n + before.size) cs token) : Reads n (before ++ cs) token := by
  obtain ⟨between, rest, after, rfl, hstart, hread⟩ := h
  refine ⟨before ++ between, rest, after, by simp, ?_, hread⟩
  rw [hstart, size_append, Nat.add_assoc]

theorem reads_of_mem_place {cs : Text} {n : Nat} {token : Token}
    (h : token ∈ place n (items cs)) : Reads n cs token := by
  induction cs using items.induct generalizing n with
  | case1 => simp [items_nil, place] at h
  | case2 c cs lexeme rest hread ih =>
    rw [place_of_read? n hread] at h
    rcases List.mem_cons.mp h with rfl | h
    · exact ⟨[], c :: cs, rest, rfl, rfl, hread⟩
    · have hcs : c :: cs = lexeme.text ++ (lexeme.splitRaw rest).1 ++ (lexeme.splitRaw rest).2 := by
        rw [List.append_assoc, lexeme.splitRaw_append, ← Lexeme.eq_append_of_read? hread]
      rw [hcs]
      refine Reads.append _ (ih ?_)
      rwa [size_append, ← Nat.add_assoc]
  | case3 c cs hread ih =>
    rw [items_cons_of_read? hread, place] at h
    exact Reads.append [c] (ih h)

/-- The tokens from the end of a beginning of the document on. -/
theorem tokensFrom?_append (before rest : Text) :
    tokensFrom? (before ++ rest) before.size = some (place before.size (items rest)) := by
  rw [tokensFrom?, splitAt?_append]
  split
  · next h =>
    have hrest : rest.size = 0 := by
      rw [size_append] at h
      omega
    cases rest with
    | nil => rw [items_nil]; rfl
    | cons c cs =>
      have := c.utf8Size_pos
      simp at hrest
      omega
  · rfl

theorem elementFrom?_append (before rest : Text) :
    elementFrom? (before ++ rest) before.size =
      some (Bounds.match? [] (place before.size (items rest))) := by
  rw [elementFrom?, tokensFrom?_append]
  rfl

theorem tokenAt?_append_iff {before rest : Text} {token : Token} :
    tokenAt? (before ++ rest) before.size = some token ↔
      token.start = before.size ∧ ∃ after, Lexeme.read? rest = some (token.lexeme, after) := by
  simp only [tokenAt?, splitAt?_append, Option.bind_eq_bind, Option.bind_some]
  constructor
  · intro h
    obtain ⟨⟨lexeme, after⟩, hread, heq⟩ := Option.bind_eq_some_iff.mp h
    obtain rfl := Option.some.inj heq
    exact ⟨rfl, after, hread⟩
  · rintro ⟨hstart, after, hread⟩
    rw [hread, ← hstart]
    rfl

theorem tokenAt?_append (before : Text) {rest after : Text} {lexeme : Lexeme}
    (h : Lexeme.read? rest = some (lexeme, after)) :
    tokenAt? (before ++ rest) before.size = some ⟨before.size, lexeme⟩ :=
  tokenAt?_append_iff.mpr ⟨rfl, after, h⟩

/-- Each token of a document is the one that is read at its offset. -/
theorem tokenAt?_of_mem {doc : Text} {token : Token} (h : token ∈ tokens doc) :
    tokenAt? doc token.start = some token := by
  obtain ⟨before, rest, after, rfl, hstart, hread⟩ := reads_of_mem_place h
  rw [Nat.zero_add] at hstart
  rw [hstart, tokenAt?_append before hread, ← hstart]

/-- Each token lies in the text that it was read from. -/
theorem bounds_of_mem_place {cs : Text} {n : Nat} {token : Token}
    (h : token ∈ place n (items cs)) : n ≤ token.start ∧ token.stop ≤ n + cs.size := by
  obtain ⟨before, rest, after, rfl, hstart, hread⟩ := reads_of_mem_place h
  rw [Lexeme.eq_append_of_read? hread, Token.stop, size_append, size_append]
  omega

theorem head?_eq_some_iff {token : Token} {head : Head} :
    token.head? = some head ↔ token = ⟨head.start, .opening head.tag⟩ := by
  obtain ⟨start, lexeme⟩ := token
  obtain ⟨start', tag⟩ := head
  cases lexeme <;> simp [Token.head?]

theorem mem_filterMap_head? {ts : List Token} {head : Head} :
    head ∈ ts.filterMap Token.head? ↔ ⟨head.start, .opening head.tag⟩ ∈ ts := by
  simp [List.mem_filterMap, head?_eq_some_iff]

theorem utf8Size_lt : Char.utf8Size '<' = 1 := rfl

/-- The opening tag at an offset is read there. -/
theorem reads_of_headAt? {doc : Text} {start : Nat} {head : Head}
    (h : headAt? doc start = some head) : Reads 0 doc ⟨head.start, .opening head.tag⟩ := by
  obtain ⟨token, htoken, hhead⟩ := Option.bind_eq_some_iff.mp h
  obtain rfl := head?_eq_some_iff.mp hhead
  simp only [tokenAt?, Option.bind_eq_bind, Option.bind_eq_some_iff] at htoken
  obtain ⟨⟨before, rest⟩, hsplit, ⟨lexeme, after⟩, hread, heq⟩ := htoken
  obtain ⟨rfl, hsize⟩ := eq_append_of_splitAt? hsplit
  obtain ⟨rfl, rfl⟩ := Token.mk.inj (Option.some.inj heq)
  exact ⟨before, rest, after, rfl, by rw [hsize, Nat.zero_add], hread⟩

namespace Head

variable (head : Head)

theorem stop_eq : head.stop = head.start + head.tag.text.size := by
  simp only [stop, delimiterStart, nameEnd, nameStart, OpenTag.text, size_cons, size_append,
    utf8Size_lt]
  omega

variable {head} {before : Text} (hstart : head.start = before.size)

include hstart

/-- The name of a tag begins after its `<`. -/
theorem nameStart_eq : head.nameStart = (before ++ ['<']).size := by
  rw [nameStart, hstart, size_append]
  rfl

theorem nameEnd_eq : head.nameEnd = (before ++ '<' :: head.tag.name).size := by
  rw [nameEnd, nameStart, hstart, size_append, size_cons, utf8Size_lt, Nat.add_assoc]

end Head

/-- A document cut around the name of a tag. -/
theorem OpenTag.append_name (tag : OpenTag) (before after : Text) :
    before ++ (tag.text ++ after) =
      before ++ ['<'] ++ (tag.name ++ (tag.inner ++ tag.delimiter ++ after)) := by
  simp [text]

/-- A document cut around what stands between the name of a tag and its end. -/
theorem OpenTag.append_text (tag : OpenTag) (before after : Text) :
    before ++ (tag.text ++ after) =
      before ++ '<' :: tag.name ++ (tag.inner ++ (tag.delimiter ++ after)) := by
  simp [text]

end Graft.Markup
