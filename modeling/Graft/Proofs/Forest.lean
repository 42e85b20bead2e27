import Graft.Proofs.Tag
import Graft.Proofs.Token

/-! Well-formed documents as forests, and the reading of their text: the tokens of the text are
the tags, comments and declarations of the forest in order, and each element is paired with its own
closing tag. -/

namespace Graft.Markup

open Text

/-! ### Forests and their text -/

/-- Whether a `<` before this character starts markup. -/
def startsMarkup (c : Char) : Bool := c.isAlpha || c = '/' || c = '!' || c = '?'

/-- A run of text: each `<` in it comes before a character of the run that starts no markup. -/
def IsRun (text : Text) : Prop :=
  ∀ rest, '<' :: rest <:+ text → ∃ c cs, rest = c :: cs ∧ startsMarkup c = false

/-- The closing tag of an element. -/
def CloseTag.ofName (name : Text) : CloseTag := ⟨name, []⟩

/-- A node without child nodes. -/
inductive Leaf
  | run (text : Text) (isRun : IsRun text)
  | comment (body : Text) (noEnd : ¬['-', '-', '>'] <:+: body)
  | declaration (mark : Char) (body : Text) (isMark : mark = '!' ∨ mark = '?') (noEnd : '>' ∉ body)
      (noComment : mark = '!' → ¬['-', '-'] <+: body)
  | selfClosing (o : Opening)
  | void (o : Opening) (isVoid : o.name ∈ voidNames)
  | raw (o : Opening) (content : Text) (isRaw : o.name ∈ rawNames)
      (noEnd : ¬('<' :: '/' :: o.name) <:+: content)

/-- A list of nodes: each is a leaf, or an element with a forest of children. -/
inductive Forest
  | nil
  | leaf (l : Leaf) (rest : Forest)
  | element (o : Opening) (notVoid : o.name ∉ voidNames) (notRaw : o.name ∉ rawNames)
      (children rest : Forest)

def Leaf.text : Leaf → Text
  | .run text _ => text
  | .comment body _ => ['<', '!', '-', '-'] ++ body ++ ['-', '-', '>']
  | .declaration mark body _ _ _ => '<' :: mark :: body ++ ['>']
  | .selfClosing o => (o.tag true).text
  | .void o _ => (o.tag false).text
  | .raw o content _ _ => (o.tag false).text ++ content ++ (CloseTag.ofName o.name).text

def Forest.text : Forest → Text
  | .nil => []
  | .leaf l rest => l.text ++ rest.text
  | .element o _ _ children rest =>
    (o.tag false).text ++ children.text ++ (CloseTag.ofName o.name).text ++ rest.text

/-! ### The tokens and elements of a forest -/

/-- The tokens of a leaf whose text begins at the given offset. -/
def Leaf.tokens (n : Nat) : Leaf → List Token
  | .run _ _ => []
  | .comment body _ => [⟨n, .comment body true⟩]
  | .declaration mark body _ _ _ => [⟨n, .declaration (mark :: body) true⟩]
  | .selfClosing o => [⟨n, .opening (o.tag true)⟩]
  | .void o _ => [⟨n, .opening (o.tag false)⟩]
  | .raw o content _ _ =>
    [⟨n, .opening (o.tag false)⟩,
      ⟨n + (o.tag false).text.size + content.size, .closing (.ofName o.name)⟩]

/-- The tokens of a forest whose text begins at the given offset, in the order of the document. -/
def Forest.tokens (n : Nat) : Forest → List Token
  | .nil => []
  | .leaf l rest => l.tokens n ++ rest.tokens (n + l.text.size)
  | .element o _ _ children rest =>
    let inside := n + (o.tag false).text.size
    let close := inside + children.text.size
    ⟨n, .opening (o.tag false)⟩ :: children.tokens inside ++
      ⟨close, .closing (.ofName o.name)⟩ ::
        rest.tokens (close + (CloseTag.ofName o.name).text.size)

/-- An element of a forest at its place in the text: its opening tag with the attributes that it
was written with, and how it ends. -/
structure Element where
  head : Head
  attrs : List Attribute
  closing : Closing

def Element.bounds (e : Element) : Bounds := ⟨e.head, e.closing⟩

/-- The element of an opening tag at an offset whose content has a number of bytes. -/
def Opening.element (o : Opening) (n content : Nat) : Element :=
  let close := n + (o.tag false).text.size + content
  ⟨⟨n, o.tag false⟩, o.attrs, .explicit ⟨close, close + (CloseTag.ofName o.name).text.size⟩⟩

/-- The element that a leaf at an offset is, if it is one. -/
def Leaf.element? (n : Nat) : Leaf → Option Element
  | .run _ _ | .comment _ _ | .declaration _ _ _ _ _ => none
  | .selfClosing o =>
    let head : Head := ⟨n, o.tag true⟩
    some ⟨head, o.attrs, .selfClosing ⟨head.delimiterStart, head.stop⟩⟩
  | .void o _ => some ⟨⟨n, o.tag false⟩, o.attrs, .void⟩
  | .raw o content _ _ => some (o.element n content.size)

/-- The elements of a forest whose text begins at the given offset, each before its children. -/
def Forest.elements (n : Nat) : Forest → List Element
  | .nil => []
  | .leaf l rest => (l.element? n).toList ++ rest.elements (n + l.text.size)
  | .element o _ _ children rest =>
    let inside := n + (o.tag false).text.size
    o.element n children.text.size :: children.elements inside ++
      rest.elements (inside + children.text.size + (CloseTag.ofName o.name).text.size)

/-! ### The reading of a forest's text -/

theorem IsRun.tail {c : Char} {cs : Text} (h : IsRun (c :: cs)) : IsRun cs :=
  fun rest hsuf => h rest (hsuf.trans (List.suffix_cons c cs))

/-- No lexeme begins inside a run of text, whatever follows the run. -/
theorem IsRun.read?_eq_none {c : Char} {cs : Text} (h : IsRun (c :: cs)) (rest : Text) :
    Lexeme.read? (c :: (cs ++ rest)) = none := by
  by_cases hc : c = '<'
  · subst hc
    obtain ⟨d, ds, rfl, hd⟩ := h cs List.suffix_rfl
    simp only [startsMarkup, Bool.or_eq_false_iff, decide_eq_false_iff_not] at hd
    obtain ⟨⟨⟨halpha, hslash⟩, hbang⟩, hquestion⟩ := hd
    simp [Lexeme.read?, hslash, hbang, hquestion, Lexeme.readOpening?, readName?, halpha]
  · simp [Lexeme.read?, hc]

theorem place_run {text : Text} (h : IsRun text) (n : Nat) (rest : Text) :
    place n (items (text ++ rest)) = place (n + text.size) (items rest) := by
  induction text generalizing n with
  | nil => simp
  | cons c cs ih =>
    rw [List.cons_append, items_cons_of_read? (h.read?_eq_none rest), place, ih h.tail, size_cons,
      Nat.add_assoc]

/-- A lexeme that opens no raw content is the first token, and the others are read after it. -/
theorem place_lexeme {text rest : Text} {lexeme : Lexeme} (n : Nat)
    (hread : Lexeme.read? (text ++ rest) = some (lexeme, rest)) (htext : lexeme.text = text)
    (hraw : lexeme.rawName? = none) :
    place n (items (text ++ rest)) = ⟨n, lexeme⟩ :: place (n + text.size) (items rest) := by
  rw [items_of_read? hread, Lexeme.splitRaw, hraw]
  simp [place, htext]

theorem read?_comment {body : Text} (h : ¬['-', '-', '>'] <:+: body) (rest : Text) :
    Lexeme.read? (['<', '!', '-', '-'] ++ body ++ ['-', '-', '>'] ++ rest) =
      some (.comment body true, rest) := by
  have hb : breakOn? ['-', '-', '>'] (body ++ ('-' :: '-' :: '>' :: rest)) =
      some (body, '-' :: '-' :: '>' :: rest) := by
    refine breakOn?_append (by simp) fun t ht hsuf hpre => ?_
    -- an occurrence that begins in the body ends in it, or has a `>` for a `-`
    match t, ht with
    | [a], _ => simp at hpre
    | [a, b], _ => simp at hpre
    | a :: b :: c :: t, _ =>
      obtain ⟨rfl, rfl, rfl⟩ : '-' = a ∧ '-' = b ∧ '>' = c := by simpa using hpre
      exact h ((List.prefix_append _ t).isInfix.trans hsuf.isInfix)
  simp [Lexeme.read?, Lexeme.readComment, hb]

/-- A `<!` that no `--` follows starts a declaration. -/
theorem read?_bang {cs : Text} (h : ¬['-', '-'] <+: cs) :
    Lexeme.read? ('<' :: '!' :: cs) = some (Lexeme.readDeclaration ('!' :: cs)) := by
  have hdash : ∀ rest, cs = '-' :: '-' :: rest → False := by
    rintro rest rfl
    simp at h
  rw [Lexeme.read?]
  exact hdash

theorem read?_declaration {mark : Char} {body : Text} (hmark : mark = '!' ∨ mark = '?')
    (hbody : '>' ∉ body) (hcomment : mark = '!' → ¬['-', '-'] <+: body) (rest : Text) :
    Lexeme.read? ('<' :: mark :: body ++ ['>'] ++ rest) =
      some (.declaration (mark :: body) true, rest) := by
  have hb : breakOn? ['>'] (mark :: body ++ '>' :: rest) = some (mark :: body, '>' :: rest) := by
    refine breakOn?_single_append ?_
    obtain rfl | rfl := hmark <;> simpa using hbody
  have hread : Lexeme.readDeclaration (mark :: (body ++ '>' :: rest)) =
      (.declaration (mark :: body) true, rest) := by
    rw [List.cons_append] at hb
    simp [Lexeme.readDeclaration, hb]
  have htext : '<' :: mark :: body ++ ['>'] ++ rest = '<' :: mark :: (body ++ '>' :: rest) := by
    simp
  rw [htext]
  rcases hmark with rfl | rfl
  · have hdash : ¬['-', '-'] <+: body ++ '>' :: rest := by
      intro hpre
      match body, hcomment rfl with
      | [], _ => simp at hpre
      | [a], _ => simp at hpre
      | a :: b :: body, hcomment =>
        obtain ⟨rfl, rfl⟩ : '-' = a ∧ '-' = b := by simpa using hpre
        exact hcomment (by simp)
    rw [read?_bang hdash, hread]
  · simp [Lexeme.read?, hread]

theorem read?_closeTag {name : Text} (h : IsTagName name) (rest : Text) :
    Lexeme.read? ((CloseTag.ofName name).text ++ rest) =
      some (.closing (.ofName name), rest) := by
  have hname : readName? (name ++ '>' :: rest) = some (name, '>' :: rest) :=
    readName?_append h (by simp [isNameChar])
  have hb : breakOn? ['>'] ('>' :: rest) = some ([], '>' :: rest) :=
    breakOn?_single_append (s := []) (by simp)
  simp [CloseTag.text, CloseTag.ofName, Lexeme.read?, Lexeme.readClosing?, hname, hb]

/-- Raw content lasts to the closing tag of its name. -/
theorem breakOn?_raw {name content : Text} (hname : IsTagName name)
    (h : ¬('<' :: '/' :: name) <:+: content) (rest : Text) :
    breakOn? ('<' :: '/' :: name) (content ++ ((CloseTag.ofName name).text ++ rest)) =
      some (content, (CloseTag.ofName name).text ++ rest) := by
  have hlt : '<' ∉ name := by
    obtain ⟨c, cs, rfl, hc, hcs⟩ := hname
    intro hmem
    rcases List.mem_cons.mp hmem with rfl | hmem
    · exact absurd hc (by decide)
    · exact absurd (hcs '<' hmem) (by decide)
  have htext : (CloseTag.ofName name).text ++ rest = '<' :: '/' :: name ++ '>' :: rest := by
    simp [CloseTag.text, CloseTag.ofName]
  rw [htext]
  refine breakOn?_append (List.prefix_append _ _) fun t ht hsuf hpre => ?_
  -- an occurrence that begins in the content ends in it, or has a second `<`
  by_cases hlen : ('<' :: '/' :: name).length ≤ t.length
  · exact h ((List.prefix_of_prefix_length_le hpre (List.prefix_append t _) hlen).isInfix.trans
      hsuf.isInfix)
  · obtain ⟨d, ds, rfl⟩ := List.exists_cons_of_ne_nil ht
    have hbegins : d :: ds ++ ['<'] <+: d :: ds ++ ('<' :: '/' :: name ++ '>' :: rest) := by simp
    have hin : d :: ds ++ ['<'] <+: '<' :: '/' :: name :=
      List.prefix_of_prefix_length_le hbegins hpre (by simp at hlen ⊢; omega)
    have hmem : '<' ∈ '/' :: name := by
      obtain ⟨u, hu⟩ := hin
      have htail : ds ++ ['<'] ++ u = '/' :: name := by
        have := congrArg List.tail hu
        simpa using this
      rw [← htail]
      simp
    exact hlt (by simpa using hmem)

theorem rawName?_of_not_mem {tag : OpenTag} (h : tag.name ∉ rawNames) :
    (Lexeme.opening tag).rawName? = none := by
  simp [Lexeme.rawName?, OpenTag.opensRaw, h]

theorem rawName?_of_selfClosing {tag : OpenTag} (h : tag.selfClosing = true) :
    (Lexeme.opening tag).rawName? = none := by
  simp [Lexeme.rawName?, OpenTag.opensRaw, h]

theorem rawName?_of_mem {tag : OpenTag} (hraw : tag.name ∈ rawNames) (h : tag.selfClosing = false) :
    (Lexeme.opening tag).rawName? = some tag.name := by
  simp [Lexeme.rawName?, OpenTag.opensRaw, hraw, h]

theorem not_mem_rawNames_of_void {name : Text} (h : name ∈ voidNames) : name ∉ rawNames := by
  revert name
  decide

/-- The tokens of a leaf's text, and after them those of what follows it. -/
theorem Leaf.place_items (l : Leaf) (n : Nat) (rest : Text) :
    place n (items (l.text ++ rest)) = l.tokens n ++ place (n + l.text.size) (items rest) := by
  cases l with
  | run text h => exact place_run h n rest
  | comment body h => exact place_lexeme n (read?_comment h rest) rfl rfl
  | declaration mark body hmark hbody hcomment =>
    exact place_lexeme n (read?_declaration hmark hbody hcomment rest) rfl rfl
  | selfClosing o =>
    exact place_lexeme n (o.read?_tag true rest) rfl (rawName?_of_selfClosing rfl)
  | void o h =>
    exact place_lexeme n (o.read?_tag false rest) rfl
      (rawName?_of_not_mem (not_mem_rawNames_of_void h))
  | raw o content hraw h =>
    have hsplit : (Lexeme.opening (o.tag false)).splitRaw
        (content ++ ((CloseTag.ofName o.name).text ++ rest)) =
        (content, (CloseTag.ofName o.name).text ++ rest) := by
      rw [Lexeme.splitRaw, rawName?_of_mem hraw rfl]
      simp only [Opening.tag, breakOn?_raw o.isName h rest, Option.getD_some]
    have hclose := place_lexeme (n + (o.tag false).text.size + content.size)
      (read?_closeTag o.isName rest) rfl rfl
    rw [Leaf.text, List.append_assoc, List.append_assoc, items_of_read? (o.read?_tag false _),
      hsplit]
    simp only [List.cons_append, place, place_plain, Lexeme.text, hclose]
    simp [Leaf.tokens, Nat.add_assoc]

/-- The tokens of a forest's text, and after them those of what follows it. -/
theorem Forest.place_items (forest : Forest) (n : Nat) (rest : Text) :
    place n (items (forest.text ++ rest)) =
      forest.tokens n ++ place (n + forest.text.size) (items rest) := by
  induction forest generalizing n rest with
  | nil => simp [text, tokens]
  | leaf l forest ih =>
    rw [text, List.append_assoc, l.place_items, ih]
    simp [tokens, Nat.add_assoc]
  | element o hvoid hraw children forest ihc ihf =>
    have hopen := place_lexeme n (o.read?_tag false (children.text ++
      ((CloseTag.ofName o.name).text ++ (forest.text ++ rest)))) rfl (rawName?_of_not_mem hraw)
    rw [text, List.append_assoc, List.append_assoc, List.append_assoc, hopen, ihc,
      place_lexeme _ (read?_closeTag o.isName _) rfl rfl, ihf]
    simp [tokens, Nat.add_assoc]

/-! ### The pairing of tags -/

section Pairing

variable {head : Head} {opened : List Head} {n : Nat} {rest : List Token}

theorem match?_open {tag : OpenTag} (h : Bounds.alone? ⟨n, tag⟩ = none) :
    Bounds.match? opened (⟨n, .opening tag⟩ :: rest) = Bounds.match? (⟨n, tag⟩ :: opened) rest := by
  simp [Bounds.match?, h]

theorem match?_alone {tag : OpenTag} {bounds : Bounds} (h : Bounds.alone? ⟨n, tag⟩ = some bounds) :
    Bounds.match? (head :: opened) (⟨n, .opening tag⟩ :: rest) =
      Bounds.match? (head :: opened) rest := by
  simp [Bounds.match?, h]

theorem match?_alone_nil {tag : OpenTag} {bounds : Bounds}
    (h : Bounds.alone? ⟨n, tag⟩ = some bounds) :
    Bounds.match? [] (⟨n, .opening tag⟩ :: rest) = some bounds := by
  simp [Bounds.match?, h]

/-- A closing tag of the innermost open element's name closes that element alone. -/
theorem match?_close {inner : Head} {tag : CloseTag} (h : inner.name = tag.name) :
    Bounds.match? (inner :: head :: opened) (⟨n, .closing tag⟩ :: rest) =
      Bounds.match? (head :: opened) rest := by
  simp [Bounds.match?, h]

theorem match?_close_last {tag : CloseTag} (h : head.name = tag.name) :
    Bounds.match? [head] (⟨n, .closing tag⟩ :: rest) =
      some ⟨head, .explicit ⟨n, n + tag.text.size⟩⟩ := by
  simp [Bounds.match?, h, Token.stop, Lexeme.text]

theorem alone?_selfClosing (o : Opening) (n : Nat) :
    Bounds.alone? ⟨n, o.tag true⟩ =
      some ⟨⟨n, o.tag true⟩, .selfClosing ⟨Head.delimiterStart ⟨n, o.tag true⟩,
        Head.stop ⟨n, o.tag true⟩⟩⟩ := by
  have hsize : (o.tag true).delimiter.size = 2 := rfl
  simp [Bounds.alone?, Head.stop, hsize]
  rfl

theorem alone?_void {o : Opening} (h : o.name ∈ voidNames) (n : Nat) :
    Bounds.alone? ⟨n, o.tag false⟩ = some ⟨⟨n, o.tag false⟩, .void⟩ := by
  have hvoid : (o.tag false).isVoid = true := by simpa [OpenTag.isVoid, Opening.tag] using h
  rw [Bounds.alone?, if_neg (by simp [Opening.tag]), if_pos hvoid]

theorem alone?_paired {o : Opening} (h : o.name ∉ voidNames) (n : Nat) :
    Bounds.alone? ⟨n, o.tag false⟩ = none := by
  have hvoid : (o.tag false).isVoid = false := by simpa [OpenTag.isVoid, Opening.tag] using h
  rw [Bounds.alone?, if_neg (by simp [Opening.tag]), if_neg (by simp [hvoid])]

theorem not_mem_voidNames_of_raw {name : Text} (h : name ∈ rawNames) : name ∉ voidNames :=
  fun hvoid => not_mem_rawNames_of_void hvoid h

theorem Leaf.match?_tokens (l : Leaf) (n : Nat) (head : Head) (opened : List Head)
    (more : List Token) :
    Bounds.match? (head :: opened) (l.tokens n ++ more) = Bounds.match? (head :: opened) more := by
  cases l with
  | run text h => rfl
  | comment body h => rfl
  | declaration mark body hmark hbody hcomment => rfl
  | selfClosing o => exact match?_alone (alone?_selfClosing o n)
  | void o h => exact match?_alone (alone?_void h n)
  | raw o content hraw h =>
    exact (match?_open (alone?_paired (not_mem_voidNames_of_raw hraw) n)).trans (match?_close rfl)

/-- Inside an open element, the tokens of a forest leave the open elements as they are. -/
theorem Forest.match?_tokens (forest : Forest) (n : Nat) (head : Head) (opened : List Head)
    (more : List Token) :
    Bounds.match? (head :: opened) (forest.tokens n ++ more) =
      Bounds.match? (head :: opened) more := by
  induction forest generalizing n head opened more with
  | nil => rfl
  | leaf l forest ih => rw [tokens, List.append_assoc, l.match?_tokens, ih]
  | element o hvoid hraw children forest ihc ihf =>
    rw [tokens, List.cons_append, List.cons_append, match?_open (alone?_paired hvoid n),
      List.append_assoc, ihc, List.cons_append, match?_close rfl, ihf]

/-- The tag of an element that is written in full is paired with the closing tag after its
content. -/
theorem match?_element {o : Opening} (h : o.name ∉ voidNames) (n : Nat) (children : Forest)
    (more : List Token) :
    Bounds.match? [] (⟨n, .opening (o.tag false)⟩ ::
      (children.tokens (n + (o.tag false).text.size) ++
        ⟨n + (o.tag false).text.size + children.text.size, .closing (.ofName o.name)⟩ :: more)) =
      some (o.element n children.text.size).bounds := by
  rw [match?_open (alone?_paired h n), children.match?_tokens, match?_close_last rfl]
  rfl

end Pairing

/-- The element that a leaf is, paired at its offset. -/
theorem Leaf.elementFrom?_text {l : Leaf} {before rest : Text} {e : Element}
    (h : l.element? before.size = some e) :
    elementFrom? (before ++ (l.text ++ rest)) e.head.start = some (some e.bounds) := by
  have hstart : e.head.start = before.size := by
    cases l <;> simp [element?] at h <;> subst h <;> rfl
  rw [hstart, elementFrom?_append, l.place_items]
  cases l with
  | run text h' => simp [element?] at h
  | comment body h' => simp [element?] at h
  | declaration mark body hmark hbody hcomment => simp [element?] at h
  | selfClosing o =>
    obtain rfl := Option.some.inj h
    exact congrArg some (match?_alone_nil (alone?_selfClosing o _))
  | void o hvoid =>
    obtain rfl := Option.some.inj h
    exact congrArg some (match?_alone_nil (alone?_void hvoid _))
  | raw o content hraw h' =>
    obtain rfl := Option.some.inj h
    have halone := alone?_paired (not_mem_voidNames_of_raw hraw) before.size
    exact congrArg some ((match?_open halone).trans (match?_close_last rfl))

/-- Each element of a forest is paired with its own closing tag, whatever stands around the
forest's text. -/
theorem Forest.elementFrom?_text (forest : Forest) (before rest : Text) :
    ∀ e ∈ forest.elements before.size,
      elementFrom? (before ++ (forest.text ++ rest)) e.head.start = some (some e.bounds) := by
  induction forest generalizing before rest with
  | nil => simp [elements]
  | leaf l forest ih =>
    intro e he
    rw [elements, List.mem_append, Option.mem_toList] at he
    rw [text, List.append_assoc]
    rcases he with he | he
    · exact Leaf.elementFrom?_text he
    · rw [← size_append] at he
      rw [← List.append_assoc]
      exact ih (before ++ l.text) rest e he
  | element o hvoid hraw children forest ihc ihf =>
    intro e he
    have hstep : ∀ s t : Text, s.size + t.size = (s ++ t).size := fun s t => (size_append s t).symm
    rw [elements, List.cons_append, List.mem_cons, List.mem_append] at he
    rcases he with rfl | he | he
    · rw [show (o.element before.size children.text.size).head.start = before.size from rfl,
        elementFrom?_append, place_items, tokens, List.cons_append, List.cons_append,
        List.append_assoc, List.cons_append, match?_element hvoid]
    · have hdoc : before ++ ((element o hvoid hraw children forest).text ++ rest) =
          before ++ (o.tag false).text ++ (children.text ++
            ((CloseTag.ofName o.name).text ++ forest.text ++ rest)) := by
        simp [text]
      rw [hdoc]
      exact ihc _ _ e (by rwa [hstep] at he)
    · have hdoc : before ++ ((element o hvoid hraw children forest).text ++ rest) =
          before ++ (o.tag false).text ++ children.text ++ (CloseTag.ofName o.name).text ++
            (forest.text ++ rest) := by
        simp [text]
      rw [hdoc]
      exact ihf _ _ e (by rwa [hstep, hstep, hstep] at he)

theorem Forest.tokens_text (forest : Forest) : Markup.tokens forest.text = forest.tokens 0 := by
  have h := forest.place_items 0 []
  rwa [List.append_nil, items_nil, place, List.append_nil] at h

/-- The tokens of a well-formed document are the tags, comments and declarations of its forest in
the order of the document, each at the offset of its text, where it is also read by itself. Each
element is paired with its own closing tag, or counts as self-closing or void. -/
theorem Forest.tokens_and_elements (forest : Forest) :
    tokensFrom? forest.text 0 = some (forest.tokens 0) ∧
      (∀ token ∈ forest.tokens 0, tokenAt? forest.text token.start = some token) ∧
      ∀ e ∈ forest.elements 0,
        elementFrom? forest.text e.head.start = some (some ⟨e.head, e.closing⟩) := by
  refine ⟨?_, ?_, ?_⟩
  · exact (tokensFrom?_append [] forest.text).trans (congrArg some forest.tokens_text)
  · intro token htoken
    rw [← forest.tokens_text] at htoken
    exact tokenAt?_of_mem htoken
  · intro e he
    have h := forest.elementFrom?_text [] [] e he
    rwa [List.nil_append, List.append_nil] at h

/-- Of two nested elements of a name, each has the closing tag that belongs to it. -/
theorem Forest.tokens_and_elements_nested : ∃ forest : Forest,
    forest.text = "<a><a></a></a>".toList ∧
      elementFrom? forest.text 0 =
        some (some ⟨⟨0, ⟨['a'], [], false⟩⟩, .explicit ⟨10, 14⟩⟩) ∧
      elementFrom? forest.text 3 =
        some (some ⟨⟨3, ⟨['a'], [], false⟩⟩, .explicit ⟨6, 10⟩⟩) := by
  let o : Opening := ⟨['a'], [], [], ⟨'a', [], rfl, rfl, by simp⟩, by simp, by simp⟩
  have hvoid : o.name ∉ voidNames := by decide
  have hraw : o.name ∉ rawNames := by decide
  let forest : Forest := .element o hvoid hraw (.element o hvoid hraw .nil .nil) .nil
  have helements := (tokens_and_elements forest).2.2
  refine ⟨forest, rfl, ?_, ?_⟩
  · exact helements (o.element 0 7) (by simp [forest, elements]; exact .inl rfl)
  · exact helements (o.element 3 0) (by simp [forest, elements]; exact .inr rfl)

end Graft.Markup
