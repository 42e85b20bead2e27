import Graft.Proofs.Lexeme
import Graft.Proofs.Located

/-! The text of a located element read by itself. The tokens that complete an element are read from
the text up to the element's end as they are read from the whole document. So the text that is cut
out for an element holds that element and no more, at the offsets of the document less the
element's own. -/

namespace Graft.Text

theorem isSpace_eq_false_of_isAlpha {c : Char} (h : c.isAlpha = true) : isSpace c = false := by
  have hrange : 65 ≤ c.toNat ∧ c.toNat ≤ 90 ∨ 97 ≤ c.toNat ∧ c.toNat ≤ 122 := by
    obtain hupper | hlower : c.isUpper = true ∨ c.isLower = true := Bool.or_eq_true_iff.mp h
    · obtain ⟨hfirst, hlast⟩ : 'A'.val ≤ c.val ∧ c.val ≤ 'Z'.val := of_decide_eq_true hupper
      exact .inl ⟨UInt32.le_iff_toNat_le.mp hfirst, UInt32.le_iff_toNat_le.mp hlast⟩
    · obtain ⟨hfirst, hlast⟩ := Bool.and_eq_true_iff.mp hlower
      have hfirst : 'a'.val ≤ c.val := of_decide_eq_true hfirst
      have hlast : c.val ≤ 'z'.val := of_decide_eq_true hlast
      exact .inr ⟨UInt32.le_iff_toNat_le.mp hfirst, UInt32.le_iff_toNat_le.mp hlast⟩
  simp only [isSpace, Bool.or_eq_false_iff, Bool.and_eq_false_iff, decide_eq_false_iff_not]
  omega

end Graft.Text

namespace Graft.Markup

open Text

/-! ### The text that an element is completed by -/

/-- Where an element ends. -/
def Bounds.stop (bounds : Bounds) : Nat :=
  match bounds.closing with
  | .explicit range | .selfClosing range => range.stop
  | .void => bounds.head.stop

theorem Bounds.of_alone? {head : Head} {bounds : Bounds} (h : alone? head = some bounds) :
    bounds.head = head ∧ bounds.stop = head.stop ∧ ∀ range, bounds.closing ≠ .explicit range := by
  unfold alone? at h
  split at h
  · obtain rfl := Option.some.inj h
    exact ⟨rfl, rfl, by simp⟩
  · split at h
    · obtain rfl := Option.some.inj h
      exact ⟨rfl, rfl, by simp⟩
    · cases h

theorem Lexeme.getLast?_text {l : Lexeme} (h : l.isEnded = true) : l.text.getLast? = some '>' := by
  rw [List.getLast?_eq_some_iff]
  cases l with
  | opening tag =>
    obtain ⟨name, inner, selfClosing⟩ := tag
    cases selfClosing
    · exact ⟨'<' :: (name ++ inner), rfl⟩
    · exact ⟨'<' :: (name ++ inner ++ ['/']), by simp [text, OpenTag.text, OpenTag.delimiter]⟩
  | closing tag => exact ⟨['<', '/'] ++ tag.name ++ tag.junk, rfl⟩
  | comment body ended =>
    obtain rfl : ended = true := h
    exact ⟨['<', '!', '-', '-'] ++ body ++ ['-', '-'], by simp [text]⟩
  | declaration body ended =>
    obtain rfl : ended = true := h
    exact ⟨'<' :: body, rfl⟩

/-- What one token does to the pairing, whatever tokens follow: it completes the outermost open
element, or itself where none is open, or it leaves some tags open. -/
theorem match?_step (opened : List Head) (token : Token) :
    (∃ bounds, token.lexeme.isEnded = true ∧ bounds.stop = token.stop ∧
      (∀ outermost ∈ opened.getLast?, bounds.head = outermost) ∧
      ∀ rest, Bounds.match? opened (token :: rest) = some bounds) ∨
    ∃ opened', (∀ outermost ∈ opened.getLast?, outermost ∈ opened'.getLast?) ∧
      ∀ rest, Bounds.match? opened (token :: rest) = Bounds.match? opened' rest := by
  obtain ⟨start, lexeme⟩ := token
  cases lexeme with
  | opening tag =>
    cases halone : Bounds.alone? ⟨start, tag⟩ with
    | none =>
      refine .inr ⟨⟨start, tag⟩ :: opened, fun outermost hlast => ?_, fun rest =>
        match?_open halone⟩
      rw [List.getLast?_cons, Option.mem_def.mp hlast]
      rfl
    | some bounds =>
      cases opened with
      | nil =>
        obtain ⟨-, hstop, -⟩ := Bounds.of_alone? halone
        exact .inl ⟨bounds, rfl, hstop.trans (Head.stop_eq _), by simp,
          fun rest => match?_alone_nil halone⟩
      | cons head opened =>
        exact .inr ⟨head :: opened, fun _ hlast => hlast, fun rest => match?_alone halone⟩
  | closing tag =>
    obtain ⟨skipped, hskipped⟩ := List.dropWhile_suffix
      (l := opened) (fun head => head.name != tag.name)
    cases hdrop : opened.dropWhile (fun head => head.name != tag.name) with
    | nil =>
      refine .inr ⟨opened, fun _ hlast => hlast, fun rest => ?_⟩
      simp [Bounds.match?, hdrop]
    | cons head outer =>
      rw [hdrop] at hskipped
      cases outer with
      | nil =>
        refine .inl ⟨⟨head, .explicit ⟨start, Token.stop ⟨start, .closing tag⟩⟩⟩, rfl, rfl, ?_, ?_⟩
        · intro outermost hlast
          rw [← hskipped] at hlast
          simpa using hlast
        · intro rest
          simp [Bounds.match?, hdrop]
      | cons first outer =>
        refine .inr ⟨first :: outer, fun outermost hlast => ?_, fun rest => ?_⟩
        · rw [← hskipped, List.getLast?_append] at hlast
          simpa [List.getLast?_cons] using hlast
        · simp [Bounds.match?, hdrop]
  | comment body ended => exact .inr ⟨opened, fun _ hlast => hlast, fun rest => rfl⟩
  | declaration body ended => exact .inr ⟨opened, fun _ hlast => hlast, fun rest => rfl⟩

/-- Of the tags that are open, the outermost is the one whose element is completed. -/
theorem head_of_match? {ts : List Token} {opened : List Head} {outermost : Head} {bounds : Bounds}
    (hlast : outermost ∈ opened.getLast?) (h : Bounds.match? opened ts = some bounds) :
    bounds.head = outermost := by
  induction ts generalizing opened with
  | nil => simp [Bounds.match?] at h
  | cons token ts ih =>
    obtain ⟨completed, -, -, hhead, hmatch⟩ | ⟨opened', hlast', hmatch⟩ := match?_step opened token
    · rw [hmatch] at h
      obtain rfl := Option.some.inj h
      exact hhead outermost hlast
    · exact ih (hlast' outermost hlast) ((hmatch ts).symm.trans h)

theorem mem_rawNames_of_rawName? {l : Lexeme} {name : Text} (h : l.rawName? = some name) :
    name ∈ rawNames := by
  cases l with
  | opening tag =>
    simp only [Lexeme.rawName?, OpenTag.opensRaw, Option.ite_none_right_eq_some, Bool.and_eq_true,
      List.contains_iff_mem] at h
    obtain ⟨⟨-, hmem⟩, hname⟩ := h
    exact Option.some.inj hname ▸ hmem
  | closing tag => cases h
  | comment body ended => cases h
  | declaration body ended => cases h

theorem not_mem_of_rawName? {l : Lexeme} {name : Text} (h : l.rawName? = some name) :
    '>' ∉ '<' :: '/' :: name := by
  have hraw : ∀ name ∈ rawNames, '>' ∉ '<' :: '/' :: name := by decide
  exact hraw name (mem_rawNames_of_rawName? h)

/-- The raw content of a tag is the same in a document that ends with a `>` somewhere after it. -/
theorem Lexeme.splitRaw_beginning {l : Lexeme} {rest s t : Text}
    (h : (l.splitRaw rest).2 = s ++ t) (hs : s.getLast? = some '>') :
    l.splitRaw ((l.splitRaw rest).1 ++ s) = ((l.splitRaw rest).1, s) := by
  cases hraw : l.rawName? with
  | none => simp [splitRaw, hraw]
  | some name =>
    simp only [splitRaw, hraw] at h ⊢
    cases hbreak : breakOn? ('<' :: '/' :: name) rest with
    | none =>
      simp only [hbreak, Option.getD_none] at h
      obtain ⟨rfl, -⟩ := List.append_eq_nil_iff.mp h.symm
      cases hs
    | some parts =>
      obtain ⟨raw, after⟩ := parts
      simp only [hbreak, Option.getD_some] at h ⊢
      subst h
      obtain ⟨rfl, hneedle⟩ := eq_append_of_breakOn? hbreak
      -- the closing tag's name comes before a `>`, so it lies in `s`
      have hin : '<' :: '/' :: name <+: s := by
        rcases List.prefix_or_prefix_of_prefix hneedle (List.prefix_append s t) with hin | hin
        · exact hin
        · exact absurd (hin.subset (List.mem_of_getLast? hs)) (not_mem_of_rawName? hraw)
      have hbreak' := breakOn?_replace hin hbreak []
      rw [List.append_nil] at hbreak'
      rw [hbreak', Option.getD_some]

/-- A lexeme that has ended is the only token of its own text. -/
theorem place_text {cs rest : Text} {lexeme : Lexeme}
    (hread : Lexeme.read? cs = some (lexeme, rest)) (hended : lexeme.isEnded = true) (n : Nat) :
    place n (items lexeme.text) = [⟨n, lexeme⟩] := by
  have hread' := Lexeme.read?_replace hread hended []
  rw [List.append_nil] at hread'
  have hsplit : (lexeme.splitRaw []).2 = [] :=
    List.length_eq_zero_iff.mp (Nat.le_zero.mp (lexeme.length_splitRaw_le []))
  rw [place_of_read? n hread', hsplit, items_nil, place]

/-- A lexeme with anything to read after it has ended. -/
theorem Lexeme.isEnded_of_ne_nil {cs rest : Text} {lexeme : Lexeme}
    (hread : Lexeme.read? cs = some (lexeme, rest)) (h : (lexeme.splitRaw rest).2 ≠ []) :
    lexeme.isEnded = true := by
  by_contra hnot
  rw [Bool.not_eq_true] at hnot
  have hlength := lexeme.length_splitRaw_le rest
  rw [Lexeme.rest_eq_nil_of_not_isEnded hread hnot, List.length_nil] at hlength
  rw [Lexeme.rest_eq_nil_of_not_isEnded hread hnot] at h
  exact h (List.length_eq_zero_iff.mp (Nat.le_zero.mp hlength))

/-- The tokens that complete an element are those of the text up to its end. -/
theorem match?_beginning {cs : Text} {n : Nat} {opened : List Head} {bounds : Bounds}
    (h : Bounds.match? opened (place n (items cs)) = some bounds) :
    ∃ s t later, cs = s ++ t ∧ s.getLast? = some '>' ∧ bounds.stop = n + s.size ∧
      place n (items cs) = place n (items s) ++ later ∧
      Bounds.match? opened (place n (items s)) = some bounds := by
  induction cs using items.induct generalizing n opened with
  | case1 =>
    rw [items_nil] at h
    cases h
  | case2 c cs lexeme rest hread ih =>
    have hcs := Lexeme.eq_append_of_read? hread
    rw [place_of_read? n hread] at h ⊢
    obtain ⟨completed, hended, hstop, -, hmatch⟩ | ⟨opened', -, hmatch⟩ :=
      match?_step opened ⟨n, lexeme⟩
    · rw [hmatch] at h
      obtain rfl := Option.some.inj h
      have hplace := place_text hread hended n
      refine ⟨lexeme.text, rest, place (n + lexeme.text.size + (lexeme.splitRaw rest).1.size)
        (items (lexeme.splitRaw rest).2), hcs, Lexeme.getLast?_text hended, hstop, ?_, ?_⟩
      · rw [hplace]
        rfl
      · rw [hplace, hmatch]
    · rw [hmatch] at h
      obtain ⟨s, t, later, hs, hlast, hstop, hplace, hrest⟩ := ih h
      have hne : s ≠ [] := by
        rintro rfl
        cases hlast
      have hended : lexeme.isEnded = true :=
        Lexeme.isEnded_of_ne_nil hread (by simp [hs, hne])
      have hsplit := Lexeme.splitRaw_beginning hs hlast
      have hread' := Lexeme.read?_replace hread hended ((lexeme.splitRaw rest).1 ++ s)
      have hplace' := place_of_read? n hread'
      rw [hsplit] at hplace'
      refine ⟨lexeme.text ++ ((lexeme.splitRaw rest).1 ++ s), t, later, ?_, ?_, ?_, ?_, ?_⟩
      · rw [hcs, List.append_assoc, List.append_assoc, ← hs, lexeme.splitRaw_append]
      · rw [← List.append_assoc, getLast?_append_of_ne_nil hne, hlast]
      · rw [hstop, size_append, size_append]
        omega
      · rw [hplace, hplace', List.cons_append]
      · rw [hplace', hmatch, hrest]
  | case3 c cs hread ih =>
    rw [items_cons_of_read? hread, place] at h ⊢
    obtain ⟨s, t, later, rfl, hlast, hstop, hplace, hrest⟩ := ih h
    have hread' : Lexeme.read? (c :: s) = none :=
      Lexeme.read?_eq_none_of_append (t := t) hread
    refine ⟨c :: s, t, later, rfl, ?_, ?_, ?_, ?_⟩
    · rw [List.getLast?_cons, hlast]
      rfl
    · rw [hstop, size_cons, Nat.add_assoc]
    · rw [items_cons_of_read? hread', place, hplace]
    · rw [items_cons_of_read? hread', place, hrest]

/-! ### Offsets moved on -/

def Head.shift (n : Nat) (head : Head) : Head := { head with start := head.start + n }

def Token.shift (n : Nat) (token : Token) : Token := { token with start := token.start + n }

def Range.shift (n : Nat) (range : Range) : Range := ⟨range.start + n, range.stop + n⟩

def Closing.shift (n : Nat) : Closing → Closing
  | .explicit range => .explicit (range.shift n)
  | .selfClosing range => .selfClosing (range.shift n)
  | .void => .void

def Bounds.shift (n : Nat) (bounds : Bounds) : Bounds :=
  ⟨bounds.head.shift n, bounds.closing.shift n⟩

def PlacedAttribute.shift (n : Nat) (a : PlacedAttribute) : PlacedAttribute :=
  { a with start := a.start + n }

theorem Head.stop_shift (n : Nat) (head : Head) : (head.shift n).stop = head.stop + n := by
  rw [stop_eq, stop_eq]
  exact Nat.add_right_comm head.start n _

theorem Token.stop_shift (n : Nat) (token : Token) : (token.shift n).stop = token.stop + n := by
  rw [stop, stop]
  exact Nat.add_right_comm token.start n _

theorem Bounds.stop_shift (n : Nat) (bounds : Bounds) :
    (bounds.shift n).stop = bounds.stop + n := by
  obtain ⟨head, closing⟩ := bounds
  cases closing with
  | explicit range => rfl
  | selfClosing range => rfl
  | void => exact head.stop_shift n

theorem place_shift (n m : Nat) (its : List Item) :
    place (m + n) its = (place m its).map (·.shift n) := by
  induction its generalizing m with
  | nil => rfl
  | cons item its ih =>
    cases item with
    | plain c => rw [place, place, Nat.add_right_comm, ih]
    | tag lexeme =>
      rw [place, place, Nat.add_right_comm, ih]
      rfl

theorem Bounds.alone?_shift (n : Nat) (head : Head) :
    alone? (head.shift n) = (alone? head).map (·.shift n) := by
  have hdelimiter : 1 ≤ head.tag.delimiter.size := by
    rw [OpenTag.delimiter]
    split <;> decide
  have hstop : 2 ≤ head.stop := by
    rw [Head.stop, Head.delimiterStart, Head.nameEnd, Head.nameStart]
    omega
  have hslash : (head.shift n).stop - 2 = head.stop - 2 + n := by
    rw [head.stop_shift]
    omega
  have htag : (head.shift n).tag = head.tag := rfl
  rw [alone?, alone?, htag]
  split
  · rw [hslash, head.stop_shift]
    rfl
  · split <;> rfl

def Head.move (f : Nat → Nat) (head : Head) : Head := head.shift (f head.start)

def Token.move (f : Nat → Nat) (token : Token) : Token := token.shift (f token.start)

/-- An element whose tags are moved on, each by as many bytes as its own offset says. -/
def Bounds.move (f : Nat → Nat) (bounds : Bounds) : Bounds where
  head := bounds.head.move f
  closing :=
    match bounds.closing with
    | .explicit range => .explicit (range.shift (f range.start))
    | .selfClosing range => .selfClosing (range.shift (f bounds.head.start))
    | .void => .void

theorem Bounds.move_const (n : Nat) (bounds : Bounds) :
    bounds.move (fun _ => n) = bounds.shift n := by
  obtain ⟨head, closing⟩ := bounds
  cases closing <;> rfl

theorem Bounds.move_of_alone? {f : Nat → Nat} {head : Head} {bounds : Bounds}
    (h : alone? head = some bounds) : bounds.move f = bounds.shift (f head.start) := by
  rw [alone?] at h
  split at h
  · obtain rfl := Option.some.inj h
    rfl
  · split at h
    · obtain rfl := Option.some.inj h
      rfl
    · cases h

/-- Elements are paired the same at offsets that are moved on. -/
theorem match?_move (f : Nat → Nat) (opened : List Head) (ts : List Token) :
    Bounds.match? (opened.map (·.move f)) (ts.map (·.move f)) =
      (Bounds.match? opened ts).map (·.move f) := by
  induction ts generalizing opened with
  | nil => rfl
  | cons token ts ih =>
    obtain ⟨start, lexeme⟩ := token
    rw [List.map_cons]
    cases lexeme with
    | opening tag =>
      have hshift := Bounds.alone?_shift (f start) ⟨start, tag⟩
      cases halone : Bounds.alone? ⟨start, tag⟩ with
      | none =>
        rw [halone] at hshift
        rw [match?_open halone, ← ih]
        exact match?_open hshift
      | some bounds =>
        rw [halone] at hshift
        cases opened with
        | nil =>
          rw [match?_alone_nil halone, Option.map_some, Bounds.move_of_alone? halone]
          exact match?_alone_nil hshift
        | cons head opened =>
          rw [match?_alone halone, ← ih]
          exact match?_alone hshift
    | closing tag =>
      have hdrop : (opened.map (·.move f)).dropWhile (fun head => head.name != tag.name) =
          (opened.dropWhile (fun head => head.name != tag.name)).map (·.move f) := by
        rw [List.dropWhile_map]
        rfl
      simp only [Bounds.match?, Token.move, Token.shift, hdrop]
      cases opened.dropWhile (fun head => head.name != tag.name) with
      | nil => exact ih opened
      | cons head outer =>
        cases outer with
        | nil =>
          rw [List.map_cons, List.map_nil]
          have hstop := Token.stop_shift (f start) ⟨start, .closing tag⟩
          rw [Token.shift] at hstop
          simp [Bounds.move, Range.shift, hstop]
        | cons first outer => exact ih (first :: outer)
    | comment body ended => exact ih opened
    | declaration body ended => exact ih opened

theorem match?_shift (n : Nat) (opened : List Head) (ts : List Token) :
    Bounds.match? (opened.map (·.shift n)) (ts.map (·.shift n)) =
      (Bounds.match? opened ts).map (·.shift n) := by
  have hmove := match?_move (fun _ => n) opened ts
  rwa [funext (Bounds.move_const n)] at hmove

theorem HeadPart.place_shift (n m : Nat) (parts : List HeadPart) :
    place (m + n) parts = (place m parts).map (·.shift n) := by
  induction parts generalizing m with
  | nil => rfl
  | cons part parts ih =>
    cases part with
    | filler text => rw [place, place, Nat.add_right_comm, ih]
    | attr a =>
      rw [place, place, Nat.add_right_comm, ih]
      rfl

theorem Head.attributes_shift (n : Nat) (head : Head) :
    (head.shift n).attributes = head.attributes.map (·.shift n) := by
  have hname : (head.shift n).nameEnd = head.nameEnd + n := by
    show head.start + n + 1 + head.tag.name.size = head.start + 1 + head.tag.name.size + n
    omega
  rw [attributes, attributes, hname]
  exact HeadPart.place_shift n head.nameEnd _

/-! ### The text of a located element -/

/-- The first element of tokens that begin with an opening tag is the element of that tag. -/
theorem match?_opening {ts : List Token} {head : Head} {bounds : Bounds}
    (h : Bounds.match? [] (⟨head.start, .opening head.tag⟩ :: ts) = some bounds) :
    bounds.head = head ∧ ((∃ range, bounds.closing = .explicit range) ∨
      bounds.stop = head.stop ∧ ∀ range, bounds.closing ≠ .explicit range) := by
  cases halone : Bounds.alone? head with
  | none =>
    rw [match?_open halone] at h
    obtain ⟨token, -, -, -, -, hclosing⟩ := endsIn_of_match? List.getLast?_singleton h
    exact ⟨head_of_match? rfl h, .inl ⟨_, hclosing⟩⟩
  | some completed =>
    rw [match?_alone_nil halone] at h
    obtain rfl := Option.some.inj h
    obtain ⟨hhead, hstop, hclosing⟩ := Bounds.of_alone? halone
    exact ⟨hhead, .inr ⟨hstop, hclosing⟩⟩

/-- A located element is the first one that is completed from its opening tag on. -/
theorem exists_bounds_of_spanOf? {before after : Text} {head : Head} {span : Span}
    (hstart : head.start = before.size)
    (hread : Lexeme.read? (head.tag.text ++ after) = some (.opening head.tag, after))
    (h : spanOf? (before ++ (head.tag.text ++ after)) head = some span) :
    ∃ bounds, Bounds.match? [] (place head.start (items (head.tag.text ++ after))) = some bounds ∧
      bounds.head = head ∧ span.head = head ∧ span.stop = bounds.stop := by
  have hplace := place_of_read? head.start hread
  rw [spanOf?] at h
  split at h
  · next hself =>
    obtain rfl := Option.some.inj h
    have halone : Bounds.alone? head =
        some ⟨head, .selfClosing ⟨head.stop - 2, head.stop⟩⟩ := by
      rw [Bounds.alone?, if_pos hself]
    refine ⟨⟨head, .selfClosing ⟨head.stop - 2, head.stop⟩⟩, ?_, rfl, rfl, rfl⟩
    rw [hplace]
    exact match?_alone_nil halone
  · obtain ⟨bounds, hbounds, hspan⟩ := Option.map_eq_some_iff.mp h
    rw [elementOf?, hstart, elementFrom?_append, Option.join_some, ← hstart] at hbounds
    have hmatch := hbounds
    rw [hplace] at hmatch
    obtain ⟨hhead, hclosing⟩ := match?_opening hmatch
    refine ⟨bounds, hbounds, hhead, ?_⟩
    obtain ⟨range, hrange⟩ | ⟨hstop, hnot⟩ := hclosing
    · rw [hrange] at hspan
      obtain rfl := hspan
      exact ⟨rfl, by rw [Bounds.stop, hrange]; rfl⟩
    · rw [hstop]
      split at hspan
      · next range hrange => exact absurd hrange (hnot range)
      · obtain rfl := hspan
        exact ⟨rfl, rfl⟩
      · obtain rfl := hspan
        exact ⟨rfl, rfl⟩

theorem head_of_locate {doc : Text} {selector : Selector} {span : Span}
    (h : locate doc selector = .ok span) :
    ∃ head, Reads 0 doc ⟨head.start, .opening head.tag⟩ ∧ spanOf? doc head = some span := by
  unfold locate at h
  split at h
  · cases h
  · split at h
    · next found hfound =>
      obtain ⟨head, hhead, hspan⟩ := Option.bind_eq_some_iff.mp hfound
      obtain rfl := Except.ok.inj h
      exact ⟨head, reads_of_findHead? hhead, hspan⟩
    · cases h

/-- The text up to the end of an element, whose tokens are those of the element from offset zero
on. -/
theorem exists_excerpt {head : Head} {after : Text} {completed : Bounds}
    (hread : Lexeme.read? (head.tag.text ++ after) = some (.opening head.tag, after))
    (h : Bounds.match? [] (place head.start (items (head.tag.text ++ after))) = some completed) :
    ∃ code t bounds later, head.tag.text ++ after = code ++ t ∧
      tokens code = ⟨0, .opening head.tag⟩ :: later ∧ bounds.head = ⟨0, head.tag⟩ ∧
      Bounds.match? [] (tokens code) = some bounds ∧ completed = bounds.shift head.start ∧
      bounds.stop = code.size := by
  obtain ⟨code, t, later, hcode, -, hstop, hplace, hmatch⟩ := match?_beginning h
  have hshift : place head.start (items code) = (tokens code).map (·.shift head.start) := by
    rw [tokens, ← place_shift, Nat.zero_add]
  rw [hshift] at hplace hmatch
  obtain ⟨bounds, hbounds, rfl⟩ : ∃ bounds, Bounds.match? [] (tokens code) = some bounds ∧
      bounds.shift head.start = completed :=
    Option.map_eq_some_iff.mp ((match?_shift head.start [] (tokens code)).symm.trans hmatch)
  obtain ⟨first, inside, htokens⟩ : ∃ first inside, tokens code = first :: inside := by
    apply List.exists_cons_of_ne_nil
    intro hnil
    rw [hnil] at hbounds
    cases hbounds
  obtain rfl : first = ⟨0, .opening head.tag⟩ := by
    rw [place_of_read? head.start hread, htokens, List.map_cons, List.cons_append] at hplace
    obtain ⟨start, lexeme⟩ := first
    obtain ⟨hstart, rfl⟩ := Token.mk.inj (List.cons.inj hplace).1
    have hzero : head.start = start + head.start := hstart
    obtain rfl : start = 0 := by omega
    rfl
  have hhead : bounds.head = ⟨0, head.tag⟩ := by
    have hfirst := hbounds
    rw [htokens] at hfirst
    exact (match?_opening hfirst).1
  refine ⟨code, t, bounds, inside, hcode, htokens, hhead, hbounds, rfl, ?_⟩
  rw [bounds.stop_shift] at hstop
  omega

theorem elementFrom?_zero (code : Text) :
    elementFrom? code 0 = some (Bounds.match? [] (tokens code)) :=
  elementFrom?_append [] code

/-- An element that begins a text is located by its name. -/
theorem locate_name {code : Text} {bounds : Bounds} {later : List Token}
    (hname : IsTagName bounds.head.name)
    (htokens : tokens code = ⟨0, .opening bounds.head.tag⟩ :: later)
    (hstart : bounds.head.start = 0) (hmatch : Bounds.match? [] (tokens code) = some bounds) :
    ∃ span, locate code (.tag bounds.head.name) = .ok span ∧ span.head = bounds.head ∧
      span.stop = bounds.stop := by
  have hfault : (Selector.tag bounds.head.name).fault? = none := by
    obtain ⟨c, cs, hcons, hc, -⟩ := hname
    rw [Selector.fault?, hcons, isWhite, List.all_cons, isSpace_eq_false_of_isAlpha hc]
    rfl
  have hhead : (⟨0, bounds.head.tag⟩ : Head) = bounds.head := by rw [← hstart]
  have hfind : (Selector.tag bounds.head.name).findHead? code = some bounds.head := by
    change (heads code).find? (fun head => head.name == bounds.head.name) = _
    rw [heads, htokens, List.filterMap_cons_some (b := bounds.head) (by rw [← hhead]; rfl),
      List.find?_cons_of_pos]
    exact beq_self_eq_true bounds.head.name
  have hoffset : elementFrom? code bounds.head.start = some (some bounds) := by
    rw [hstart, elementFrom?_zero, hmatch]
  obtain ⟨span, hspan⟩ : ∃ span, spanOf? code bounds.head = some span := by
    rw [spanOf?]
    split
    · exact ⟨_, rfl⟩
    · rw [elementOf?, hoffset]
      exact ⟨_, rfl⟩
  have hreads : Reads 0 code ⟨0, .opening bounds.head.tag⟩ :=
    reads_of_mem_place (by rw [← tokens, htokens]; exact List.mem_cons_self)
  obtain ⟨before, rest, after, rfl, hbefore, hread⟩ := hreads
  have hzero : bounds.head.start = before.size := by simpa [hstart] using hbefore
  obtain rfl : rest = bounds.head.tag.text ++ after := Lexeme.eq_append_of_read? hread
  obtain ⟨found, hfound, -, hspanHead, hspanStop⟩ := exists_bounds_of_spanOf? hzero hread hspan
  obtain rfl : bounds = found := by
    rw [hzero, elementFrom?_append, ← hzero, hfound] at hoffset
    exact (Option.some.inj (Option.some.inj hoffset)).symm
  refine ⟨span, ?_, hspanHead, hspanStop⟩
  rw [locate, hfault, hfind, Option.bind_some, hspan]

/-- The text of a located element, read by itself, is that element: its opening tag begins the
text, with the same attributes, its end is the end of the text, and it is located there by its
name. All offsets in the text are those in the document less the offset of the element. -/
theorem locate_excerpt {doc : Text} {selector : Selector} {span : Span}
    (h : locate doc selector = .ok span) :
    ∃ code bounds, doc.slice? span.head.start span.stop = some code ∧
      ((Draft.ofText doc).select selector).elementText = .ok code ∧
      headAt? doc span.head.start = some span.head ∧
      elementFrom? doc span.head.start = some (some (bounds.shift span.head.start)) ∧
      headAt? code 0 = some bounds.head ∧
      span.head = bounds.head.shift span.head.start ∧
      span.head.attributes = bounds.head.attributes.map (·.shift span.head.start) ∧
      elementFrom? code 0 = some (some bounds) ∧ bounds.stop = code.size ∧
      ∃ whole, locate code (.tag span.head.name) = .ok whole ∧ whole.head.start = 0 ∧
        whole.stop = code.size := by
  obtain ⟨head, ⟨before, rest, after, hdoc, hbefore, hread⟩, hspan⟩ := head_of_locate h
  have hstart : head.start = before.size := by simpa using hbefore
  obtain rfl : rest = head.tag.text ++ after := Lexeme.eq_append_of_read? hread
  rw [hdoc] at hspan
  obtain ⟨completed, hmatch, -, rfl, hstop⟩ := exists_bounds_of_spanOf? hstart hread hspan
  obtain ⟨code, t, bounds, later, hcode, htokens, hhead, hbounds, rfl, hend⟩ :=
    exists_excerpt hread hmatch
  have hcut : doc = before ++ (code ++ t) := by rw [hdoc, hcode]
  have hlast : span.stop = before.size + code.size := by
    rw [hstop, bounds.stop_shift, hend, hstart, Nat.add_comm]
  have hshift : span.head = bounds.head.shift span.head.start := by
    rw [hhead, Head.shift, Nat.zero_add]
  have hname : IsTagName bounds.head.name := by
    rw [hhead]
    exact Lexeme.isTagName_of_read? hread
  have hmem : ⟨0, .opening span.head.tag⟩ ∈ tokens code := by
    rw [htokens]
    exact List.mem_cons_self
  obtain ⟨whole, hwhole, hwholeHead, hwholeStop⟩ := locate_name hname
    (htokens.trans (by rw [hhead])) (by rw [hhead]) hbounds
  refine ⟨code, bounds, slice?_of_eq hcut hstart hlast, ?_, ?_, ?_, ?_, hshift, ?_, ?_, hend,
    whole, ?_, ?_, ?_⟩
  · have hlocate : ((Draft.ofText doc).select selector).locate = .ok span := by
      rw [Draft.locate]
      simp only [Draft.select, Draft.ofText, h]
      rfl
    have hslice : doc.slice span.head.start span.stop = code := slice_of_eq hcut hstart hlast
    rw [Draft.elementText, hlocate]
    exact congrArg Except.ok hslice
  · rw [headAt?, hdoc, hstart, tokenAt?_append before hread, ← hstart]
    rfl
  · rw [hdoc, hstart, elementFrom?_append, ← hstart, hmatch]
  · rw [headAt?, tokenAt?_of_mem hmem, hhead]
    rfl
  · rw [← bounds.head.attributes_shift, ← hshift]
  · rw [elementFrom?_zero, hbounds]
  · rw [← hwhole, hhead]
    rfl
  · rw [hwholeHead, hhead]
  · rw [hwholeStop, hend]

/-- An element with a stray `<` before it, a `>` in a value and an unclosed tag inside. -/
theorem locate_excerpt_unclosed :
    ∃ code bounds, slice? "a < <p x='>'><i></p></p>".toList 4 20 = some code ∧
      headAt? code 0 = some bounds.head ∧
      bounds.head.shift 4 = ⟨4, ⟨['p'], " x='>'".toList, false⟩⟩ ∧
      elementFrom? code 0 = some (some bounds) ∧ bounds.stop = code.size := by
  have hlocate : locate "a < <p x='>'><i></p></p>".toList (.tag ['p']) =
      .ok ⟨⟨4, ⟨['p'], " x='>'".toList, false⟩⟩, some ⟨16, 20⟩⟩ := by
    decide +kernel
  obtain ⟨code, bounds, hslice, -, -, -, hread, hshift, -, helement, hstop, -⟩ :=
    locate_excerpt hlocate
  exact ⟨code, bounds, hslice, hread, hshift.symm, helement, hstop⟩

end Graft.Markup
