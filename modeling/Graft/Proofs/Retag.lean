import Graft.Proofs.Excerpt
import Graft.Proofs.Quoting

/-! A document in which an opening tag is written anew, with the name that it has and self-closing
or not as it is. Where the tags that begin before it have ended, all other tokens stay as they are,
and a selector that locates the tag locates the new one in its place. -/

namespace Graft.Markup

open Text

/-! ### The text before a tag -/

/-- A text that begins with the `<` and the first letter of a tag, and holds a `>`. -/
def BeginsTag (t : Text) : Prop := ∃ c cs, t = '<' :: c :: cs ∧ c.isAlpha = true ∧ '>' ∈ cs

theorem beginsTag_of_read? {tag : OpenTag} {cs rest : Text}
    (h : Lexeme.read? cs = some (.opening tag, rest)) : BeginsTag cs := by
  obtain ⟨c, letters, hname, hc, -⟩ := Lexeme.isTagName_of_read? h
  have hcs : cs = tag.text ++ rest := Lexeme.eq_append_of_read? h
  refine ⟨c, letters ++ tag.inner ++ tag.delimiter ++ rest, ?_, hc, ?_⟩
  · rw [hcs, OpenTag.text, hname]
    simp
  · unfold OpenTag.delimiter
    split <;> simp

/-- No tag of the text `before` is left to end in the `rest`: the tokens come to an end between the
two, and a `<` that a letter follows begins one of them. -/
inductive EndsBefore (rest : Text) : Text → Prop
  | nil : EndsBefore rest []
  | plain {c : Char} {before : Text} : Lexeme.read? (c :: (before ++ rest)) = none →
      (c = '<' → ∀ d ∈ (before ++ rest).head?, d.isAlpha = false) →
      EndsBefore rest before → EndsBefore rest (c :: before)
  | lexeme {l : Lexeme} {raw before : Text} :
      Lexeme.read? (l.text ++ (raw ++ (before ++ rest))) = some (l, raw ++ (before ++ rest)) →
      l.splitRaw (raw ++ (before ++ rest)) = (raw, before ++ rest) →
      EndsBefore rest before → EndsBefore rest (l.text ++ (raw ++ before))

theorem isSome_readClosing? {c : Char} {t : Text} (hc : c.isAlpha = true) (h : '>' ∈ t) :
    (Lexeme.readClosing? (c :: t)).isSome = true := by
  have hmem : '>' ∈ t.dropWhile isNameChar := by
    rw [← List.takeWhile_append_dropWhile (p := isNameChar) (l := t), List.mem_append] at h
    exact h.resolve_left fun hname => absurd (List.mem_takeWhile_imp hname) (by decide)
  cases hbreak : breakOn? ['>'] (t.dropWhile isNameChar) with
  | none => exact absurd hmem (not_mem_of_breakOn?_eq_none hbreak)
  | some parts => simp [Lexeme.readClosing?, readName?, hc, hbreak]

theorem isSome_read?_mark {mark : Char} (h : mark = '!' ∨ mark = '?') (t : Text) :
    (Lexeme.read? ('<' :: mark :: t)).isSome = true := by
  obtain rfl | rfl := h
  · by_cases hdash : ['-', '-'] <+: t
    · obtain ⟨after, rfl⟩ := hdash
      rfl
    · rw [read?_bang hdash]
      rfl
  · rfl

theorem BeginsTag.eq_cons {rest before tail : Text} {c : Char} (hrest : BeginsTag rest)
    (hc : c ≠ '<') (h : before ++ rest = c :: tail) :
    ∃ front, before = c :: front ∧ tail = front ++ rest := by
  obtain ⟨c', cs', rfl, -⟩ := hrest
  cases before with
  | nil => exact absurd (List.cons.inj h).1.symm hc
  | cons d before =>
    obtain ⟨rfl, rfl⟩ := List.cons.inj h
    exact ⟨before, rfl, rfl⟩

/-- The raw content before a tag ends where it does before anything else. -/
theorem BeginsTag.splitRaw_replace {rest : Text} (hrest : BeginsTag rest) {l : Lexeme}
    {raw before : Text} (h : l.splitRaw (raw ++ (before ++ rest)) = (raw, before ++ rest))
    (rest' : Text) : l.splitRaw (raw ++ (before ++ rest')) = (raw, before ++ rest') := by
  cases hraw : l.rawName? with
  | none =>
    simp only [Lexeme.splitRaw, hraw, Prod.mk.injEq] at h ⊢
    obtain rfl := h.1
    exact ⟨rfl, rfl⟩
  | some name =>
    simp only [Lexeme.splitRaw, hraw] at h ⊢
    have hname : '<' ∉ '/' :: name := by
      have hall : ∀ name ∈ rawNames, '<' ∉ '/' :: name := by decide
      exact hall name (mem_rawNames_of_rawName? hraw)
    obtain ⟨c, cs, rfl, hc, -⟩ := hrest
    cases hbreak : breakOn? ('<' :: '/' :: name) (raw ++ (before ++ '<' :: c :: cs)) with
    | none => simp [hbreak] at h
    | some parts =>
      rw [hbreak, Option.getD_some] at h
      obtain rfl := h
      obtain ⟨-, hneedle⟩ := eq_append_of_breakOn? hbreak
      -- the closing tag's name holds no `<`, so it ends before the tag begins
      have hin : '<' :: '/' :: name <+: before := by
        rcases List.prefix_or_prefix_of_prefix hneedle (List.prefix_append before _) with hin | hin
        · exact hin
        · obtain ⟨m, hm⟩ := hin
          rw [← hm, List.prefix_append_right_inj] at hneedle
          cases m with
          | nil => exact ⟨[], by rw [List.append_nil, ← hm, List.append_nil]⟩
          | cons d m =>
            obtain ⟨rfl, htail⟩ := List.cons_prefix_cons.mp hneedle
            cases before with
            | nil =>
              rw [(List.cons.inj hm).2] at htail
              obtain ⟨rfl, -⟩ := List.cons_prefix_cons.mp htail
              cases hc
            | cons e before =>
              have hmem : '<' ∈ '/' :: name := by
                rw [← (List.cons.inj hm).2]
                simp
              exact absurd hmem hname
      rw [breakOn?_replace hin hbreak, Option.getD_some]

section Replace

variable {rest rest' : Text} (hrest : BeginsTag rest) (hrest' : BeginsTag rest')

include hrest hrest'

/-- Before one tag as before another, the text goes on with the same character. -/
theorem head?_append_beginsTag (before : Text) :
    (before ++ rest').head? = (before ++ rest).head? := by
  obtain ⟨c, cs, rfl, -⟩ := hrest
  obtain ⟨c', cs', rfl, -⟩ := hrest'
  exact head?_append_cons before '<' (c :: cs) (c' :: cs')

theorem read?_eq_none_replace {c : Char} {before : Text}
    (hletter : c = '<' → ∀ d ∈ (before ++ rest).head?, d.isAlpha = false)
    (h : Lexeme.read? (c :: (before ++ rest)) = none) :
    Lexeme.read? (c :: (before ++ rest')) = none := by
  cases hread : Lexeme.read? (c :: (before ++ rest')) with
  | none => rfl
  | some parts =>
    obtain ⟨l, after⟩ := parts
    exfalso
    obtain ⟨tail, hcs, hclosing⟩ | ⟨tail, hcs, -⟩ | ⟨mark, tail, hcs, hmark, -⟩ |
      ⟨tail, hcs, hopening⟩ := Lexeme.read?_cases hread
    · obtain ⟨rfl, htail⟩ := List.cons.inj hcs
      obtain ⟨front, rfl, rfl⟩ := hrest'.eq_cons (by decide) htail
      simp only [Lexeme.readClosing?, Option.bind_eq_bind, Option.bind_eq_some_iff] at hclosing
      obtain ⟨⟨name, later⟩, hname, -⟩ := hclosing
      obtain ⟨⟨e, letters, rfl, he, -⟩, -⟩ := isTagName_of_readName? hname
      obtain ⟨hfront, -⟩ := eq_append_of_readName? hname
      have hne : e ≠ '<' := by
        rintro rfl
        cases he
      obtain ⟨front, rfl, -⟩ := hrest'.eq_cons hne hfront
      obtain ⟨d, ds, rfl, -, hend⟩ := hrest
      have hsome := isSome_readClosing? (t := front ++ '<' :: d :: ds) he (by simp [hend])
      have hnone : Lexeme.readClosing? (e :: (front ++ '<' :: d :: ds)) = none := h
      rw [hnone] at hsome
      cases hsome
    · obtain ⟨rfl, htail⟩ := List.cons.inj hcs
      obtain ⟨front, rfl, -⟩ := hrest'.eq_cons (by decide) htail
      have hsome := isSome_read?_mark (.inl rfl) (front ++ rest)
      rw [List.cons_append] at h
      rw [h] at hsome
      cases hsome
    · obtain ⟨rfl, htail⟩ := List.cons.inj hcs
      have hmark : mark = '!' ∨ mark = '?' := hmark.imp And.left id
      have hne : mark ≠ '<' := by
        rintro rfl
        simp at hmark
      obtain ⟨front, rfl, -⟩ := hrest'.eq_cons hne htail
      have hsome := isSome_read?_mark hmark (front ++ rest)
      rw [List.cons_append] at h
      rw [h] at hsome
      cases hsome
    · obtain ⟨rfl, htail⟩ := List.cons.inj hcs
      obtain ⟨d, inner, -, hd, hread⟩ := Lexeme.readOpening?_replace hopening
      simp only [Lexeme.readOpening?, Option.bind_eq_bind, Option.bind_eq_some_iff] at hopening
      obtain ⟨⟨name, later⟩, hname, -⟩ := hopening
      obtain ⟨⟨e, letters, rfl, he, -⟩, -⟩ := isTagName_of_readName? hname
      have htail' := (eq_append_of_readName? hname).1
      have hhead : e ∈ (before ++ rest).head? := by
        rw [← head?_append_beginsTag hrest hrest', htail, htail']
        rfl
      rw [hletter rfl e hhead] at he
      cases he

end Replace

/-- The tokens before a tag are the same before another one. -/
theorem EndsBefore.exists_front {rest rest' before : Text} (h : EndsBefore rest before)
    (hrest : BeginsTag rest) (hrest' : BeginsTag rest') (n : Nat) :
    ∃ front : List Token, (∀ token ∈ front, token.start < n + before.size) ∧
      place n (items (before ++ rest)) = front ++ place (n + before.size) (items rest) ∧
      place n (items (before ++ rest')) = front ++ place (n + before.size) (items rest') := by
  induction h generalizing n with
  | nil => exact ⟨[], by simp, rfl, rfl⟩
  | @plain c before hread hletter _ ih =>
    obtain ⟨front, hstart, hplace, hplace'⟩ := ih (n + c.utf8Size)
    rw [Nat.add_assoc, ← size_cons] at hstart hplace hplace'
    have hread' := read?_eq_none_replace hrest hrest' hletter hread
    refine ⟨front, hstart, ?_, ?_⟩
    · rw [List.cons_append, items_cons_of_read? hread, place, hplace]
    · rw [List.cons_append, items_cons_of_read? hread', place, hplace']
  | @lexeme l raw before hread hsplit _ ih =>
    obtain ⟨front, hstart, hplace, hplace'⟩ := ih (n + l.text.size + raw.size)
    have hsize : n + l.text.size + raw.size + before.size =
        n + (l.text ++ (raw ++ before)).size := by
      rw [size_append, size_append]
      omega
    have hended : l.isEnded = true := by
      refine Lexeme.isEnded_of_ne_nil hread ?_
      obtain ⟨c, cs, rfl, -⟩ := hrest
      simp [hsplit]
    have hsplit' := hrest.splitRaw_replace hsplit rest'
    have hread' := Lexeme.read?_replace hread hended (raw ++ (before ++ rest'))
    have hfirst := place_of_read? n hread
    have hfirst' := place_of_read? n hread'
    rw [hsplit] at hfirst
    rw [hsplit'] at hfirst'
    rw [hsize] at hstart hplace hplace'
    refine ⟨⟨n, l⟩ :: front, ?_, ?_, ?_⟩
    · intro token htoken
      rcases List.mem_cons.mp htoken with rfl | htoken
      · have hpos := size_pos l.text_ne_nil
        change n < n + (l.text ++ (raw ++ before)).size
        rw [size_append]
        omega
      · exact hstart token htoken
    · rw [List.append_assoc, List.append_assoc, hfirst, hplace, List.cons_append]
    · rw [List.append_assoc, List.append_assoc, hfirst', hplace', List.cons_append]

/-! ### The pairing of tags -/

theorem Bounds.isSome_alone? (head : Head) :
    (alone? head).isSome = (head.tag.selfClosing || head.tag.isVoid) := by
  rw [alone?]
  split
  · simp_all
  · split <;> simp_all

theorem Bounds.alone?_template {head : Head} (hname : head.tag.name = templateName)
    (hself : head.tag.selfClosing = false) : alone? head = none := by
  have hvoid : voidNames.contains templateName = false := by decide
  have hnone := isSome_alone? head
  rw [OpenTag.isVoid, hname, hself, hvoid] at hnone
  exact Option.isNone_iff_eq_none.mp (Option.isSome_eq_false_iff.mp hnone)

theorem isSome_match?_opening {tag tag' : OpenTag} {opened opened' : List Head} {start start' : Nat}
    {ts ts' : List Token} (hname : tag'.name = tag.name)
    (hself : tag'.selfClosing = tag.selfClosing)
    (hopened : opened.map Head.name = opened'.map Head.name)
    (h : ∀ {outer outer' : List Head}, outer.map Head.name = outer'.map Head.name →
      (Bounds.match? outer ts).isSome = (Bounds.match? outer' ts').isSome) :
    (Bounds.match? opened (⟨start, .opening tag⟩ :: ts)).isSome =
      (Bounds.match? opened' (⟨start', .opening tag'⟩ :: ts')).isSome := by
  have hsame : (Bounds.alone? ⟨start', tag'⟩).isSome = (Bounds.alone? ⟨start, tag⟩).isSome := by
    rw [Bounds.isSome_alone?, Bounds.isSome_alone?, OpenTag.isVoid, OpenTag.isVoid, hself, hname]
  cases halone : Bounds.alone? ⟨start, tag⟩ with
  | none =>
    have halone' : Bounds.alone? ⟨start', tag'⟩ = none := by simpa [halone] using hsame
    rw [match?_open halone, match?_open halone']
    exact h (by simp [Head.name, hname, hopened])
  | some bounds =>
    obtain ⟨bounds', halone'⟩ : ∃ bounds', Bounds.alone? ⟨start', tag'⟩ = some bounds' := by
      simpa [halone, Option.isSome_iff_exists] using hsame
    cases opened with
    | nil =>
      obtain rfl : opened' = [] := List.map_eq_nil_iff.mp hopened.symm
      rw [match?_alone_nil halone, match?_alone_nil halone']
      rfl
    | cons head opened =>
      cases opened' with
      | nil => cases hopened
      | cons head' opened' =>
        rw [match?_alone halone, match?_alone halone']
        exact h hopened

/-- Whether an element is completed depends only on the names of the open tags and on the lexemes
that follow. -/
theorem isSome_match?_congr {opened opened' : List Head} {ts ts' : List Token}
    (hopened : opened.map Head.name = opened'.map Head.name)
    (hts : ts.map Token.lexeme = ts'.map Token.lexeme) :
    (Bounds.match? opened ts).isSome = (Bounds.match? opened' ts').isSome := by
  induction ts generalizing opened opened' ts' with
  | nil =>
    obtain rfl : ts' = [] := List.map_eq_nil_iff.mp hts.symm
    rfl
  | cons token ts ih =>
    cases ts' with
    | nil => cases hts
    | cons token' ts' =>
      obtain ⟨start, lexeme⟩ := token
      obtain ⟨start', lexeme'⟩ := token'
      obtain ⟨hlexeme, hlater⟩ := List.cons.inj hts
      obtain rfl : lexeme = lexeme' := hlexeme
      have hskip := ih hopened hlater
      cases lexeme with
      | comment body ended => exact hskip
      | declaration body ended => exact hskip
      | opening tag =>
        refine isSome_match?_opening rfl rfl hopened fun h => ?_
        exact ih h hlater
      | closing tag =>
        have hdrop (heads : List Head) : (heads.map Head.name).dropWhile (· != tag.name) =
            (heads.dropWhile fun head => head.name != tag.name).map Head.name :=
          List.dropWhile_map
        have hleft := hdrop opened
        rw [hopened, hdrop opened'] at hleft
        rw [Bounds.match?, Bounds.match?]
        dsimp only
        cases hold : opened.dropWhile fun head => head.name != tag.name with
        | nil =>
          rw [hold] at hleft
          rw [List.map_eq_nil_iff.mp hleft]
          exact hskip
        | cons head outer =>
          rw [hold] at hleft
          cases hnew : opened'.dropWhile fun head => head.name != tag.name with
          | nil =>
            rw [hnew] at hleft
            cases hleft
          | cons head' outer' =>
            rw [hnew] at hleft
            have houter := (List.cons.inj hleft).2
            cases outer with
            | nil =>
              obtain rfl : outer' = [] := List.map_eq_nil_iff.mp houter
              rfl
            | cons first outer =>
              cases outer' with
              | nil => cases houter
              | cons first' outer' => exact ih houter.symm hlater

/-- Tokens without opening tags after one that is open close it, or leave it open. -/
theorem match?_of_no_heads (head : Head) {front : List Token}
    (hfront : front.filterMap Token.head? = []) :
    (∃ token ∈ front, ∀ ts, Bounds.match? [head] (front ++ ts) =
      some ⟨head, .explicit ⟨token.start, token.stop⟩⟩) ∨
    ∀ ts, Bounds.match? [head] (front ++ ts) = Bounds.match? [head] ts := by
  induction front with
  | nil => exact .inr fun ts => rfl
  | cons token front ih =>
    obtain ⟨start, lexeme⟩ := token
    have hlater : front.filterMap Token.head? = [] := by
      rw [List.filterMap_eq_nil_iff] at hfront ⊢
      exact fun token htoken => hfront token (List.mem_cons_of_mem _ htoken)
    have hskip (h : ∀ ts, Bounds.match? [head] (⟨start, lexeme⟩ :: front ++ ts) =
        Bounds.match? [head] (front ++ ts)) :
        (∃ token ∈ ⟨start, lexeme⟩ :: front, ∀ ts,
          Bounds.match? [head] (⟨start, lexeme⟩ :: front ++ ts) =
            some ⟨head, .explicit ⟨token.start, token.stop⟩⟩) ∨
        ∀ ts, Bounds.match? [head] (⟨start, lexeme⟩ :: front ++ ts) =
          Bounds.match? [head] ts := by
      rcases ih hlater with ⟨token, htoken, hmatch⟩ | hmatch
      · exact .inl ⟨token, List.mem_cons_of_mem _ htoken, fun ts => (h ts).trans (hmatch ts)⟩
      · exact .inr fun ts => (h ts).trans (hmatch ts)
    cases lexeme with
    | opening tag => simp [Token.head?] at hfront
    | comment body ended => exact hskip fun ts => rfl
    | declaration body ended => exact hskip fun ts => rfl
    | closing tag =>
      by_cases hname : head.name = tag.name
      · exact .inl ⟨_, List.mem_cons_self, fun ts => by simp [Bounds.match?, hname]⟩
      · exact hskip fun ts => by simp [Bounds.match?, hname]

/-! ### The tokens from one on -/

/-- The tokens from one of them on are those that are read from its offset. -/
theorem exists_of_place_append {n : Nat} {cs : Text} {front later : List Token} {token : Token}
    (h : place n (items cs) = front ++ token :: later) :
    ∃ before rest after, cs = before ++ rest ∧ token.start = n + before.size ∧
      Lexeme.read? rest = some (token.lexeme, after) ∧
      place token.start (items rest) = token :: later := by
  induction cs using items.induct generalizing n front with
  | case1 => simp [items_nil, place] at h
  | case2 c cs lexeme rest hread ih =>
    have hplace := place_of_read? n hread
    cases front with
    | nil =>
      have hfirst := (hplace.symm.trans h)
      obtain ⟨rfl, -⟩ := List.cons.inj hfirst
      exact ⟨[], c :: cs, rest, rfl, rfl, hread, h⟩
    | cons first front =>
      have hfirst := (hplace.symm.trans h)
      obtain ⟨-, hlater⟩ := List.cons.inj hfirst
      obtain ⟨before, rest', after, hrest, hstart, hread', hplace'⟩ := ih hlater
      refine ⟨lexeme.text ++ (lexeme.splitRaw rest).1 ++ before, rest', after, ?_, ?_, hread',
        hplace'⟩
      · rw [Lexeme.eq_append_of_read? hread, List.append_assoc, ← hrest, List.append_assoc,
          lexeme.splitRaw_append]
      · rw [hstart, size_append, size_append]
        omega
  | case3 c cs hread ih =>
    rw [items_cons_of_read? hread, place] at h
    obtain ⟨before, rest, after, rfl, hstart, hread', hplace⟩ := ih h
    exact ⟨c :: before, rest, after, rfl, by rw [hstart, size_cons, Nat.add_assoc], hread', hplace⟩

theorem elementOf?_of_tokens {doc : Text} {front later : List Token} {head : Head}
    (h : tokens doc = front ++ ⟨head.start, .opening head.tag⟩ :: later) :
    elementOf? doc head = Bounds.match? [] (⟨head.start, .opening head.tag⟩ :: later) := by
  obtain ⟨before, rest, after, rfl, hstart, -, hplace⟩ := exists_of_place_append h
  have hstart : head.start = before.size := by simpa using hstart
  rw [elementOf?, hstart, elementFrom?_append, Option.join_some, ← hstart]
  exact congrArg _ hplace

theorem heads_of_tokens {doc : Text} {front later : List Token} {start : Nat} {tag : OpenTag}
    (h : tokens doc = front ++ ⟨start, .opening tag⟩ :: later) :
    heads doc = front.filterMap Token.head? ++ ⟨start, tag⟩ :: later.filterMap Token.head? := by
  rw [heads, h, List.filterMap_append]
  rfl

theorem tokensFrom?_stop {doc : Text} {front later : List Token} {head : Head}
    (hraw : head.tag.opensRaw = false)
    (h : tokens doc = front ++ ⟨head.start, .opening head.tag⟩ :: later) :
    tokensFrom? doc head.stop = some later := by
  obtain ⟨before, rest, after, rfl, hstart, hread, hplace⟩ := exists_of_place_append h
  have hstart : head.start = before.size := by simpa using hstart
  have hrest : rest = head.tag.text ++ after := Lexeme.eq_append_of_read? hread
  have hstop : head.stop = (before ++ head.tag.text).size := by
    rw [Head.stop_eq, size_append, hstart]
  have hsplit : (Lexeme.opening head.tag).splitRaw after = ([], after) := by
    simp [Lexeme.splitRaw, Lexeme.rawName?, hraw]
  have hafter : place head.stop (items after) = later := by
    have hfirst := place_of_read? head.start hread
    rw [hsplit] at hfirst
    have hlater := (List.cons.inj (hfirst.symm.trans hplace)).2
    rw [Head.stop_eq]
    exact hlater
  rw [hrest, ← List.append_assoc, hstop, tokensFrom?_append, ← hstop, hafter]

theorem firstHead?_eq_some_iff {doc : Text} {head : Head} :
    firstHead? doc = some head ↔ ∃ outer, (heads doc).head? = some outer ∧
      ((outer.name ≠ templateName ∨ outer.tag.selfClosing = true) ∧ head = outer ∨
      ¬(outer.name ≠ templateName ∨ outer.tag.selfClosing = true) ∧
        ∃ opening range ts, elementOf? doc outer = some ⟨opening, .explicit range⟩ ∧
          tokensFrom? doc outer.stop = some ts ∧ (ts.filterMap Token.head?).head? = some head ∧
          head.start < range.start) := by
  constructor
  · intro h
    simp only [firstHead?, Option.bind_eq_bind, Option.bind_eq_some_iff] at h
    obtain ⟨outer, houter, h⟩ := h
    refine ⟨outer, houter, ?_⟩
    by_cases hopen : outer.name ≠ templateName ∨ outer.tag.selfClosing = true
    · rw [if_pos hopen] at h
      exact .inl ⟨hopen, (Option.some.inj h).symm⟩
    · rw [if_neg hopen, Option.bind_eq_some_iff] at h
      obtain ⟨⟨opening, closing⟩, helement, h⟩ := h
      cases closing with
      | explicit range =>
        simp only [Option.bind_eq_some_iff, Option.ite_none_right_eq_some] at h
        obtain ⟨ts, hts, inside, hinside, hlt, h⟩ := h
        obtain rfl := Option.some.inj h
        exact .inr ⟨hopen, opening, range, ts, helement, hts, hinside, hlt⟩
      | selfClosing range => cases h
      | void => cases h
  · rintro ⟨outer, houter, ⟨hopen, rfl⟩ | ⟨hopen, opening, range, ts, helement, hts, hinside, hlt⟩⟩
    · simp only [firstHead?, houter, Option.bind_eq_bind, Option.bind_some]
      rw [if_pos hopen]
      rfl
    · simp only [firstHead?, houter, helement, hts, hinside, Option.bind_eq_bind, Option.bind_some]
      rw [if_neg hopen, if_pos hlt]

theorem opensRaw_template {tag : OpenTag} (h : tag.name = templateName) : tag.opensRaw = false := by
  have hraw : rawNames.contains templateName = false := by decide
  rw [OpenTag.opensRaw, h, hraw, Bool.and_false]

/-- Whether a selector reads nothing of a tag but its name. -/
def Selector.readsName : Selector → Bool
  | .tag _ | .first => true
  | .attr _ | .attrValue _ _ => false

/-- A predicate that first admits a tag first admits another one in its place, whatever follows. -/
theorem find?_heads_of_tokens {doc doc' : Text} {front later later' : List Token} {start : Nat}
    {tag tag' : OpenTag} (hfront : ∀ token ∈ front, token.start < start)
    (htokens : tokens doc = front ++ ⟨start, .opening tag⟩ :: later)
    (htokens' : tokens doc' = front ++ ⟨start, .opening tag'⟩ :: later') {p : Head → Bool}
    (hp : p ⟨start, tag'⟩ = p ⟨start, tag⟩) (hfind : (heads doc).find? p = some ⟨start, tag⟩) :
    (heads doc').find? p = some ⟨start, tag'⟩ := by
  have hnone : (front.filterMap Token.head?).find? p = none := by
    cases hfound : (front.filterMap Token.head?).find? p with
    | none => rfl
    | some head =>
      rw [heads_of_tokens htokens, List.find?_append, hfound, Option.some_or] at hfind
      obtain rfl := Option.some.inj hfind
      have hmem := mem_filterMap_head?.mp (List.mem_of_find?_eq_some hfound)
      exact absurd (hfront _ hmem) (Nat.lt_irrefl start)
  have hadmits := List.find?_some hfind
  rw [heads_of_tokens htokens', List.find?_append, hnone, Option.none_or, List.find?_cons_of_pos]
  rw [hp, hadmits]

/-! ### The new tag -/

/-- The tokens of two documents differ in one opening tag only, and after it in their offsets. The
two tags have one name, and both of them or neither is self-closing. -/
structure Retagged (doc doc' : Text) (start : Nat) (tag tag' : OpenTag) : Prop where
  name_eq : tag'.name = tag.name
  selfClosing_eq : tag'.selfClosing = tag.selfClosing
  tokens_eq : ∃ front later later' : List Token, (∀ token ∈ front, token.start < start) ∧
    (∀ token ∈ later, start < token.start) ∧ (∀ token ∈ later', start < token.start) ∧
    later.map Token.lexeme = later'.map Token.lexeme ∧
    tokens doc = front ++ ⟨start, .opening tag⟩ :: later ∧
    tokens doc' = front ++ ⟨start, .opening tag'⟩ :: later'

theorem map_lexeme_place (n m : Nat) (its : List Item) :
    (place n its).map Token.lexeme = (place m its).map Token.lexeme := by
  have hzero (k : Nat) : (place k its).map Token.lexeme = (place 0 its).map Token.lexeme := by
    rw [← Nat.zero_add k, place_shift, List.map_map]
    rfl
  rw [hzero n, hzero m]

theorem Retagged.of_endsBefore {tag tag' : OpenTag} {before after : Text}
    (hname : tag'.name = tag.name) (hself : tag'.selfClosing = tag.selfClosing)
    (hread : Lexeme.read? (tag.text ++ after) = some (.opening tag, after))
    (hread' : Lexeme.read? (tag'.text ++ after) = some (.opening tag', after))
    (h : EndsBefore (tag.text ++ after) before) :
    Retagged (before ++ (tag.text ++ after)) (before ++ (tag'.text ++ after)) before.size tag
      tag' := by
  obtain ⟨front, hfront, htokens, htokens'⟩ :=
    h.exists_front (beginsTag_of_read? hread) (beginsTag_of_read? hread') 0
  rw [Nat.zero_add] at hfront htokens htokens'
  have hsplit : (Lexeme.opening tag').splitRaw after = (Lexeme.opening tag).splitRaw after := by
    have hraw : (Lexeme.opening tag').rawName? = (Lexeme.opening tag).rawName? := by
      have hopens : tag'.opensRaw = tag.opensRaw := by
        rw [OpenTag.opensRaw, OpenTag.opensRaw, hself, hname]
      simp only [Lexeme.rawName?]
      rw [hopens, hname]
    rw [Lexeme.splitRaw, Lexeme.splitRaw, hraw]
  rw [place_of_read? _ hread] at htokens
  rw [place_of_read? _ hread', hsplit] at htokens'
  have hafter (l : Lexeme) (raw rest : Text) :
      ∀ token ∈ place (before.size + l.text.size + raw.size) (items rest),
        before.size < token.start := by
    intro token htoken
    have hpos := size_pos l.text_ne_nil
    have hle := (bounds_of_mem_place htoken).1
    omega
  exact ⟨hname, hself, front, _, _, hfront, hafter _ _ _, hafter _ _ _, map_lexeme_place _ _ _,
    htokens, htokens'⟩

namespace Retagged

variable {doc doc' : Text} {start : Nat} {tag tag' : OpenTag}

theorem spanOf?_isSome (h : Retagged doc doc' start tag tag')
    (hspan : (spanOf? doc ⟨start, tag⟩).isSome = true) :
    ∃ span, spanOf? doc' ⟨start, tag'⟩ = some span ∧ span.head = ⟨start, tag'⟩ := by
  obtain ⟨front, later, later', -, -, -, hlexeme, htokens, htokens'⟩ := h.tokens_eq
  rw [spanOf?] at hspan ⊢
  dsimp only at hspan ⊢
  rw [h.selfClosing_eq]
  split at hspan
  · next hself =>
    rw [if_pos hself]
    exact ⟨_, rfl, rfl⟩
  · next hself =>
    rw [if_neg hself]
    rw [Option.isSome_map, elementOf?_of_tokens htokens] at hspan
    rw [elementOf?_of_tokens htokens']
    have hsome : (Bounds.match? [] (⟨start, .opening tag⟩ :: later)).isSome =
        (Bounds.match? [] (⟨start, .opening tag'⟩ :: later')).isSome :=
      isSome_match?_opening h.name_eq h.selfClosing_eq rfl
        fun houter => isSome_match?_congr houter hlexeme
    rw [hspan] at hsome
    obtain ⟨bounds, hbounds⟩ := Option.isSome_iff_exists.mp hsome.symm
    rw [hbounds, Option.map_some]
    refine ⟨_, rfl, ?_⟩
    cases bounds.closing <;> rfl

theorem find?_heads (h : Retagged doc doc' start tag tag') {p : Head → Bool}
    (hp : p ⟨start, tag'⟩ = p ⟨start, tag⟩) (hfind : (heads doc).find? p = some ⟨start, tag⟩) :
    (heads doc').find? p = some ⟨start, tag'⟩ := by
  obtain ⟨front, later, later', hfront, -, -, -, htokens, htokens'⟩ := h.tokens_eq
  exact find?_heads_of_tokens hfront htokens htokens' hp hfind

/-- An element that is open around the tag ends after the new one if it does after the old one. -/
theorem match?_inside (h : Retagged doc doc' start tag tag') {first opening : Head} {range : Range}
    {inner later later' : List Token} (hinner : inner.filterMap Token.head? = [])
    (hlexeme : later.map Token.lexeme = later'.map Token.lexeme)
    (hbefore : ∀ token ∈ inner, token.start < start)
    (hafter : ∀ token ∈ later', start < token.start)
    (hmatch : Bounds.match? [first] (inner ++ ⟨start, .opening tag⟩ :: later) =
      some ⟨opening, .explicit range⟩)
    (hlt : start < range.start) :
    ∃ opening' range', Bounds.match? [first] (inner ++ ⟨start, .opening tag'⟩ :: later') =
      some ⟨opening', .explicit range'⟩ ∧ start < range'.start := by
  obtain ⟨token, htoken, hends⟩ | hopen := match?_of_no_heads first hinner
  · rw [hends] at hmatch
    obtain rfl : ⟨token.start, token.stop⟩ = range :=
      Closing.explicit.inj (congrArg Bounds.closing (Option.some.inj hmatch))
    exact absurd (hbefore token htoken) (Nat.lt_asymm hlt)
  · rw [hopen] at hmatch ⊢
    have hsome : (Bounds.match? [first] (⟨start, .opening tag⟩ :: later)).isSome =
        (Bounds.match? [first] (⟨start, .opening tag'⟩ :: later')).isSome :=
      isSome_match?_opening h.name_eq h.selfClosing_eq rfl
        fun houter => isSome_match?_congr houter hlexeme
    rw [hmatch] at hsome
    obtain ⟨⟨opening', closing⟩, hbounds⟩ := Option.isSome_iff_exists.mp hsome.symm
    obtain ⟨token, htoken, close, hclose, -, hclosing⟩ :=
      endsIn_of_match? List.getLast?_singleton hbounds
    obtain rfl : closing = .explicit ⟨token.start, token.stop⟩ := hclosing
    refine ⟨opening', _, hbounds, ?_⟩
    obtain rfl | hmem := List.mem_cons.mp htoken
    · cases hclose
    · exact hafter token hmem

theorem firstHead?_eq (h : Retagged doc doc' start tag tag')
    (hfirst : firstHead? doc = some ⟨start, tag⟩) : firstHead? doc' = some ⟨start, tag'⟩ := by
  obtain ⟨front, later, later', hfront, hlater, hlater', hlexeme, htokens, htokens'⟩ :=
    h.tokens_eq
  have hfrontHead {head : Head} (hmem : head ∈ front.filterMap Token.head?) : head.start < start :=
    hfront _ (mem_filterMap_head?.mp hmem)
  rw [firstHead?_eq_some_iff, heads_of_tokens htokens] at hfirst
  rw [firstHead?_eq_some_iff, heads_of_tokens htokens']
  obtain ⟨outer, houter, hfirst⟩ := hfirst
  cases hearlier : front.filterMap Token.head? with
  | nil =>
    obtain rfl : ⟨start, tag⟩ = outer := by simpa [hearlier] using houter
    refine ⟨⟨start, tag'⟩, rfl, ?_⟩
    obtain ⟨hopen, -⟩ | ⟨hopen, opening, range, ts, -, hts, hinside, -⟩ := hfirst
    · refine .inl ⟨?_, rfl⟩
      rwa [Head.name, h.name_eq, h.selfClosing_eq]
    · rw [not_or, not_ne_iff] at hopen
      rw [tokensFrom?_stop (opensRaw_template hopen.1) htokens] at hts
      obtain rfl := Option.some.inj hts
      have hmem := mem_filterMap_head?.mp (List.mem_of_mem_head? hinside)
      exact absurd (hlater _ hmem) (Nat.lt_irrefl start)
  | cons first earlier =>
    obtain rfl : first = outer := by simpa [hearlier] using houter
    refine ⟨first, rfl, ?_⟩
    obtain ⟨-, hsame⟩ | ⟨hopen, opening, range, ts, helement, hts, hinside, hlt⟩ := hfirst
    · have hmem : first ∈ front.filterMap Token.head? := by simp [hearlier]
      have hlt := hfrontHead hmem
      rw [← hsame] at hlt
      exact absurd hlt (Nat.lt_irrefl start)
    obtain ⟨skipped, token, inner, rfl, -, htoken, hinner⟩ := List.filterMap_eq_cons_iff.mp hearlier
    obtain rfl := head?_eq_some_iff.mp htoken
    rw [List.append_assoc, List.cons_append] at htokens htokens'
    have hname : first.tag.name = templateName := not_ne_iff.mp fun hne => hopen (.inl hne)
    have hraw := opensRaw_template hname
    rw [tokensFrom?_stop hraw htokens] at hts
    obtain rfl := Option.some.inj hts
    have hnil : inner.filterMap Token.head? = [] := by
      cases hhead : inner.filterMap Token.head? with
      | nil => rfl
      | cons head heads =>
        obtain rfl : head = ⟨start, tag⟩ := by simpa [hhead] using hinside
        have hmem := mem_filterMap_head?.mp (hhead ▸ List.mem_cons_self)
        refine absurd (hfront ⟨start, .opening tag⟩ ?_) (Nat.lt_irrefl start)
        exact List.mem_append_right skipped (List.mem_cons_of_mem _ hmem)
    have hself : first.tag.selfClosing = false := by
      simpa using fun hself => hopen (.inr hself)
    have halone := Bounds.alone?_template hname hself
    rw [elementOf?_of_tokens htokens, match?_open halone] at helement
    refine .inr ⟨hopen, ?_⟩
    rw [elementOf?_of_tokens htokens', match?_open halone, tokensFrom?_stop hraw htokens']
    obtain ⟨opening', range', helement', hlt'⟩ := h.match?_inside hnil hlexeme
      (fun token htoken => hfront token (by simp [htoken])) hlater' helement hlt
    refine ⟨opening', range', _, helement', rfl, ?_, hlt'⟩
    rw [List.filterMap_append, hnil]
    rfl

theorem findHead?_eq (h : Retagged doc doc' start tag tag') {selector : Selector}
    (hselector : selector.readsName = true) (hfind : selector.findHead? doc = some ⟨start, tag⟩) :
    selector.findHead? doc' = some ⟨start, tag'⟩ := by
  cases selector with
  | first => exact h.firstHead?_eq hfind
  | tag name =>
    refine h.find?_heads ?_ hfind
    change (tag'.name == name) = (tag.name == name)
    rw [h.name_eq]
  | attr name => cases hselector
  | attrValue name value => cases hselector

/-- What is located at the one tag is located at the other. -/
theorem exists_locate (h : Retagged doc doc' start tag tag') {selector : Selector}
    (hselector : selector.readsName = true) {span : Span}
    (hlocate : locate doc selector = .ok span) (hhead : span.head = ⟨start, tag⟩) :
    ∃ place, locate doc' selector = .ok place ∧ place.head = ⟨start, tag'⟩ := by
  unfold locate at hlocate
  split at hlocate
  · cases hlocate
  next hfault =>
  split at hlocate
  · next found hfound =>
    obtain rfl := Except.ok.inj hlocate
    obtain ⟨head, hfind, hspan⟩ := Option.bind_eq_some_iff.mp hfound
    obtain rfl : head = ⟨start, tag⟩ := by
      rw [← hhead]
      exact (located_of_spanOf? (reads_of_findHead? hfind) hspan).2.symm
    obtain ⟨place, hplace, hplaceHead⟩ := h.spanOf?_isSome (by rw [hspan]; rfl)
    refine ⟨place, ?_, hplaceHead⟩
    rw [locate, hfault, h.findHead?_eq hselector hfind, Option.bind_some, hplace]
  · cases hlocate

end Retagged

/-- Every tag that begins before an offset of a document has ended there. -/
def TagsEndBefore (doc : Text) (n : Nat) : Prop :=
  ∃ before rest, doc = before ++ rest ∧ n = before.size ∧ EndsBefore rest before

/-- A draft locates the tag that has been written in the place of the one that it located. -/
theorem Draft.exists_locate {draft : Draft} {selector : Selector} {span : Span} {tag : OpenTag}
    {before after : Text} (hsome : draft.selector = some selector)
    (hselector : selector.readsName = true) (hlocate : draft.locate = .ok span)
    (hdoc : draft.document = before ++ (span.head.tag.text ++ after))
    (hstart : span.head.start = before.size)
    (hends : TagsEndBefore draft.document span.head.start)
    (hname : tag.name = span.head.tag.name) (hself : tag.selfClosing = span.head.tag.selfClosing)
    (hread : Lexeme.read? (tag.text ++ after) = some (.opening tag, after)) :
    ∃ place, Draft.locate { draft with document := before ++ (tag.text ++ after) } = .ok place ∧
      place.head = ⟨span.head.start, tag⟩ := by
  obtain ⟨before', rest, hdoc', hstart', hends⟩ := hends
  obtain ⟨rfl, rfl⟩ := eq_of_append_of_size (hdoc.symm.trans hdoc') (hstart.symm.trans hstart')
  obtain ⟨before', after', hdoc', hstart', hread'⟩ := (located_of_draft hlocate).opening
  obtain ⟨rfl, htext⟩ := eq_of_append_of_size (hdoc.symm.trans hdoc') (hstart.symm.trans hstart')
  obtain rfl := List.append_cancel_left htext
  have hretagged := Retagged.of_endsBefore hname hself hread' hread hends
  rw [← hdoc, ← hstart] at hretagged
  obtain ⟨selector', hsome', hfound⟩ := Draft.exists_locate_eq hlocate
  obtain rfl : selector' = selector := Option.some.inj (hsome'.symm.trans hsome)
  obtain ⟨place, hplace, hhead⟩ := hretagged.exists_locate hselector hfound rfl
  refine ⟨place, ?_, hhead⟩
  rw [Draft.locate]
  dsimp only
  rw [hsome]
  dsimp only
  rw [hplace]
  rfl

end Graft.Markup
