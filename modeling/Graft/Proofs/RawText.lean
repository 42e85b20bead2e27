import Graft.Proofs.Pairing

/-! Raw content: nothing in it is read as a tag. It ends where `</` and the name first come after
it, and what is read there is the closing tag only when the name ends there and a `>` follows. -/

namespace Graft.Markup

open Text

/-! ### Ranges that nothing is read in -/

/-- A range of a document that no token reaches into, no element ends in, and no selector picks an
element in. -/
structure HoldsNoTag (doc : Text) (raw : Range) : Prop where
  yielded : ∀ token ∈ tokens doc, token.stop ≤ raw.start ∨ raw.stop ≤ token.start
  matched : ∀ head ∈ heads doc, ∀ bounds range, elementOf? doc head = some bounds →
    bounds.closing = .explicit range → range.stop ≤ raw.start ∨ raw.stop ≤ range.start
  selected : ∀ selector span, locate doc selector = .ok span →
    span.head.stop ≤ raw.start ∨ raw.stop ≤ span.head.start

theorem HoldsNoTag.of_tokens {doc : Text} {raw : Range}
    (h : ∀ token ∈ tokens doc, token.stop ≤ raw.start ∨ raw.stop ≤ token.start) :
    HoldsNoTag doc raw where
  yielded := h
  matched head hhead bounds range helement hclosing := by
    obtain ⟨close, hmem, -, hstop, -⟩ :=
      exists_closing_of_elementOf? hhead helement hclosing
    rw [hstop]
    exact h _ hmem
  selected selector span hlocate := by
    have hmem := mem_filterMap_head?.mp (tokens_of_locate hlocate).1
    rw [Head.stop_eq]
    exact h _ hmem

/-- After an opening tag, no token begins before the end of its raw content. -/
theorem exists_split_of_tokens {doc : Text} {before later : List Token} {start : Nat}
    {tag : OpenTag} (h : tokens doc = before ++ ⟨start, .opening tag⟩ :: later) :
    ∃ front content rest, doc = front ++ (tag.text ++ (content ++ rest)) ∧ start = front.size ∧
      (Lexeme.opening tag).splitRaw (content ++ rest) = (content, rest) ∧
      later = place (start + tag.text.size + content.size) (items rest) ∧
      HoldsNoTag doc ⟨start + tag.text.size, start + tag.text.size + content.size⟩ := by
  obtain ⟨front, rest, after, hdoc, hstart, hread, hplace⟩ := exists_of_place_append h
  have hrest : rest = tag.text ++ after := Lexeme.eq_append_of_read? hread
  have hsplit := (Lexeme.opening tag).splitRaw_append after
  have hlater := place_of_read? start hread
  rw [hplace, List.cons.injEq] at hlater
  refine ⟨front, _, _, ?_, by simpa using hstart, ?_, hlater.2, ?_⟩
  · rw [hdoc, hrest, hsplit]
  · rw [hsplit]
  · refine .of_tokens fun token htoken => ?_
    rw [h, List.mem_append, List.mem_cons] at htoken
    obtain hbefore | rfl | hafter := htoken
    · left
      show token.stop ≤ start + tag.text.size
      have hle : token.stop ≤ start := stop_le_of_place_append h hbefore
      omega
    · exact .inl (Nat.le_refl _)
    · rw [hlater.2] at hafter
      exact .inr (bounds_of_mem_place hafter).1

/-! ### What is read at the end of raw content -/

theorem Lexeme.end_mem_of_isEnded {l : Lexeme} (h : l.isEnded = true) : '>' ∈ l.text := by
  cases l with
  | opening tag =>
    have hdelimiter : '>' ∈ tag.delimiter := by
      rw [OpenTag.delimiter]
      split <;> decide
    simp [text, OpenTag.text, hdelimiter]
  | closing tag => simp [text, CloseTag.text]
  | comment body ended =>
    obtain rfl : ended = true := h
    simp [text]
  | declaration body ended =>
    obtain rfl : ended = true := h
    simp [text]

/-- In a text without `>` no tag is read. -/
theorem isEnded_of_mem_place {cs : Text} {n : Nat} {token : Token} (hend : '>' ∉ cs)
    (h : token ∈ place n (items cs)) : token.lexeme.isEnded = false := by
  obtain ⟨before, rest, after, rfl, -, hread⟩ := reads_of_mem_place h
  rw [← Bool.not_eq_true]
  intro hended
  apply hend
  rw [Lexeme.eq_append_of_read? hread]
  exact List.mem_append_right _ (List.mem_append_left _ (Lexeme.end_mem_of_isEnded hended))

theorem IsTagName.end_not_mem {name : Text} (h : IsTagName name) : '>' ∉ name := by
  obtain ⟨c, cs, rfl, hc, hcs⟩ := h
  rw [List.mem_cons, not_or]
  constructor
  · rintro rfl
    exact absurd hc (by decide)
  · intro hmem
    exact absurd (hcs _ hmem) (by decide)

/-- A name goes on for as long as name characters follow it. -/
theorem readName?_name_append {name : Text} (h : IsTagName name) (tail : Text) :
    readName? (name ++ tail) =
      some (name ++ tail.takeWhile isNameChar, tail.dropWhile isNameChar) := by
  obtain ⟨c, cs, rfl, hc, hcs⟩ := h
  rw [List.cons_append, readName?, if_pos hc, List.takeWhile_append_of_pos hcs,
    List.dropWhile_append_of_pos hcs, List.cons_append]

theorem end_mem_dropWhile_iff (tail : Text) :
    '>' ∈ tail.dropWhile isNameChar ↔ '>' ∈ tail := by
  have hword : '>' ∉ tail.takeWhile isNameChar := by
    intro hmem
    exact absurd (List.mem_takeWhile_imp hmem) (by decide)
  conv_rhs => rw [← List.takeWhile_append_dropWhile (p := isNameChar) (l := tail)]
  rw [List.mem_append, or_iff_right hword]

theorem takeWhile_eq_nil_iff_head? {p : Char → Bool} {t : Text} :
    t.takeWhile p = [] ↔ ∀ c ∈ t.head?, p c = false := by
  cases t with
  | nil => simp
  | cons c cs => simp

theorem exists_breakOn?_single {c : Char} {t : Text} (h : c ∈ t) :
    ∃ before after, breakOn? [c] t = some (before, c :: after) := by
  cases hbreak : breakOn? [c] t with
  | none => exact absurd h (not_mem_of_breakOn?_eq_none hbreak)
  | some parts =>
    obtain ⟨before, rest⟩ := parts
    obtain ⟨-, after, rfl⟩ := eq_append_of_breakOn? hbreak
    exact ⟨before, after, rfl⟩

/-- The first token of a text that begins with `</` and a name is the closing tag of that name when
the name ends there and a `>` follows, and not otherwise. -/
theorem closes_iff {name tail : Text} {n : Nat} {token : Token} {later : List Token}
    (hname : IsTagName name)
    (h : place n (items ('<' :: '/' :: (name ++ tail))) = token :: later) :
    (∃ close : CloseTag, token.lexeme = .closing close ∧ close.name = name) ↔
      '>' ∈ tail ∧ ∀ c ∈ tail.head?, isNameChar c = false := by
  by_cases hend : '>' ∈ tail
  · obtain ⟨junk, after, hbreak⟩ := exists_breakOn?_single ((end_mem_dropWhile_iff tail).mpr hend)
    have hread : Lexeme.read? ('<' :: '/' :: (name ++ tail)) =
        some (.closing ⟨name ++ tail.takeWhile isNameChar, junk⟩, after) := by
      show Lexeme.readClosing? (name ++ tail) = _
      simp only [Lexeme.readClosing?, readName?_name_append hname, hbreak, Option.bind_eq_bind,
        Option.bind_some]
      rfl
    rw [place_of_read? n hread, List.cons.injEq] at h
    obtain ⟨rfl, -⟩ := h
    rw [← takeWhile_eq_nil_iff_head?]
    constructor
    · rintro ⟨close, hclose, hsame⟩
      obtain rfl := Lexeme.closing.inj hclose
      exact ⟨hend, List.append_right_eq_self.mp hsame⟩
    · rintro ⟨-, hword⟩
      exact ⟨_, rfl, by rw [hword, List.append_nil]⟩
  · refine iff_of_false ?_ fun hcloses => hend hcloses.1
    rintro ⟨close, hclose, -⟩
    have hnone : '>' ∉ '<' :: '/' :: (name ++ tail) := by
      simp [hname.end_not_mem, hend]
    have hended := isEnded_of_mem_place hnone (h ▸ List.mem_cons_self)
    rw [hclose] at hended
    cases hended

/-- The raw content after a tag lasts to the first `</` that the name comes after, and holds no tag.
The token after it, if there is one, is the closing tag of the name when the name ends there and a
`>` follows, and not otherwise. -/
theorem tokens_after_raw {doc : Text} {before later : List Token} {start : Nat} {tag : OpenTag}
    (htokens : tokens doc = before ++ ⟨start, .opening tag⟩ :: later)
    (raw : tag.opensRaw = true) :
    ∃ front content rest, doc = front ++ (tag.text ++ (content ++ rest)) ∧ start = front.size ∧
      (breakOn? ('<' :: '/' :: tag.name) (content ++ rest)).getD (content ++ rest, []) =
        (content, rest) ∧
      HoldsNoTag doc ⟨start + tag.text.size, start + tag.text.size + content.size⟩ ∧
      ∀ next ∈ later.head?,
        ((∃ close : CloseTag, next.lexeme = .closing close ∧ close.name = tag.name) ↔
          ∃ tail, rest = '<' :: '/' :: (tag.name ++ tail) ∧ '>' ∈ tail ∧
            ∀ c ∈ tail.head?, isNameChar c = false) := by
  obtain ⟨front, content, rest, hdoc, hstart, hsplit, hlater, hnone⟩ :=
    exists_split_of_tokens htokens
  have hmem : (⟨start, tag⟩ : Head) ∈ heads doc := by
    refine mem_filterMap_head?.mpr ?_
    rw [htokens]
    exact List.mem_append_right before List.mem_cons_self
  have hname : IsTagName tag.name := isTagName_of_mem_heads hmem
  have hbreak : (breakOn? ('<' :: '/' :: tag.name) (content ++ rest)).getD (content ++ rest, []) =
      (content, rest) := by
    rw [← hsplit, Lexeme.splitRaw, Lexeme.rawName?, if_pos raw]
  refine ⟨front, content, rest, hdoc, hstart, hbreak, hnone, fun next hnext => ?_⟩
  obtain ⟨others, rfl⟩ : ∃ others, later = next :: others := List.head?_eq_some_iff.mp hnext
  cases hfound : breakOn? ('<' :: '/' :: tag.name) (content ++ rest) with
  | none =>
    -- the raw content lasts to the end of the document, so that no token is left
    rw [hfound, Option.getD_none] at hbreak
    obtain rfl : [] = rest := (Prod.mk.inj hbreak).2
    rw [items_nil] at hlater
    cases hlater
  | some parts =>
    rw [hfound, Option.getD_some] at hbreak
    obtain ⟨-, tail, hrest⟩ := eq_append_of_breakOn? (hfound.trans (congrArg some hbreak))
    have hrest : rest = '<' :: '/' :: (tag.name ++ tail) := hrest.symm
    rw [hrest] at hlater ⊢
    rw [closes_iff hname hlater.symm]
    constructor
    · rintro ⟨hend, hstop⟩
      exact ⟨tail, rfl, hend, hstop⟩
    · rintro ⟨tail', htail, hend, hstop⟩
      obtain rfl : tail = tail' := by simpa using htail
      exact ⟨hend, hstop⟩

/-- In a style sheet, the closing tag of another name, an opening tag and a comment are passed
over. -/
theorem tokens_after_raw_style :
    let doc := "<p><style a>'</i>' <b> <!-- </style ></p>".toList
    HoldsNoTag doc ⟨12, 28⟩ ∧ ∃ next ∈ (tokens doc)[2]?,
      ∃ close : CloseTag, next.lexeme = .closing close ∧ close.name = "style".toList := by
  intro doc
  let tag : OpenTag := ⟨"style".toList, " a".toList, false⟩
  have htokens : tokens doc = [⟨0, .opening ⟨"p".toList, [], false⟩⟩] ++ ⟨3, .opening tag⟩ ::
      [⟨28, .closing ⟨"style".toList, " ".toList⟩⟩, ⟨37, .closing ⟨"p".toList, []⟩⟩] := by
    decide +kernel
  obtain ⟨front, content, rest, hdoc, hstart, hbreak, hnone, hnext⟩ :=
    tokens_after_raw htokens rfl
  have hcut : doc = "<p>".toList ++ (tag.text ++ "'</i>' <b> <!-- </style ></p>".toList) := rfl
  obtain ⟨rfl, htext⟩ := eq_of_append_of_size (hdoc.symm.trans hcut) hstart.symm
  have hafter := List.append_cancel_left htext
  have hfound : breakOn? "</style".toList "'</i>' <b> <!-- </style ></p>".toList =
      some ("'</i>' <b> <!-- ".toList, "</style ></p>".toList) := by
    decide +kernel
  rw [hafter] at hbreak
  obtain ⟨rfl, rfl⟩ := Prod.mk.inj ((congrArg (Option.getD · _) hfound).symm.trans hbreak)
  have hstop : ∀ c ∈ " ></p>".toList.head?, isNameChar c = false := by
    intro c hc
    obtain rfl : ' ' = c := Option.some.inj hc
    rfl
  have hnext := (hnext _ rfl).mpr ⟨" ></p>".toList, rfl, by decide, hstop⟩
  exact ⟨hnone, _, by rw [htokens]; rfl, hnext⟩

/-- The closing tag of a longer name ends raw content. -/
theorem not_tokens_after_raw_of_prefix :
    ¬∀ (doc : Text) (before later : List Token) (start : Nat) (tag : OpenTag) (next : Token),
      tokens doc = before ++ ⟨start, .opening tag⟩ :: next :: later → tag.opensRaw = true →
        ∃ close : CloseTag, next.lexeme = .closing close ∧ close.name = tag.name := by
  intro hall
  have htokens : tokens "<script>a</scripts><b></b></script>".toList =
      [] ++ ⟨0, .opening ⟨"script".toList, [], false⟩⟩ ::
        ⟨9, .closing ⟨"scripts".toList, []⟩⟩ ::
        [⟨19, .opening ⟨"b".toList, [], false⟩⟩, ⟨22, .closing ⟨"b".toList, []⟩⟩,
          ⟨26, .closing ⟨"script".toList, []⟩⟩] := by
    decide +kernel
  obtain ⟨close, hclose, hname⟩ := hall _ _ _ _ _ _ htokens rfl
  obtain rfl := Lexeme.closing.inj hclose
  revert hname
  decide

end Graft.Markup
