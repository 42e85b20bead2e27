import Graft.Proofs.Retag

/-! The two tags of a located element are tokens of the document, whatever the selector. -/

namespace Graft.Markup

open Text

/-! ### The order of tokens -/

/-- No token begins before the end of one that comes earlier. -/
theorem pairwise_place (n : Nat) (cs : Text) :
    (place n (items cs)).Pairwise fun token later => token.stop ≤ later.start := by
  induction cs using items.induct generalizing n with
  | case1 => simp [items_nil, place]
  | case2 c cs lexeme rest hread ih =>
    rw [place_of_read? n hread, List.pairwise_cons]
    refine ⟨fun later hlater => ?_, ih _⟩
    -- later tokens begin after the raw content of this one
    have hbounds := (bounds_of_mem_place hlater).1
    show n + lexeme.text.size ≤ later.start
    omega
  | case3 c cs hread ih =>
    rw [items_cons_of_read? hread, place]
    exact ih _

theorem stop_le_of_place_append {n : Nat} {cs : Text} {front later : List Token}
    {token earlier : Token} (h : place n (items cs) = front ++ token :: later)
    (hmem : earlier ∈ front) : earlier.stop ≤ token.start := by
  have hpairs := pairwise_place n cs
  rw [h, List.pairwise_append] at hpairs
  exact hpairs.2.2 earlier hmem token List.mem_cons_self

/-! ### The tags of a located element -/

variable {doc : Text}

theorem isTagName_of_mem_heads {head : Head} (h : head ∈ heads doc) : IsTagName head.name := by
  obtain ⟨_, _, _, -, -, hread⟩ := reads_of_mem_heads h
  exact Lexeme.isTagName_of_read? hread

theorem mem_heads_of_firstHead? {head : Head} (h : firstHead? doc = some head) :
    head ∈ heads doc := by
  obtain ⟨outer, houter, ⟨-, rfl⟩ | ⟨hopen, opening, range, ts, -, hts, hhead, -⟩⟩ :=
    firstHead?_eq_some_iff.mp h
  · exact List.mem_of_mem_head? houter
  · have hname : outer.tag.name = templateName := not_ne_iff.mp fun hne => hopen (.inl hne)
    have hmem := mem_filterMap_head?.mp (List.mem_of_mem_head? houter)
    obtain ⟨front, later, htokens⟩ := List.append_of_mem hmem
    rw [tokensFrom?_stop (opensRaw_template hname) htokens] at hts
    obtain rfl := Option.some.inj hts
    have hinside := mem_filterMap_head?.mp (List.mem_of_mem_head? hhead)
    refine mem_filterMap_head?.mpr ?_
    rw [htokens]
    exact List.mem_append_right front (List.mem_cons_of_mem _ hinside)

theorem mem_heads_of_findHead? {selector : Selector} {head : Head}
    (h : selector.findHead? doc = some head) : head ∈ heads doc := by
  cases selector with
  | first => exact mem_heads_of_firstHead? h
  | tag name => exact List.mem_of_find?_eq_some h
  | attr name => exact List.mem_of_find?_eq_some h
  | attrValue name value => exact List.mem_of_find?_eq_some h

/-- The closing tag that an opening tag of the document is paired with is a later token of the
document. -/
theorem exists_closing_of_elementOf? {head : Head} {bounds : Bounds} {range : Range}
    (hhead : head ∈ heads doc) (h : elementOf? doc head = some bounds)
    (hclosing : bounds.closing = .explicit range) :
    ∃ close : CloseTag, ⟨range.start, .closing close⟩ ∈ tokens doc ∧ close.name = head.name ∧
      range.stop = range.start + close.text.size ∧ head.stop ≤ range.start := by
  obtain ⟨front, later, htokens⟩ := List.append_of_mem (mem_filterMap_head?.mp hhead)
  rw [elementOf?_of_tokens htokens] at h
  cases halone : Bounds.alone? head with
  | some completed =>
    rw [match?_alone_nil halone] at h
    obtain rfl := Option.some.inj h
    unfold Bounds.alone? at halone
    split at halone
    · obtain rfl := Option.some.inj halone
      cases hclosing
    · split at halone
      · obtain rfl := Option.some.inj halone
        cases hclosing
      · cases halone
  | none =>
    rw [match?_open halone] at h
    obtain ⟨⟨start, lexeme⟩, hmem, close, rfl, hname, hends⟩ :=
      endsIn_of_match? List.getLast?_singleton h
    obtain rfl := Closing.explicit.inj (hclosing.symm.trans hends)
    refine ⟨close, ?_, hname, rfl, ?_⟩
    · rw [htokens]
      exact List.mem_append_right front (List.mem_cons_of_mem _ hmem)
    · obtain ⟨between, last, rfl⟩ := List.append_of_mem hmem
      rw [← List.cons_append, ← List.append_assoc] at htokens
      rw [Head.stop_eq]
      exact stop_le_of_place_append htokens (List.mem_append_right front List.mem_cons_self)

/-- A located element is the one that its opening tag begins. -/
theorem spanOf?_of_locate {selector : Selector} {span : Span}
    (h : locate doc selector = .ok span) :
    span.head ∈ heads doc ∧ spanOf? doc span.head = some span := by
  unfold locate at h
  split at h
  · cases h
  · split at h
    · next found hfound =>
      obtain rfl := Except.ok.inj h
      obtain ⟨head, hfind, hspan⟩ := Option.bind_eq_some_iff.mp hfound
      have hmem := mem_heads_of_findHead? hfind
      obtain rfl := (located_of_spanOf? (reads_of_mem_heads hmem) hspan).2
      exact ⟨hmem, hspan⟩
    · cases h

theorem exists_explicit_of_spanOf? {head : Head} {span : Span} {range : Range}
    (h : spanOf? doc head = some span) (hclosing : span.closing = some range) :
    ∃ bounds, elementOf? doc head = some bounds ∧ bounds.closing = .explicit range := by
  rw [spanOf?] at h
  split at h
  · rw [← Option.some.inj h] at hclosing
    cases hclosing
  · obtain ⟨bounds, hbounds, h⟩ := Option.map_eq_some_iff.mp h
    refine ⟨bounds, hbounds, ?_⟩
    split at h
    · next range' hrange =>
      rw [← h] at hclosing
      obtain rfl := Option.some.inj hclosing
      exact hrange
    · rw [← h] at hclosing
      cases hclosing
    · rw [← h] at hclosing
      cases hclosing

/-- The opening tag of a located element and its closing tag, if it has one, are tokens of the
document. -/
theorem tokens_of_locate {selector : Selector} {span : Span}
    (h : locate doc selector = .ok span) :
    span.head ∈ heads doc ∧ ∀ range, span.closing = some range →
      ∃ close : CloseTag, ⟨range.start, .closing close⟩ ∈ tokens doc ∧
        close.name = span.head.name ∧ range.stop = range.start + close.text.size := by
  obtain ⟨hmem, hspan⟩ := spanOf?_of_locate h
  refine ⟨hmem, fun range hclosing => ?_⟩
  obtain ⟨bounds, hbounds, hexplicit⟩ := exists_explicit_of_spanOf? hspan hclosing
  obtain ⟨close, hclose, hname, hstop, -⟩ := exists_closing_of_elementOf? hmem hbounds hexplicit
  exact ⟨close, hclose, hname, hstop⟩

/-- The text around the two tags of a located element. Both are read where they stand. -/
theorem Draft.exists_paired {draft : Draft} {span : Span} {range : Range}
    (located : draft.locate = .ok span) (hclosing : span.closing = some range) :
    ∃ before content close after,
      draft.document =
        before ++ (span.head.tag.text ++ (content ++ (CloseTag.text close ++ after))) ∧
      span.head.start = before.size ∧ close.name = span.head.tag.name ∧
      range.start = before.size + span.head.tag.text.size + content.size ∧
      Lexeme.read? (close.text ++ after) = some (.closing close, after) := by
  obtain ⟨selector, -, hlocate⟩ := Draft.exists_locate_eq located
  obtain ⟨close, hmem, hname, -⟩ := (tokens_of_locate hlocate).2 range hclosing
  obtain ⟨front, rest, after, hdoc, hrange, hread⟩ := reads_of_mem_place hmem
  have hrange : range.start = front.size := by simpa using hrange
  obtain ⟨before, content, last, later, hdoc', -, hstart, hrange', -⟩ :=
    (located_of_locate hlocate).closing hclosing
  have hcut : front ++ rest =
      before ++ span.head.tag.text ++ content ++ (last.text ++ later) := by
    rw [← hdoc, hdoc', List.append_assoc, List.append_assoc]
  obtain ⟨rfl, -⟩ := eq_of_append_of_size hcut (by
    rw [← hrange, hrange', size_append, size_append])
  refine ⟨before, content, close, after, ?_, hstart, hname, hrange', ?_⟩
  · have hrest : rest = close.text ++ after := Lexeme.eq_append_of_read? hread
    rw [hdoc, hrest, List.append_assoc, List.append_assoc]
  · rw [← hread]
    exact congrArg Lexeme.read? (Lexeme.eq_append_of_read? hread).symm

end Graft.Markup
