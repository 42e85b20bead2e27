import Graft.Markup.Draft
import Graft.Proofs.Tag
import Graft.Proofs.Token

/-! Located elements of an arbitrary document: the opening tag stands at the place that was found,
and a closing tag of the same name stands where the element ends. -/

namespace Graft.Markup

open Text

/-! ### The pairing of arbitrary tokens -/

/-- An element ends with a closing tag of a name among the tokens. -/
def EndsIn (ts : List Token) (name : Text) (closing : Closing) : Prop :=
  ∃ token ∈ ts, ∃ tag, token.lexeme = .closing tag ∧ tag.name = name ∧
    closing = .explicit ⟨token.start, token.stop⟩

theorem EndsIn.cons {ts : List Token} {name : Text} {closing : Closing} (token : Token)
    (h : EndsIn ts name closing) : EndsIn (token :: ts) name closing := by
  obtain ⟨last, hmem, hlast⟩ := h
  exact ⟨last, List.mem_cons_of_mem _ hmem, hlast⟩

/-- Of the tags that are open, the outermost is the one whose element is completed. -/
theorem endsIn_of_match? {ts : List Token} {opened : List Head} {outermost : Head}
    {bounds : Bounds} (hlast : opened.getLast? = some outermost)
    (h : Bounds.match? opened ts = some bounds) : EndsIn ts outermost.name bounds.closing := by
  induction ts generalizing opened with
  | nil => simp [Bounds.match?] at h
  | cons token ts ih =>
    rw [Bounds.match?] at h
    split at h
    · next tag hlexeme =>
      dsimp only at h
      split at h
      · refine (ih ?_ h).cons token
        rw [List.getLast?_cons, hlast, Option.getD_some]
      · simp at hlast
      · exact (ih hlast h).cons token
    · next tag hlexeme =>
      obtain ⟨skipped, hskipped⟩ := List.dropWhile_suffix
        (l := opened) (fun head => head.name != tag.name)
      split at h
      · exact (ih hlast h).cons token
      · next head hdrop =>
        obtain rfl : head = outermost := by
          rw [← hskipped, hdrop] at hlast
          simpa using hlast
        obtain rfl := Option.some.inj h
        have hname := List.head?_dropWhile_not (fun head : Head => head.name != tag.name) opened
        rw [hdrop] at hname
        refine ⟨token, by simp, tag, hlexeme, ?_, rfl⟩
        have hsame : head.name = tag.name := by simpa using hname
        exact hsame.symm
      · next head outer hne hdrop =>
        refine (ih ?_ h).cons token
        rw [hdrop] at hskipped
        cases outer with
        | nil => exact absurd rfl hne
        | cons first outer =>
          rw [← hskipped] at hlast
          rw [← hlast]
          simp [List.getLast?_append, List.getLast?_cons]
    · exact (ih hlast h).cons token

/-! ### Located elements -/

/-- The element at a place in a document, as it stands there: its opening tag, which is read at its
own offset, and the closing tag of its name after its content, if it has one. -/
inductive Located : Text → Span → Prop
  | alone (tag : OpenTag) (before after : Text) :
      Lexeme.read? (tag.text ++ after) = some (.opening tag, after) →
      Located (before ++ (tag.text ++ after)) ⟨⟨before.size, tag⟩, none⟩
  | paired (tag : OpenTag) (close : CloseTag) (before content after : Text) :
      Lexeme.read? (tag.text ++ (content ++ (close.text ++ after))) =
        some (.opening tag, content ++ (close.text ++ after)) →
      close.name = tag.name →
      Located (before ++ (tag.text ++ (content ++ (close.text ++ after))))
        ⟨⟨before.size, tag⟩, some ⟨before.size + tag.text.size + content.size,
          before.size + tag.text.size + content.size + close.text.size⟩⟩

namespace Located

variable {doc : Text} {span : Span}

/-- The opening tag of a located element. -/
theorem opening (h : Located doc span) :
    ∃ before after, doc = before ++ (span.head.tag.text ++ after) ∧
      span.head.start = before.size ∧
      Lexeme.read? (span.head.tag.text ++ after) = some (.opening span.head.tag, after) := by
  cases h with
  | alone tag before after hread => exact ⟨before, after, rfl, rfl, hread⟩
  | paired tag close before content after hread hname => exact ⟨before, _, rfl, rfl, hread⟩

/-- The closing tag of a located element that has one. -/
theorem closing {range : Range} (h : Located doc span) (hclosing : span.closing = some range) :
    ∃ before content close after,
      doc = before ++ (span.head.tag.text ++ (content ++ (CloseTag.text close ++ after))) ∧
      close.name = span.head.tag.name ∧ span.head.start = before.size ∧
      range.start = before.size + span.head.tag.text.size + content.size ∧
      range.stop = range.start + close.text.size := by
  cases h with
  | alone tag before after hread => simp at hclosing
  | paired tag close before content after hread hname =>
    obtain rfl := Option.some.inj hclosing
    exact ⟨before, content, close, after, rfl, hname, rfl, rfl, rfl⟩

/-- A located element as a whole. -/
theorem element (h : Located doc span) :
    ∃ before element after, doc = before ++ (element ++ after) ∧ span.head.start = before.size ∧
      span.stop = before.size + size element := by
  cases h with
  | alone tag before after hread =>
    refine ⟨before, tag.text, after, rfl, rfl, ?_⟩
    rw [Span.stop, Option.elim_none, Head.stop_eq]
  | paired tag close before content after hread hname =>
    refine ⟨before, tag.text ++ (content ++ close.text), after, by simp, rfl, ?_⟩
    simp [Span.stop, Nat.add_assoc]

end Located

/-- The closing tag of an element, and the content before it. -/
theorem exists_closing {n : Nat} {tag : OpenTag} {head : Head} {after : Text} {range : Range}
    (hread : Lexeme.read? (tag.text ++ after) = some (.opening tag, after))
    (h : Bounds.match? [] (place n (items (tag.text ++ after))) = some ⟨head, .explicit range⟩) :
    ∃ content close rest, after = content ++ (CloseTag.text close ++ rest) ∧ close.name = tag.name ∧
      Lexeme.read? (close.text ++ rest) = some (.closing close, rest) ∧
      range = ⟨n + tag.text.size + content.size,
        n + tag.text.size + content.size + close.text.size⟩ := by
  rw [place_of_read? n hread, Bounds.match?] at h
  dsimp only at h
  split at h
  · obtain ⟨token, hmem, close, hlexeme, hname, hclosing⟩ :=
      endsIn_of_match? (List.getLast?_singleton (a := ⟨n, tag⟩)) h
    obtain ⟨between, rest, later, hafter, hstart, hclose⟩ := reads_of_mem_place hmem
    rw [hlexeme] at hclose
    have hrest : rest = close.text ++ later := Lexeme.eq_append_of_read? hclose
    refine ⟨((Lexeme.opening tag).splitRaw after).1 ++ between, close, later, ?_, hname, ?_, ?_⟩
    · rw [List.append_assoc, ← hrest, ← hafter, Lexeme.splitRaw_append]
    · rw [← hrest, hclose]
    · rw [Closing.explicit.injEq] at hclosing
      rw [hclosing, Token.stop, hlexeme, hstart]
      simp [Lexeme.text, Nat.add_assoc]
  · next bounds halone _ =>
    obtain rfl := Option.some.inj h
    unfold Bounds.alone? at halone
    split at halone
    · simp at halone
    · split at halone <;> simp at halone
  · simp_all

theorem located_of_spanOf? {doc : Text} {head : Head} {span : Span}
    (hreads : Reads 0 doc ⟨head.start, .opening head.tag⟩) (h : spanOf? doc head = some span) :
    Located doc span ∧ span.head = head := by
  obtain ⟨before, rest, after, rfl, hstart, hread⟩ := hreads
  obtain ⟨start, tag⟩ := head
  obtain rfl : start = before.size := by simpa using hstart
  obtain rfl : rest = tag.text ++ after := Lexeme.eq_append_of_read? hread
  have halone : Located (before ++ (tag.text ++ after)) ⟨⟨before.size, tag⟩, none⟩ :=
    .alone tag before after hread
  rw [spanOf?] at h
  split at h
  · obtain rfl := Option.some.inj h
    exact ⟨halone, rfl⟩
  · obtain ⟨⟨head, closing⟩, hbounds, hspan⟩ := Option.map_eq_some_iff.mp h
    rw [elementOf?, elementFrom?_append, Option.join_some] at hbounds
    cases closing with
    | explicit range =>
      obtain ⟨content, close, later, rfl, hname, -, rfl⟩ := exists_closing hread hbounds
      obtain rfl := hspan
      exact ⟨.paired tag close before content later hread hname, rfl⟩
    | selfClosing range =>
      obtain rfl := hspan
      exact ⟨halone, rfl⟩
    | void =>
      obtain rfl := hspan
      exact ⟨halone, rfl⟩

theorem reads_of_mem_heads {doc : Text} {head : Head} (h : head ∈ heads doc) :
    Reads 0 doc ⟨head.start, .opening head.tag⟩ :=
  reads_of_mem_place (mem_filterMap_head?.mp h)

/-- The first opening tag inside another one is read where it stands. -/
theorem reads_of_mem_tokensFrom? {doc : Text} {outer head : Head} {ts : List Token}
    (houter : Reads 0 doc ⟨outer.start, .opening outer.tag⟩)
    (hts : tokensFrom? doc outer.stop = some ts) (hmem : head ∈ ts.filterMap Token.head?) :
    Reads 0 doc ⟨head.start, .opening head.tag⟩ := by
  obtain ⟨before, rest, after, rfl, hstart, hread⟩ := houter
  have hrest : rest = outer.tag.text ++ after := Lexeme.eq_append_of_read? hread
  have hstop : outer.stop = (before ++ outer.tag.text).size := by
    have hstart : outer.start = 0 + before.size := hstart
    rw [Head.stop_eq, size_append, hstart, Nat.zero_add]
  rw [hrest, ← List.append_assoc] at hts ⊢
  rw [hstop, tokensFrom?_append] at hts
  obtain rfl := Option.some.inj hts
  refine Reads.append _ ?_
  rw [Nat.zero_add]
  exact reads_of_mem_place (mem_filterMap_head?.mp hmem)

theorem reads_of_firstHead? {doc : Text} {head : Head} (h : firstHead? doc = some head) :
    Reads 0 doc ⟨head.start, .opening head.tag⟩ := by
  simp only [firstHead?, Option.bind_eq_bind, Option.bind_eq_some_iff] at h
  obtain ⟨outer, houter, h⟩ := h
  have hreads := reads_of_mem_heads (List.mem_of_mem_head? houter)
  by_cases hopen : outer.name ≠ templateName ∨ outer.tag.selfClosing = true
  · rw [if_pos hopen] at h
    obtain rfl := Option.some.inj h
    exact hreads
  · rw [if_neg hopen, Option.bind_eq_some_iff] at h
    obtain ⟨⟨start, closing⟩, -, h⟩ := h
    cases closing with
    | explicit range =>
      simp only [Option.bind_eq_some_iff] at h
      obtain ⟨ts, hts, inside, hinside, h⟩ := h
      split at h
      · obtain rfl := Option.some.inj h
        exact reads_of_mem_tokensFrom? hreads hts (List.mem_of_mem_head? hinside)
      · simp at h
    | selfClosing range => simp at h
    | void => simp at h

theorem reads_of_findHead? {doc : Text} {selector : Selector} {head : Head}
    (h : selector.findHead? doc = some head) : Reads 0 doc ⟨head.start, .opening head.tag⟩ := by
  cases selector with
  | first => exact reads_of_firstHead? h
  | tag name => exact reads_of_mem_heads (List.mem_of_find?_eq_some h)
  | attr name => exact reads_of_mem_heads (List.mem_of_find?_eq_some h)
  | attrValue name value => exact reads_of_mem_heads (List.mem_of_find?_eq_some h)

/-- What is located in a document stands there. -/
theorem located_of_locate {doc : Text} {selector : Selector} {span : Span}
    (h : locate doc selector = .ok span) : Located doc span := by
  unfold locate at h
  split at h
  · cases h
  · split at h
    · next span' hspan =>
      obtain ⟨head, hhead, hspan⟩ := Option.bind_eq_some_iff.mp hspan
      obtain rfl := Except.ok.inj h
      exact (located_of_spanOf? (reads_of_findHead? hhead) hspan).1
    · cases h

theorem Draft.exists_locate_eq {draft : Draft} {span : Span} (h : draft.locate = .ok span) :
    ∃ selector, draft.selector = some selector ∧
      Markup.locate draft.document selector = .ok span := by
  unfold Draft.locate at h
  split at h
  · cases h
  · next selector hselector =>
    cases hlocate : Markup.locate draft.document selector with
    | error e => simp [hlocate, Except.mapError] at h
    | ok found =>
      obtain rfl : found = span := by simpa [hlocate, Except.mapError] using h
      exact ⟨selector, hselector, hlocate⟩

theorem located_of_draft {draft : Draft} {span : Span} (h : draft.locate = .ok span) :
    Located draft.document span := by
  obtain ⟨selector, -, hlocate⟩ := Draft.exists_locate_eq h
  exact located_of_locate hlocate

end Graft.Markup
