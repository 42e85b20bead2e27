import Graft.Proofs.HeadPart
import Graft.Proofs.Retag

/-! A tag whose parts are put together anew. It is read back unless its name goes on or its end is
found elsewhere, and then a draft goes on to locate it. -/

namespace Graft.Markup

open Text

/-! ### The end of a tag -/

namespace HeadState

/-- Whether no character of a text ends the head. -/
def clears : HeadState → Text → Bool
  | _, [] => true
  | s, c :: cs => !s.ends c && (s.next c).clears cs

/-- Whether the first `>` after a text, and none in it, ends the head. -/
def passes (s : HeadState) (t : Text) : Bool := s.clears t && !(t.foldl next s).isQuoted

theorem readHead?_iff {s : HeadState} {t rest : Text} :
    readHead? s (t ++ '>' :: rest) = some (t, rest) ↔ s.passes t = true := by
  induction t generalizing s with
  | nil => cases s <;> simp [readHead?, ends, passes, clears, isQuoted]
  | cons c cs ih =>
    rw [List.cons_append, readHead?, passes, clears, List.foldl_cons, Bool.and_assoc, ← passes]
    cases hends : s.ends c with
    | true => simp
    | false => simp [← ih]

/-- A `/` is no quote, so it leaves a value as open as it was. -/
theorem passes_slash {s : HeadState} (hs : ∀ q, s = .quoted q → isQuote q = true) (t : Text) :
    s.passes (t ++ ['/']) = s.passes t := by
  induction t generalizing s with
  | nil =>
    cases s with
    | outside => rfl
    | afterEquals => rfl
    | quoted q =>
      have hne : '/' ≠ q := by
        rintro rfl
        cases hs _ rfl
      simp [passes, clears, ends, next, hne]
  | cons c cs ih =>
    have hnext : ∀ q, s.next c = .quoted q → isQuote q = true :=
      fun q hq => isQuote_of_foldl (t := [c]) hs hq
    have hrest := ih hnext
    simp only [passes, clears, List.cons_append, List.foldl_cons, Bool.and_assoc] at hrest ⊢
    rw [hrest]

end HeadState

/-- What stands between the name of a tag and its `>`. -/
def OpenTag.head (tag : OpenTag) : Text := tag.inner ++ if tag.selfClosing then ['/'] else []

theorem OpenTag.text_append (tag : OpenTag) (after : Text) :
    tag.text ++ after = '<' :: tag.name ++ (tag.head ++ '>' :: after) := by
  cases hself : tag.selfClosing <;> simp [text, delimiter, head, hself]

theorem OpenTag.passes_head (tag : OpenTag) :
    HeadState.passes .outside tag.head = HeadState.passes .outside tag.inner := by
  rw [head]
  split
  · exact HeadState.passes_slash (by simp) tag.inner
  · rw [List.append_nil]

theorem OpenTag.head?_inner_iff (tag : OpenTag) (after : Text) :
    (∀ c ∈ tag.inner.head?, isNameChar c = false) ↔
      ∀ c ∈ (tag.head ++ '>' :: after).head?, isNameChar c = false := by
  obtain ⟨name, inner, selfClosing⟩ := tag
  cases inner with
  | nil => cases selfClosing <;> simp [head, isNameChar]
  | cons c inner => simp [head]

theorem OpenTag.name_ofHead (name head : Text) : (ofHead name head).name = name := by
  rw [ofHead]
  split <;> rfl

theorem OpenTag.ofHead_head_iff (tag : OpenTag) :
    ofHead tag.name tag.head = tag ↔
      (tag.selfClosing = false → tag.inner.getLast? ≠ some '/') := by
  obtain ⟨name, inner, selfClosing⟩ := tag
  cases selfClosing with
  | true => simpa [head] using ofHead_slash name inner
  | false =>
    simp only [head, Bool.false_eq_true, if_false, List.append_nil, forall_const]
    refine ⟨fun hof hlast => ?_, fun hlast => ofHead_of_ne hlast⟩
    rw [ofHead, if_pos hlast] at hof
    cases (OpenTag.mk.inj hof).2.2

/-- When a tag is read back from its text: the name does not go on, the `>` after the head is the
first that ends it, and no `/` before it counts as its delimiter. -/
theorem read?_openTag_iff {tag : OpenTag} (hname : IsTagName tag.name) {after : Text} :
    Lexeme.read? (tag.text ++ after) = some (.opening tag, after) ↔
      (∀ c ∈ tag.inner.head?, isNameChar c = false) ∧
      HeadState.passes .outside tag.inner = true ∧
      (tag.selfClosing = false → tag.inner.getLast? ≠ some '/') := by
  obtain ⟨c, cs, hcons, hc, -⟩ := id hname
  have hread : Lexeme.read? (tag.text ++ after) =
      Lexeme.readOpening? (tag.name ++ (tag.head ++ '>' :: after)) := by
    rw [OpenTag.text_append, hcons]
    exact read?_letter hc _
  rw [hread, Lexeme.readOpening?, ← tag.passes_head, ← tag.ofHead_head_iff,
    tag.head?_inner_iff after]
  constructor
  · intro h
    simp only [Option.bind_eq_bind, Option.bind_eq_some_iff] at h
    obtain ⟨⟨name, tail⟩, hname', ⟨head, after'⟩, hhead, heq⟩ := h
    obtain ⟨hlexeme, rfl⟩ := Prod.mk.inj (Option.some.inj heq)
    have htag : OpenTag.ofHead name head = tag := Lexeme.opening.inj hlexeme
    obtain rfl : name = tag.name := by rw [← htag, OpenTag.name_ofHead]
    obtain rfl := List.append_cancel_left (eq_append_of_readName? hname').1
    obtain rfl := List.append_cancel_right (eq_append_of_readHead? hhead)
    exact ⟨(isTagName_of_readName? hname').2, HeadState.readHead?_iff.mp hhead, htag⟩
  · rintro ⟨hhead, hpasses, htag⟩
    simp only [readName?_append hname hhead, HeadState.readHead?_iff.mpr hpasses, htag,
      Option.bind_eq_bind, Option.bind_some]
    rfl

theorem OpenTag.entries_attributes (tag : OpenTag) :
    tag.attributes.map Attribute.entry = HeadPart.entries (HeadPart.readAll tag.inner) := by
  rfl

/-- The tag with other parts between its name and its end. -/
def OpenTag.withParts (tag : OpenTag) (parts : List HeadPart) : OpenTag :=
  { tag with inner := parts.flatMap HeadPart.text }

/-- Between the name and the end of a tag, parts are kept apart from both and from one another. -/
structure OpenTag.StaysApart (tag : OpenTag) (parts : List HeadPart) : Prop where
  name : ∀ c ∈ (parts.flatMap HeadPart.text).head?, isNameChar c = false
  passes : HeadState.passes .outside (parts.flatMap HeadPart.text) = true
  slash : tag.selfClosing = false → (parts.flatMap HeadPart.text).getLast? ≠ some '/'
  apart : HeadPart.apart parts = true

section Reread

variable {tag : OpenTag} {parts : List HeadPart} (hname : IsTagName tag.name)
  (hparts : HeadPart.Legible parts)

include hname hparts

theorem OpenTag.StaysApart.read? (h : tag.StaysApart parts) (after : Text) :
    Lexeme.read? ((tag.withParts parts).text ++ after) =
        some (.opening (tag.withParts parts), after) ∧
      HeadPart.readAll (tag.withParts parts).inner = parts := by
  have hname' : IsTagName (tag.withParts parts).name := hname
  exact ⟨(read?_openTag_iff hname').mpr ⟨h.name, h.passes, h.slash⟩,
    HeadPart.readAll_flatMap hparts h.apart⟩

/-- A tag of other parts is read with the same name, self-closing or not as before, and with the
attributes among the parts, exactly where the parts stay apart. -/
theorem OpenTag.reread_iff (after : Text) :
    (∃ read rest, Lexeme.read? ((tag.withParts parts).text ++ after) = some (.opening read, rest) ∧
      read.name = tag.name ∧ read.selfClosing = tag.selfClosing ∧
      read.attributes.map Attribute.entry = HeadPart.entries parts) ↔ tag.StaysApart parts := by
  have hname' : IsTagName (tag.withParts parts).name := hname
  constructor
  · rintro ⟨⟨name, inner, selfClosing⟩, rest, hread, rfl, rfl, hentries⟩
    rw [entries_attributes] at hentries
    -- both heads hold as many `>` as the attributes do, so they end at the same one
    have hcount : (tag.withParts parts).head.count '>' =
        (OpenTag.head ⟨tag.name, inner, tag.selfClosing⟩).count '>' := by
      have hinner := HeadPart.count_flatMap_text (HeadPart.legible_readAll inner)
      rw [HeadPart.flatMap_text_readAll, hentries] at hinner
      rw [head, head, List.count_append, List.count_append, withParts,
        HeadPart.count_flatMap_text hparts, hinner]
    have hcut := Lexeme.eq_append_of_read? hread
    rw [Lexeme.text, text_append, text_append] at hcut
    obtain rfl : parts.flatMap HeadPart.text = inner :=
      List.append_cancel_right (eq_of_append_cons (List.append_cancel_left hcut) hcount)
    obtain rfl : after = rest := by simpa [withParts] using hcut
    obtain ⟨hhead, hpasses, hslash⟩ := (read?_openTag_iff hname').mp hread
    exact ⟨hhead, hpasses, hslash, (HeadPart.entries_readAll_iff hparts).mp hentries⟩
  · intro h
    obtain ⟨hread, hall⟩ := h.read? hname hparts after
    refine ⟨_, _, hread, rfl, rfl, ?_⟩
    rw [entries_attributes, hall]

end Reread

/-! ### Revisions -/

theorem headAt?_append_iff {before rest : Text} {tag : OpenTag} :
    headAt? (before ++ rest) before.size = some ⟨before.size, tag⟩ ↔
      ∃ after, Lexeme.read? rest = some (.opening tag, after) := by
  constructor
  · intro h
    obtain ⟨token, htoken, hhead⟩ := Option.bind_eq_some_iff.mp h
    obtain rfl := head?_eq_some_iff.mp hhead
    exact (tokenAt?_append_iff.mp htoken).2
  · rintro ⟨after, hread⟩
    rw [headAt?, tokenAt?_append before hread]
    rfl

namespace AttributeRevision

theorem onTag_eq_withParts (r : AttributeRevision) (tag : OpenTag) :
    r.onTag tag = tag.withParts (r.onParts (HeadPart.readAll tag.inner)) := rfl

section Reread

variable [Digest] {draft revised : Draft} {span : Span} (located : draft.locate = .ok span)
  {r : AttributeRevision} (hrun : r.run draft = .ok revised) {parts : List HeadPart}
  (hparts : r.onParts (HeadPart.readAll span.head.tag.inner) = parts)
  (legible : HeadPart.Legible parts)

include located hrun hparts legible

/-- The tag that a revision of attributes leaves is read with the attributes that it wrote where
their parts stay apart, and nowhere else. -/
theorem reread_iff :
    (∃ tag, headAt? revised.document span.head.start = some ⟨span.head.start, tag⟩ ∧
      tag.name = span.head.tag.name ∧ tag.selfClosing = span.head.tag.selfClosing ∧
      tag.attributes.map Attribute.entry = HeadPart.entries parts) ↔
    span.head.tag.StaysApart parts := by
  obtain ⟨before, after, hdoc, hstart, hread⟩ := (located_of_draft located).opening
  have hname := Lexeme.isTagName_of_read? hread
  rw [r.run_of_locate located hdoc hstart, onTag_eq_withParts, hparts] at hrun
  obtain rfl := Except.ok.inj hrun
  rw [← OpenTag.reread_iff hname legible after, hstart]
  simp only [headAt?_append_iff, exists_and_right]

/-- There the draft goes on to locate the tag. -/
theorem exists_locate_revised (apart : span.head.tag.StaysApart parts)
    (readsName : ∀ selector ∈ draft.selector, selector.readsName = true)
    (ends : TagsEndBefore draft.document span.head.start) :
    ∃ place before after, revised.locate = .ok place ∧
      place.head = ⟨span.head.start, span.head.tag.withParts parts⟩ ∧
      HeadPart.readAll place.head.tag.inner = parts ∧ span.head.start = before.size ∧
      revised.document = before ++ (place.head.tag.text ++ after) ∧
      headAt? revised.document span.head.start = some place.head := by
  obtain ⟨before, after, hdoc, hstart, hread⟩ := (located_of_draft located).opening
  obtain ⟨hread', hall⟩ := apart.read? (Lexeme.isTagName_of_read? hread) legible after
  rw [r.run_of_locate located hdoc hstart, onTag_eq_withParts, hparts] at hrun
  obtain rfl := Except.ok.inj hrun
  obtain ⟨selector, hselector⟩ : ∃ selector, draft.selector = some selector := by
    cases hselector : draft.selector with
    | none => simp [Draft.locate, hselector] at located
    | some selector => exact ⟨selector, rfl⟩
  have hname : (span.head.tag.withParts parts).name = span.head.tag.name := rfl
  have hself : (span.head.tag.withParts parts).selfClosing = span.head.tag.selfClosing := rfl
  obtain ⟨place, hplace, hhead⟩ := Draft.exists_locate hselector
    (readsName selector hselector) located hdoc hstart ends hname hself hread'
  refine ⟨place, before, after, hplace, hhead, ?_, hstart, ?_, ?_⟩
  · rw [hhead]
    exact hall
  · rw [hhead]
  · rw [hhead, hstart]
    exact headAt?_append_iff.mpr ⟨after, hread'⟩

/-- There the values of the attributes are those that were written, and a revision that changes
none of them leaves the draft as it is. -/
theorem attributeValue_and_run (apart : span.head.tag.StaysApart parts)
    (readsName : ∀ selector ∈ draft.selector, selector.readsName = true)
    (ends : TagsEndBefore draft.document span.head.start) :
    (∀ name, revised.attributeValue name = .ok (valueIn name (HeadPart.entries parts))) ∧
      ∀ r' : AttributeRevision, r'.onParts parts = parts → r'.run revised = .ok revised := by
  obtain ⟨place, before, after, hplace, hhead, hall, hstart, hdoc, hheadAt⟩ :=
    exists_locate_revised located hrun hparts legible apart readsName ends
  refine ⟨fun name => ?_, fun r' hsame => ?_⟩
  · rw [hhead] at hheadAt
    rw [attributeValue_of_headAt? hplace (by rw [hhead]) hheadAt, OpenTag.entries_attributes]
    rw [hhead] at hall
    rw [hall]
  · have hplaceStart : place.head.start = before.size := by rw [hhead]; exact hstart
    have hagain := r'.run_of_locate hplace hdoc hplaceStart
    have htag : place.head.tag.withParts parts = place.head.tag := by rw [hhead]; rfl
    rw [onTag_eq_withParts, hall, hsame, htag, ← hdoc] at hagain
    exact hagain

end Reread

end AttributeRevision

end Graft.Markup
