import Graft.Proofs.Pairing

/-! How the elements of an arbitrary document end: each as its own opening tag says, with `/>`, as a
void element, or with a closing tag of its name that comes later. The offsets of a located element
are therefore in order. -/

namespace Graft.Text

theorem isBoundary_of_eq {t before after : Text} {n : Nat} (ht : t = before ++ after)
    (hn : n = before.size) : t.isBoundary n = true := by
  rw [isBoundary, ht, hn, splitAt?_append]
  rfl

theorem isBoundary_of_slice? {t piece : Text} {start stop : Nat}
    (h : t.slice? start stop = some piece) :
    t.isBoundary start = true ∧ t.isBoundary stop = true := by
  unfold slice? at h
  split at h
  · next hle =>
    simp only [Option.bind_eq_bind, Option.bind_eq_some_iff] at h
    obtain ⟨⟨before, tail⟩, hstart, ⟨middle, after⟩, hstop, -⟩ := h
    obtain ⟨rfl, rfl⟩ := eq_append_of_splitAt? hstart
    obtain ⟨rfl, hsize⟩ := eq_append_of_splitAt? hstop
    refine ⟨isBoundary_of_eq rfl rfl, isBoundary_of_eq (List.append_assoc _ middle _).symm ?_⟩
    rw [size_append]
    omega
  · cases h

end Graft.Text

namespace Graft.Markup

open Text

variable {doc : Text}

/-! ### The element of an opening tag -/

/-- What is found for an opening tag of a document is the tag's own element. It ends with `/>` or as
a void element exactly where the tag says so, and otherwise with a closing tag of the document that
has the same name and comes after the opening tag. -/
structure Bounds.EndsAsOpened (doc : Text) (head : Head) (bounds : Bounds) : Prop where
  head_eq : bounds.head = head
  selfClosing_iff : (∃ range, bounds.closing = .selfClosing range) ↔ head.tag.selfClosing = true
  void_iff : bounds.closing = .void ↔ head.tag.selfClosing = false ∧ head.name ∈ voidNames
  explicit : ∀ range, bounds.closing = .explicit range →
    ∃ close : CloseTag, ⟨range.start, .closing close⟩ ∈ tokens doc ∧ close.name = head.name ∧
      range.stop = range.start + close.text.size ∧ head.stop ≤ range.start

theorem Bounds.isVoid_iff {head : Head} : head.tag.isVoid = true ↔ head.name ∈ voidNames :=
  List.contains_iff_mem

/-- A tag that makes up an element by itself ends it as the tag says. -/
theorem Bounds.endsAsOpened_of_alone? {head : Head} {bounds : Bounds}
    (h : alone? head = some bounds) : bounds.EndsAsOpened doc head := by
  unfold alone? at h
  split at h
  · next hself =>
    obtain rfl := Option.some.inj h
    constructor
    case head_eq => rfl
    case selfClosing_iff => exact iff_of_true ⟨_, rfl⟩ hself
    case void_iff => simp [hself]
    case explicit => simp
  · next hself =>
    split at h
    · next hvoid =>
      obtain rfl := Option.some.inj h
      constructor
      case head_eq => rfl
      case selfClosing_iff => simp [hself]
      case void_iff =>
        exact iff_of_true rfl ⟨(Bool.not_eq_true _).mp hself, isVoid_iff.mp hvoid⟩
      case explicit => simp
    · cases h

/-- The outermost open tag, which is the first of the tokens, is the one that they complete. -/
theorem Bounds.endsAsOpened_of_elementOf? {head : Head} {bounds : Bounds}
    (hhead : head ∈ heads doc) (h : elementOf? doc head = some bounds) :
    bounds.EndsAsOpened doc head := by
  obtain ⟨front, later, htokens⟩ := List.append_of_mem (mem_filterMap_head?.mp hhead)
  have hmatch := h
  rw [elementOf?_of_tokens htokens] at hmatch
  cases halone : alone? head with
  | some completed =>
    rw [match?_alone_nil halone] at hmatch
    obtain rfl := Option.some.inj hmatch
    exact endsAsOpened_of_alone? halone
  | none =>
    have hpaired := isSome_alone? head
    rw [halone, Option.isSome_none, eq_comm, Bool.or_eq_false_iff] at hpaired
    obtain ⟨hself, hvoid⟩ := hpaired
    rw [match?_open halone] at hmatch
    obtain ⟨token, -, close, -, -, hclosing⟩ := endsIn_of_match? List.getLast?_singleton hmatch
    constructor
    case head_eq => exact head_of_match? rfl hmatch
    case selfClosing_iff => simp [hclosing, hself]
    case void_iff =>
      rw [← isVoid_iff, hclosing, hvoid]
      simp
    case explicit =>
      intro range hrange
      exact exists_closing_of_elementOf? hhead h hrange

/-! ### The offsets of a located element -/

/-- The offsets between which the tags of an element and the name in its opening tag stand. -/
def Span.offsets (span : Span) : List Nat :=
  [span.head.start, span.head.nameStart, span.head.nameEnd, span.head.stop] ++
    span.closing.elim [] fun range => [range.start, range.stop]

/-- The offsets of an element come in order, and each of them lies between two characters of the
document. The closing tag is absent exactly where the opening tag asks for none. -/
structure Span.InOrder (doc : Text) (span : Span) : Prop where
  start_lt_nameStart : span.head.start < span.head.nameStart
  nameStart_lt_nameEnd : span.head.nameStart < span.head.nameEnd
  nameEnd_lt_stop : span.head.nameEnd < span.head.stop
  stop_le : span.head.stop ≤ doc.size
  closing : ∀ range, span.closing = some range →
    span.head.stop ≤ range.start ∧ range.start < range.stop ∧ range.stop ≤ doc.size
  isBoundary : ∀ n ∈ span.offsets, doc.isBoundary n = true
  closing_eq_none_iff :
    span.closing = none ↔ span.head.tag.selfClosing = true ∨ span.head.name ∈ voidNames

theorem OpenTag.delimiter_size_pos (tag : OpenTag) : 0 < tag.delimiter.size := by
  rw [delimiter]
  split <;> decide

namespace Span

variable {span : Span}

/-- The offsets of an opening tag that is read where it stands. -/
theorem opening_inOrder {before after : Text}
    (hdoc : doc = before ++ (span.head.tag.text ++ after)) (hstart : span.head.start = before.size)
    (hname : IsTagName span.head.name) :
    span.head.start < span.head.nameStart ∧ span.head.nameStart < span.head.nameEnd ∧
      span.head.nameEnd < span.head.stop ∧ span.head.stop ≤ doc.size ∧
      ∀ n ∈ [span.head.start, span.head.nameStart, span.head.nameEnd, span.head.stop],
        doc.isBoundary n = true := by
  have hsize : 0 < span.head.tag.name.size := by
    obtain ⟨c, cs, hcons, -, -⟩ := hname
    refine size_pos ?_
    intro hnil
    rw [Head.name, hnil] at hcons
    cases hcons
  have hdelimiter := span.head.tag.delimiter_size_pos
  have hstop : span.head.stop = (before ++ span.head.tag.text).size := by
    rw [Head.stop_eq, hstart, size_append]
  refine ⟨Nat.lt_succ_self _, ?_, ?_, ?_, ?_⟩
  · rw [Head.nameEnd]
    omega
  · rw [Head.stop, Head.delimiterStart]
    omega
  · rw [hstop, hdoc, ← List.append_assoc, size_append _ after]
    exact Nat.le_add_right _ _
  · simp only [List.forall_mem_cons]
    refine ⟨isBoundary_of_eq hdoc hstart, ?_, ?_, ?_, by simp⟩
    · have hname := span.head.tag.append_name before after
      exact isBoundary_of_eq (hdoc.trans hname) (Head.nameStart_eq hstart)
    · have hinner := span.head.tag.append_text before after
      exact isBoundary_of_eq (hdoc.trans hinner) (Head.nameEnd_eq hstart)
    · exact isBoundary_of_eq (hdoc.trans (List.append_assoc before _ after).symm) hstop

/-- The offsets of a closing tag that stands after the content of its element. -/
theorem closing_inOrder {range : Range} (h : Located doc span)
    (hclosing : span.closing = some range) :
    (span.head.stop ≤ range.start ∧ range.start < range.stop ∧ range.stop ≤ doc.size) ∧
      doc.isBoundary range.start = true ∧ doc.isBoundary range.stop = true := by
  obtain ⟨before, content, close, after, hdoc, -, hstart, hrange, hstop⟩ := h.closing hclosing
  have hcut : doc = before ++ span.head.tag.text ++ content ++ (close.text ++ after) := by
    rw [hdoc]
    simp
  have hfirst : range.start = (before ++ span.head.tag.text ++ content).size := by
    rw [hrange, size_append, size_append]
  have hlast : range.stop = (before ++ span.head.tag.text ++ content ++ close.text).size := by
    rw [size_append, ← hfirst, hstop]
  have hcut' : doc = before ++ span.head.tag.text ++ content ++ close.text ++ after := by
    rw [hcut, List.append_assoc _ close.text]
  have hclose : 0 < close.text.size := size_pos (Lexeme.closing close).text_ne_nil
  refine ⟨⟨?_, ?_, ?_⟩, isBoundary_of_eq hcut hfirst, isBoundary_of_eq hcut' hlast⟩
  · rw [Head.stop_eq, hrange, hstart]
    omega
  · omega
  · rw [hlast, hcut', size_append _ after]
    exact Nat.le_add_right _ _

/-- A closing tag is absent exactly where the element is self-closing or void. -/
theorem closing_eq_none_of_spanOf? (hmem : span.head ∈ heads doc)
    (hspan : spanOf? doc span.head = some span) :
    span.closing = none ↔ span.head.tag.selfClosing = true ∨ span.head.name ∈ voidNames := by
  rw [spanOf?] at hspan
  split at hspan
  · next hself =>
    rw [← Option.some.inj hspan]
    exact iff_of_true rfl (.inl hself)
  · next hself =>
    obtain ⟨bounds, hbounds, hspan⟩ := Option.map_eq_some_iff.mp hspan
    have hends := Bounds.endsAsOpened_of_elementOf? hmem hbounds
    split at hspan
    · next range hclosing =>
      refine iff_of_false ?_ ?_
      · rw [← hspan]
        exact Option.some_ne_none range
      · rintro (hyes | hvoid)
        · exact hself hyes
        · have hvoid := hends.void_iff.mpr ⟨(Bool.not_eq_true _).mp hself, hvoid⟩
          rw [hclosing] at hvoid
          cases hvoid
    · next range hclosing =>
      exact absurd (hends.selfClosing_iff.mp ⟨range, hclosing⟩) hself
    · next hclosing =>
      refine iff_of_true ?_ (.inr (hends.void_iff.mp hclosing).2)
      rw [← hspan]

theorem inOrder_of_locate {selector : Selector} (h : locate doc selector = .ok span) :
    span.InOrder doc := by
  obtain ⟨hmem, hspan⟩ := spanOf?_of_locate h
  have hlocated := located_of_locate h
  obtain ⟨before, after, hdoc, hstart, hread⟩ := hlocated.opening
  obtain ⟨hname, hletters, hinner, hstop, hboundary⟩ :=
    opening_inOrder hdoc hstart (Lexeme.isTagName_of_read? hread)
  constructor
  case start_lt_nameStart => exact hname
  case nameStart_lt_nameEnd => exact hletters
  case nameEnd_lt_stop => exact hinner
  case stop_le => exact hstop
  case closing => exact fun range hclosing => (closing_inOrder hlocated hclosing).1
  case isBoundary =>
    intro n hn
    rw [offsets, List.mem_append] at hn
    obtain hn | hn := hn
    · exact hboundary n hn
    · cases hclosing : span.closing with
      | none => simp [hclosing] at hn
      | some range =>
        obtain ⟨-, hfirst, hlast⟩ := closing_inOrder hlocated hclosing
        rw [hclosing, Option.elim_some, List.mem_pair] at hn
        obtain rfl | rfl := hn
        · exact hfirst
        · exact hlast
  case closing_eq_none_iff => exact closing_eq_none_of_spanOf? hmem hspan

end Span

/-- In every document, an opening tag that is paired at all is paired as it says itself, and the
offsets of each located element are in order. -/
theorem elements_end_as_opened (doc : Text) :
    (∀ head ∈ heads doc, ∃ found, elementFrom? doc head.start = some found ∧
      ∀ bounds ∈ found, bounds.EndsAsOpened doc head) ∧
    ∀ selector span, locate doc selector = .ok span → span.InOrder doc := by
  constructor
  · intro head hhead
    obtain ⟨before, rest, -, hdoc, hstart, -⟩ := reads_of_mem_heads hhead
    have hstart : head.start = before.size := by simpa using hstart
    have hfound := elementFrom?_append before rest
    rw [← hdoc, ← hstart] at hfound
    refine ⟨_, hfound, fun bounds hbounds => ?_⟩
    refine Bounds.endsAsOpened_of_elementOf? hhead ?_
    rw [elementOf?, hfound, Option.join_some]
    exact hbounds
  · intro selector span h
    exact Span.inOrder_of_locate h

/-- Two list items that are never closed, a void element and a stray closing tag in a list. -/
theorem elements_end_as_opened_unclosed :
    let doc := "<ul><li>é<li><br></i></ul>".toList
    (∃ head ∈ heads doc, ∃ bounds, elementFrom? doc head.start = some (some bounds) ∧
      bounds.closing = .explicit ⟨22, 27⟩ ∧ bounds.EndsAsOpened doc head) ∧
    ∃ span, locate doc (.tag "br".toList) = .ok span ∧ span.InOrder doc := by
  intro doc
  let list : Head := ⟨0, ⟨"ul".toList, [], false⟩⟩
  let void : Head := ⟨14, ⟨"br".toList, [], false⟩⟩
  have hmem : list ∈ heads doc := by decide +kernel
  have helement : elementFrom? doc list.start = some (some ⟨list, .explicit ⟨22, 27⟩⟩) := by
    decide +kernel
  have hlocate : locate doc (.tag "br".toList) = .ok ⟨void, none⟩ := by decide +kernel
  obtain ⟨hpaired, hplaced⟩ := elements_end_as_opened doc
  obtain ⟨found, hfound, hends⟩ := hpaired list hmem
  obtain rfl := Option.some.inj (hfound.symm.trans helement)
  exact ⟨⟨list, hmem, _, helement, rfl, hends _ rfl⟩, _, hlocate, hplaced _ _ hlocate⟩

end Graft.Markup
