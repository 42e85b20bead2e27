import Graft.Proofs.AttributeRevision

/-! The frame of revisions: what each revision of an arbitrary document changes, and the errors that
it may end in. All else in the document stays as it is, and no edit is ever refused. -/

namespace Graft.Markup

open Text

/-! ### Revisions and their effects -/

/-- A revision of the selected element, with its arguments. -/
inductive Revision
  | attributes (r : AttributeRevision)
  | replaceInAttribute (name : Text) (pattern : Matcher) (replacement : Text)
  | transformAttribute (name : Text) (f : Text → Option Text)
  | removeElement
  | renameElement (name : Text)
  | insertBefore (html : Text)
  | insertAfter (html : Text)
  | insertInside (html : Text)
  | unwrapElement

/-- The element at a place is gone from a document. -/
def Span.RemovedFrom (span : Span) (doc new : Text) : Prop :=
  ∃ before element after,
    doc.cut? 0 [span.head.start, span.stop] = some [before, element, after] ∧ new = before ++ after

/-- Nothing has changed in a document but what stands between the name of a tag and its end. -/
def Head.AttributesChanged (head : Head) (doc new : Text) : Prop :=
  ∃ before inner inner' after,
    doc.cut? 0 [head.nameEnd, head.delimiterStart] = some [before, inner, after] ∧
      new = before ++ inner' ++ after

/-- A text stands at an offset of a document and has been inserted there. -/
def InsertedAt (offset : Nat) (html doc new : Text) : Prop :=
  ∃ before after, doc.cut? 0 [offset] = some [before, after] ∧ new = before ++ html ++ after

namespace Revision

/-- What a revision does to a document in which the selected element stands at a place. -/
def Effect (span : Span) (doc new : Text) : Revision → Prop
  | attributes _ | replaceInAttribute _ _ _ | transformAttribute _ _ =>
    span.head.AttributesChanged doc new
  | removeElement => span.RemovedFrom doc new
  | renameElement name =>
    match span.closing with
    | none => ∃ before after, doc.cut? 0 [span.head.nameStart, span.head.nameEnd] =
        some [before, span.head.name, after] ∧ new = before ++ name ++ after
    | some range => ∃ before between after,
        doc.cut? 0 [span.head.nameStart, span.head.nameEnd, range.start + 2,
          range.start + 2 + span.head.name.size] =
          some [before, span.head.name, between, span.head.name, after] ∧
        new = before ++ name ++ between ++ name ++ after
  | insertBefore html => InsertedAt span.head.start html doc new
  | insertAfter html => InsertedAt span.stop html doc new
  | insertInside html => ∃ range, span.closing = some range ∧ InsertedAt range.start html doc new
  | unwrapElement =>
    match span.closing with
    | none => span.RemovedFrom doc new
    | some range => ∃ before opening content closing after,
        doc.cut? 0 [span.head.start, span.head.stop, range.start, range.stop] =
          some [before, opening, content, closing, after] ∧
        new = before ++ content ++ after

/-- Why a revision of a draft is refused. -/
inductive Refuses (draft : Draft) : Revision → DraftError → Prop
  | invalidSelector (r : Revision) (fault : Selector.Fault) :
      draft.locate = .error (.locate (.invalidSelector fault)) →
      Refuses draft r (.locate (.invalidSelector fault))
  | notFound (r : Revision) (selector : Selector) :
      draft.locate = .error (.locate (.notFound selector)) →
      Refuses draft r (.locate (.notFound selector))
  | attributeNotFound (name : Text) (pattern : Matcher) (replacement : Text) (span : Span) :
      draft.locate = .ok span → span.head.find? name = none →
      Refuses draft (.replaceInAttribute name pattern replacement) (.attributeNotFound name)
  | rename (name : Text) : Draft.isTagName name = false →
      Refuses draft (.renameElement name) (.unsupported (.rename name))
  | insertInside (html : Text) (span : Span) : draft.locate = .ok span → span.closing = none →
      Refuses draft (.insertInside html) (.unsupported .insertInside)

variable [Digest]

def run (draft : Draft) : Revision → Except DraftError Draft
  | attributes r => r.run draft
  | replaceInAttribute name pattern replacement =>
    draft.replaceInAttribute name pattern replacement
  | transformAttribute name f => draft.transformAttribute name f
  | removeElement => draft.removeElement
  | renameElement name => draft.renameElement name
  | insertBefore html => draft.insertBefore html
  | insertAfter html => draft.insertAfter html
  | insertInside html => draft.insertInside html
  | unwrapElement => draft.unwrapElement

end Revision

/-! ### Boundaries -/

/-- The text of an attribute, its name and its value each stand between boundaries of a document
at the offsets where they are taken out of it. -/
structure PlacedAttribute.Aligned (doc : Text) (a : PlacedAttribute) : Prop where
  text : doc.slice? a.start a.stop = some a.attr.text
  name : doc.slice? a.nameStart a.nameEnd = some a.attr.name
  written : ∀ s, a.attr.assignment = some s →
    doc.slice? (a.writtenStart s) a.stop = some s.value.written
  value : ∀ s, a.attr.assignment = some s →
    doc.slice? (a.valueStart s) (a.valueEnd s) = some s.value.text

/-- The text of an opening tag, its name and its attributes stand between boundaries of a document,
and the document can be read on from both ends of the tag. -/
structure Head.Aligned (doc : Text) (head : Head) : Prop where
  text : doc.slice? head.start head.stop = some head.tag.text
  name : doc.slice? head.nameStart head.nameEnd = some head.name
  readable : (tokensFrom? doc head.start).isSome ∧ (tokensFrom? doc head.stop).isSome
  attributes : ∀ a ∈ head.attributes, a.Aligned doc

/-- The text of a value stands after its quote, if it has one. -/
theorem Value.exists_written (v : Value) :
    ∃ opening closing, v.written = opening ++ (v.text ++ closing) ∧
      size opening = v.quote?.elim 0 Char.utf8Size := by
  cases v with
  | quoted quote text ended =>
    exact ⟨[quote], if ended then [quote] else [], by simp [written, Value.text], by simp [quote?]⟩
  | unquoted text => exact ⟨[], [], by simp [written, Value.text], by simp [quote?]⟩

theorem PlacedAttribute.StandsIn.aligned {doc : Text} {a : PlacedAttribute} (h : a.StandsIn doc) :
    a.Aligned doc := by
  obtain ⟨before, after, hdoc, hstart⟩ := h.cut
  refine ⟨?_, ?_, fun s hs => ?_, fun s hs => ?_⟩
  · exact slice?_of_eq hdoc hstart (by rw [stop, hstart])
  · have hcut : doc = before ++ a.attr.lead ++
        (a.attr.name ++ (Attribute.assignmentText a.attr.assignment ++ after)) := by
      simp [hdoc, Attribute.text]
    refine slice?_of_eq hcut ?_ ?_
    · simp [nameStart, hstart]
    · simp [nameEnd, nameStart, hstart]
  · have hcut : doc = before ++ a.attr.lead ++ a.attr.name ++ s.gap ++
        (s.value.written ++ after) := by
      simp [hdoc, Attribute.text, hs, Attribute.assignmentText, Assignment.text]
    refine slice?_of_eq hcut ?_ ?_
    · simp [writtenStart, nameEnd, nameStart, hstart, Nat.add_assoc]
    · simp [stop, Attribute.text, hs, Attribute.assignmentText, Assignment.text, hstart]
      omega
  · obtain ⟨opening, closing, hwritten, hquote⟩ := s.value.exists_written
    have hcut : doc = before ++ a.attr.lead ++ a.attr.name ++ s.gap ++ opening ++
        (s.value.text ++ (closing ++ after)) := by
      simp [hdoc, Attribute.text, hs, Attribute.assignmentText, Assignment.text, hwritten]
    refine slice?_of_eq hcut ?_ ?_
    · simp [valueStart, writtenStart, nameEnd, nameStart, hstart, hquote, Nat.add_assoc]
    · simp [valueEnd, valueStart, writtenStart, nameEnd, nameStart, hstart, hquote, Nat.add_assoc]

theorem aligned_of_reads {doc : Text} {head : Head}
    (h : Reads 0 doc ⟨head.start, .opening head.tag⟩) : head.Aligned doc := by
  obtain ⟨before, rest, after, hdoc, hstart, hread⟩ := h
  have hrest : rest = head.tag.text ++ after := Lexeme.eq_append_of_read? hread
  have hstart : head.start = before.size := by simpa using hstart
  have hstop : head.stop = (before ++ head.tag.text).size := by
    rw [Head.stop_eq, hstart, size_append]
  rw [hrest] at hdoc
  refine ⟨?_, ?_, ⟨?_, ?_⟩, fun a ha => ?_⟩
  · exact slice?_of_eq hdoc hstart (by rw [hstop, size_append])
  · have hnameStart := head.nameStart_eq hstart
    rw [OpenTag.append_name] at hdoc
    exact slice?_of_eq hdoc hnameStart (by rw [← hnameStart]; rfl)
  · rw [hstart, hdoc, tokensFrom?_append]
    rfl
  · rw [hstop, hdoc, ← List.append_assoc, tokensFrom?_append]
    rfl
  · rw [hdoc]
    exact (Head.standsIn_of_mem hstart ha).aligned

/-! ### Location in a draft -/

/-- A revision of an element that is not located is refused. -/
theorem Revision.refuses_of_locate {draft : Draft} {e : DraftError}
    (h : draft.locate = .error e) (r : Revision) : r.Refuses draft e := by
  have hlocate := h
  unfold Draft.locate at hlocate
  split at hlocate
  · obtain rfl := Except.error.inj hlocate
    exact .invalidSelector r _ h
  · next selector _ =>
    cases hfound : locate draft.document selector with
    | ok span => simp [hfound, Except.mapError] at hlocate
    | error e' =>
      obtain rfl : .locate e' = e := by simpa [hfound, Except.mapError] using hlocate
      cases e' with
      | invalidSelector fault => exact .invalidSelector r fault h
      | notFound selector => exact .notFound r selector h

/-! ### The effect of each revision -/

theorem attributesChanged {before after : Text} {head : Head} (inner : Text)
    (hstart : head.start = before.size) :
    head.AttributesChanged (before ++ (head.tag.text ++ after))
      (before ++ ({ head.tag with inner }.text ++ after)) := by
  have hend := head.nameEnd_eq hstart
  refine ⟨before ++ '<' :: head.tag.name, head.tag.inner, inner, head.tag.delimiter ++ after,
    cut?_cons (OpenTag.append_text _ _ _) (by omega) (cut?_cons rfl rfl (cut?_nil _ _)), ?_⟩
  rw [OpenTag.append_text, ← List.append_assoc]
  rfl

/-- The opening tag with another name. -/
def OpenTag.withName (tag : OpenTag) (name : Text) : OpenTag := { tag with name }

theorem OpenTag.text_withName (tag : OpenTag) (name : Text) :
    (tag.withName name).text = '<' :: (name ++ tag.inner ++ tag.delimiter) := rfl

/-- The closing tag with another name. -/
def CloseTag.withName (tag : CloseTag) (name : Text) : CloseTag := { tag with name }

section Effects

variable [Digest] {draft : Draft} {span : Span}

theorem effect_attributes (hlocate : draft.locate = .ok span) (r : AttributeRevision) :
    ∃ new, r.run draft = .ok { draft with document := new } ∧
      span.head.AttributesChanged draft.document new := by
  obtain ⟨before, after, hdoc, hstart, -⟩ := (located_of_draft hlocate).opening
  refine ⟨_, r.run_of_locate hlocate hdoc hstart, ?_⟩
  rw [hdoc]
  exact attributesChanged _ hstart

theorem effect_insertion {before after : Text} (hdoc : draft.document = before ++ after)
    {offset : Nat} (hoffset : offset = before.size) (html : Text) :
    ∃ new, draft.revise [.insertion offset html] = .ok { draft with document := new } ∧
      InsertedAt offset html draft.document new := by
  subst hoffset
  exact ⟨_, Draft.revise_insertion hdoc html, before, after,
    cut?_cons hdoc (Nat.zero_add _).symm (cut?_nil _ _), by simp⟩

theorem effect_removeElement (hlocate : draft.locate = .ok span) :
    ∃ new, draft.removeElement = .ok { draft with document := new } ∧
      span.RemovedFrom draft.document new := by
  obtain ⟨before, element, after, hdoc, hstart, hstop⟩ := (located_of_draft hlocate).element
  have hrun : draft.removeElement = draft.revise
      [.replacement draft.document before.size (before.size + element.size) []] := by
    rw [Draft.removeElement, hlocate, ← hstop, ← hstart]
    rfl
  refine ⟨_, hrun.trans (Draft.revise_replacement hdoc []), before, element, after, ?_, by simp⟩
  refine cut?_cons hdoc (by omega) (cut?_cons rfl ?_ (cut?_nil _ _))
  rw [hstart, hstop]

theorem effect_unwrapElement {range : Range} (hlocate : draft.locate = .ok span)
    (hclosing : span.closing = some range) :
    ∃ new, draft.unwrapElement = .ok { draft with document := new } ∧
      Revision.unwrapElement.Effect span draft.document new := by
  obtain ⟨before, content, close, after, hdoc, -, hstart, hclose, hstop⟩ :=
    (located_of_draft hlocate).closing hclosing
  have hhead : span.head.stop = before.size + span.head.tag.text.size := by
    rw [Head.stop_eq, hstart]
  let patch : Patch := [.change span.head.tag.text [] (.ofText span.head.tag.text), .keep content,
    .change close.text [] (.ofText close.text)]
  have hopen : draft.document.slice span.head.start span.head.stop = span.head.tag.text :=
    slice_of_eq hdoc hstart hhead
  have hend : draft.document.slice range.start range.stop = close.text := by
    have hcut : draft.document = before ++ (span.head.tag.text ++ content) ++
        (close.text ++ after) := by
      simp [hdoc]
    refine slice_of_eq hcut ?_ ?_
    · simp only [hclose, size_append, Nat.add_assoc]
    · simp only [hstop, hclose, size_append, Nat.add_assoc]
  have hrun : draft.unwrapElement = draft.revise (patch.edits before.size).reverse := by
    have hedits : draft.unwrapElement = draft.revise
        [.replacement draft.document range.start range.stop [],
          .replacement draft.document span.head.start span.head.stop []] := by
      simp only [Draft.unwrapElement, hlocate, bind, Except.bind, hclosing]
    rw [hedits, Edit.replacement, Edit.replacement, hopen, hend, hstop, hclose, hhead, hstart]
    rfl
  have hcut : draft.document = before ++ (patch.old ++ after) := by
    simp [hdoc, patch, Piece.old]
  have hrevise := Draft.revise_patch hcut (((Patch.Valid.nil.change _ _).keep _).change _ _) ?_
    (List.reverse_perm _)
  · refine ⟨_, hrun.trans hrevise, ?_⟩
    rw [Revision.Effect, hclosing]
    refine ⟨before, span.head.tag.text, content, close.text, after, ?_, ?_⟩
    · exact cut?_cons hdoc (by omega) (cut?_cons rfl (by omega)
        (cut?_cons rfl (by omega) (cut?_cons rfl hstop (cut?_nil _ _))))
    · simp [patch, Piece.new]
  · have hpos := size_pos (show close.text ≠ [] by simp [CloseTag.text])
    simp [patch, Patch.edits]
    omega

/-! The document in which the element has its new name. -/

theorem revise_rename_alone {before after : Text}
    (hdoc : draft.document = before ++ (span.head.tag.text ++ after))
    (hstart : span.head.start = before.size) (name : Text) :
    draft.revise [.ofExpected span.head.nameStart span.head.nameEnd name span.head.name] =
      .ok { draft with document := before ++ ((span.head.tag.withName name).text ++ after) } := by
  have hoffset := span.head.nameStart_eq hstart
  rw [OpenTag.append_name] at hdoc
  have hrevise := Draft.revise_ofExpected hdoc name
  rw [← hoffset] at hrevise
  rw [OpenTag.append_name]
  exact hrevise

/-- The name in the closing tag is the one that is replaced in the opening tag. -/
theorem revise_rename_paired {before content after : Text} {close : CloseTag} {start : Nat}
    (hdoc : draft.document =
      before ++ (span.head.tag.text ++ (content ++ (CloseTag.text close ++ after))))
    (hclose : close.name = span.head.tag.name) (hstart : span.head.start = before.size)
    (hclosing : start = before.size + span.head.tag.text.size + content.size) (name : Text) :
    draft.revise [.ofExpected span.head.nameStart span.head.nameEnd name span.head.name,
        .ofExpected (start + 2) (start + 2 + span.head.name.size) name span.head.name] =
      .ok { draft with document := before ++ ((span.head.tag.withName name).text ++
        (content ++ ((close.withName name).text ++ after))) } := by
  let between := span.head.tag.inner ++ span.head.tag.delimiter ++ content ++ ['<', '/']
  let patch : Patch := [.change span.head.name name (.ofText span.head.name), .keep between,
    .change span.head.name name (.ofText span.head.name)]
  have hend : span.head.nameEnd = span.head.nameStart + span.head.name.size := rfl
  have hoffset := span.head.nameStart_eq hstart
  have hcut : draft.document =
      before ++ ['<'] ++ (patch.old ++ (close.junk ++ ['>'] ++ after)) := by
    simp [hdoc, OpenTag.append_name, Head.name, CloseTag.text, hclose, patch, between, Piece.old]
  have hbetween : start + 2 = span.head.nameEnd + between.size := by
    have hslash : Char.utf8Size '/' = 1 := rfl
    simp [hclosing, OpenTag.text, Head.nameEnd, Head.nameStart, hstart, between, utf8Size_lt,
      hslash]
    omega
  have hedits : patch.edits (before ++ ['<']).size =
      [.ofExpected span.head.nameStart span.head.nameEnd name span.head.name,
        .ofExpected (start + 2) (start + 2 + span.head.name.size) name span.head.name] := by
    rw [hbetween, hend, hoffset]
    rfl
  have hstops : (patch.edits (before ++ ['<']).size).Pairwise fun a b => a.stop < b.stop := by
    have hpos : 0 < between.size := size_pos (by simp [between])
    simp [patch, Patch.edits]
    omega
  have hvalid : patch.Valid := ((Patch.Valid.nil.change _ _).keep _).change _ _
  have hrevise := Draft.revise_patch hcut hvalid hstops (List.Perm.refl _)
  have hnew : before ++ ['<'] ++ (patch.new ++ (close.junk ++ ['>'] ++ after)) =
      before ++ ((span.head.tag.withName name).text ++
        (content ++ ((close.withName name).text ++ after))) := by
    simp [OpenTag.text_withName, CloseTag.text, CloseTag.withName, patch, between, Piece.new]
  rw [hedits, hnew] at hrevise
  exact hrevise

theorem effect_rename_alone (hlocate : draft.locate = .ok span) (hclosing : span.closing = none)
    (name : Text) :
    ∃ new, draft.revise [.ofExpected span.head.nameStart span.head.nameEnd name span.head.name] =
        .ok { draft with document := new } ∧
      (Revision.renameElement name).Effect span draft.document new := by
  obtain ⟨before, after, hdoc, hstart, -⟩ := (located_of_draft hlocate).opening
  refine ⟨_, revise_rename_alone hdoc hstart name, ?_⟩
  have hoffset := span.head.nameStart_eq hstart
  have hend : span.head.nameEnd = span.head.nameStart + span.head.name.size := rfl
  rw [Revision.Effect, hclosing]
  rw [OpenTag.append_name] at hdoc
  exact ⟨before ++ ['<'], span.head.tag.inner ++ span.head.tag.delimiter ++ after,
    cut?_cons hdoc (by omega) (cut?_cons rfl hend (cut?_nil _ _)),
    by simp [OpenTag.text_withName]⟩

theorem effect_rename_paired {range : Range} (hlocate : draft.locate = .ok span)
    (hclosing : span.closing = some range) (name : Text) :
    ∃ new, draft.revise [.ofExpected span.head.nameStart span.head.nameEnd name span.head.name,
        .ofExpected (range.start + 2) (range.start + 2 + span.head.name.size) name
          span.head.name] = .ok { draft with document := new } ∧
      (Revision.renameElement name).Effect span draft.document new := by
  obtain ⟨before, content, close, after, hdoc, hclose, hstart, hrange, -⟩ :=
    (located_of_draft hlocate).closing hclosing
  refine ⟨_, revise_rename_paired hdoc hclose hstart hrange name, ?_⟩
  let between := span.head.tag.inner ++ span.head.tag.delimiter ++ content ++ ['<', '/']
  have hend : span.head.nameEnd = span.head.nameStart + span.head.name.size := rfl
  have hoffset := span.head.nameStart_eq hstart
  have hcut : draft.document = before ++ ['<'] ++ (span.head.name ++
      (between ++ (span.head.name ++ (close.junk ++ ['>'] ++ after)))) := by
    simp [hdoc, OpenTag.append_name, Head.name, CloseTag.text, hclose, between]
  have hbetween : range.start + 2 = span.head.nameEnd + between.size := by
    have hslash : Char.utf8Size '/' = 1 := rfl
    simp [hrange, OpenTag.text, Head.nameEnd, Head.nameStart, hstart, between, utf8Size_lt, hslash]
    omega
  rw [Revision.Effect, hclosing]
  refine ⟨before ++ ['<'], between, close.junk ++ ['>'] ++ after, ?_, ?_⟩
  · exact cut?_cons hcut (by omega) (cut?_cons rfl hend
      (cut?_cons rfl hbetween (cut?_cons rfl rfl (cut?_nil _ _))))
  · simp [OpenTag.text_withName, CloseTag.text, CloseTag.withName, between]

theorem renameElement_eq_revise (hlocate : draft.locate = .ok span) {name : Text}
    (hname : Draft.isTagName name = true) :
    draft.renameElement name = draft.revise
      (.ofExpected span.head.nameStart span.head.nameEnd name span.head.name ::
        (span.closing.map fun range => Edit.ofExpected (range.start + 2)
          (range.start + 2 + span.head.name.size) name span.head.name).toList) := by
  rw [Draft.renameElement, if_neg (by simpa using hname), hlocate]
  rfl

theorem effect_renameElement (hlocate : draft.locate = .ok span) {name : Text}
    (hname : Draft.isTagName name = true) :
    ∃ new, draft.renameElement name = .ok { draft with document := new } ∧
      (Revision.renameElement name).Effect span draft.document new := by
  rw [renameElement_eq_revise hlocate hname]
  cases hclosing : span.closing with
  | none => exact effect_rename_alone hlocate hclosing name
  | some range => exact effect_rename_paired hlocate hclosing name

theorem effect_insertInside {range : Range} (hlocate : draft.locate = .ok span)
    (hclosing : span.closing = some range) (html : Text) :
    ∃ new, draft.insertInside html = .ok { draft with document := new } ∧
      InsertedAt range.start html draft.document new := by
  obtain ⟨before, content, close, after, hdoc, -, hstart, hclose, -⟩ :=
    (located_of_draft hlocate).closing hclosing
  have hrun : draft.insertInside html = draft.revise [.insertion range.start html] := by
    simp only [Draft.insertInside, hlocate, bind, Except.bind, hclosing]
  have hcut : draft.document =
      before ++ span.head.tag.text ++ content ++ (close.text ++ after) := by simp [hdoc]
  rw [hrun]
  exact effect_insertion hcut (by simp [hclose, Nat.add_assoc]) html

/-- A located element is not refused but for an attribute that it does not have. -/
theorem effect_replaceInAttribute (hlocate : draft.locate = .ok span) (name : Text)
    (pattern : Matcher) (replacement : Text) :
    (span.head.find? name = none ∧
      draft.replaceInAttribute name pattern replacement = .error (.attributeNotFound name)) ∨
    ∃ new, draft.replaceInAttribute name pattern replacement = .ok { draft with document := new } ∧
      span.head.AttributesChanged draft.document new := by
  cases hfind : span.head.find? name with
  | none =>
    refine .inl ⟨rfl, ?_⟩
    simp only [Draft.replaceInAttribute, hlocate, bind, Except.bind, hfind]
    rfl
  | some a =>
    refine .inr ?_
    let replaced := pattern.replaceAll (a.attr.value?.getD []) replacement
    have hrun : draft.replaceInAttribute name pattern replacement =
        if a.attr.value? = some replaced then .ok draft
        else draft.revise [draft.valueEdit a replaced] := by
      simp only [Draft.replaceInAttribute, hlocate, bind, Except.bind, hfind]
      rfl
    by_cases hsame : a.attr.value? = some replaced
    · obtain ⟨before, after, hdoc, hstart, -⟩ := (located_of_draft hlocate).opening
      refine ⟨draft.document, by rw [hrun, if_pos hsame], ?_⟩
      rw [hdoc]
      exact attributesChanged span.head.tag.inner hstart
    · have hset : draft.setAttribute name replaced =
          draft.revise [draft.valueEdit a replaced] := by
        simp only [Draft.setAttribute, hlocate, bind, Except.bind, hfind]
      rw [hrun, if_neg hsame, ← hset]
      exact effect_attributes hlocate (.set name replaced)

theorem effect_transformAttribute (hlocate : draft.locate = .ok span) (name : Text)
    (f : Text → Option Text) :
    ∃ new, draft.transformAttribute name f = .ok { draft with document := new } ∧
      span.head.AttributesChanged draft.document new := by
  let current := ((span.head.find? name).bind (·.attr.value?)).getD []
  have hcurrent : draft.attributeValue name = .ok current := by
    rw [Draft.attributeValue, hlocate]
    rfl
  cases hf : f current with
  | some value =>
    have hrun : draft.transformAttribute name f = draft.setAttribute name value := by
      simp only [Draft.transformAttribute, hcurrent, bind, Except.bind, hf]
    rw [hrun]
    exact effect_attributes hlocate (.set name value)
  | none =>
    have hrun : draft.transformAttribute name f = draft.removeAttribute name := by
      simp only [Draft.transformAttribute, hcurrent, bind, Except.bind, hf]
    rw [hrun]
    exact effect_attributes hlocate (.remove name)

/-- A revision of a located element has its effect, or is one that the element does not take. -/
theorem Revision.run_of_locate (hlocate : draft.locate = .ok span) (r : Revision) :
    (∃ new, r.run draft = .ok { draft with document := new } ∧ r.Effect span draft.document new) ∨
      ∃ e, r.run draft = .error e ∧ r.Refuses draft e := by
  cases r with
  | attributes r => exact .inl (effect_attributes hlocate r)
  | replaceInAttribute name pattern replacement =>
    rcases effect_replaceInAttribute hlocate name pattern replacement with ⟨hnone, herror⟩ | heffect
    · exact .inr ⟨_, herror, .attributeNotFound name pattern replacement span hlocate hnone⟩
    · exact .inl heffect
  | transformAttribute name f => exact .inl (effect_transformAttribute hlocate name f)
  | removeElement => exact .inl (effect_removeElement hlocate)
  | renameElement name =>
    cases hname : Draft.isTagName name with
    | true => exact .inl (effect_renameElement hlocate hname)
    | false =>
      refine .inr ⟨_, ?_, .rename name hname⟩
      rw [run, Draft.renameElement, if_pos (by simp [hname])]
      rfl
  | insertBefore html =>
    obtain ⟨before, after, hdoc, hstart, -⟩ := (located_of_draft hlocate).opening
    have hrun : draft.insertBefore html = draft.revise [.insertion span.head.start html] := by
      rw [Draft.insertBefore, hlocate]
      rfl
    rw [run, hrun]
    exact .inl (effect_insertion hdoc hstart html)
  | insertAfter html =>
    obtain ⟨before, element, after, hdoc, -, hstop⟩ := (located_of_draft hlocate).element
    have hrun : draft.insertAfter html = draft.revise [.insertion span.stop html] := by
      rw [Draft.insertAfter, hlocate]
      rfl
    have hcut : draft.document = before ++ element ++ after := by simp [hdoc]
    rw [run, hrun]
    exact .inl (effect_insertion hcut (by simp [hstop]) html)
  | insertInside html =>
    cases hclosing : span.closing with
    | none =>
      refine .inr ⟨_, ?_, .insertInside html span hlocate hclosing⟩
      rw [run]
      simp only [Draft.insertInside, hlocate, bind, Except.bind, hclosing]
      rfl
    | some range =>
      obtain ⟨new, hrun, heffect⟩ := effect_insertInside hlocate hclosing html
      exact .inl ⟨new, hrun, range, hclosing, heffect⟩
  | unwrapElement =>
    cases hclosing : span.closing with
    | none =>
      have hrun : draft.unwrapElement = draft.removeElement := by
        simp only [Draft.unwrapElement, hlocate, bind, Except.bind, hclosing]
      obtain ⟨new, hremove, hremoved⟩ := effect_removeElement hlocate
      refine .inl ⟨new, by rw [run, hrun, hremove], ?_⟩
      rw [Effect, hclosing]
      exact hremoved
    | some range => exact .inl (effect_unwrapElement hlocate hclosing)

/-- A revision of an element that is not located ends in an error. -/
theorem Revision.run_of_locate_error {e : DraftError} (h : draft.locate = .error e)
    (r : Revision) : ∃ e', r.run draft = .error e' ∧ r.Refuses draft e' := by
  have hrefuses := r.refuses_of_locate h
  cases r with
  | attributes r =>
    refine ⟨e, ?_, hrefuses⟩
    cases r with
    | set name value => rw [run, AttributeRevision.run, Draft.setAttribute, h]; rfl
    | remove name => rw [run, AttributeRevision.run, Draft.removeAttribute, h]; rfl
    | reduce name part => rw [run, AttributeRevision.run, Draft.reduceAttribute, h]; rfl
    | extend name value glue => rw [run, AttributeRevision.run, Draft.extendAttribute, h]; rfl
  | replaceInAttribute name pattern replacement =>
    exact ⟨e, by rw [run, Draft.replaceInAttribute, h]; rfl, hrefuses⟩
  | transformAttribute name f =>
    exact ⟨e, by rw [run, Draft.transformAttribute, Draft.attributeValue, h]; rfl, hrefuses⟩
  | removeElement => exact ⟨e, by rw [run, Draft.removeElement, h]; rfl, hrefuses⟩
  | renameElement name =>
    cases hname : Draft.isTagName name with
    | true =>
      exact ⟨e, by rw [run, Draft.renameElement, if_neg (by simp [hname]), h]; rfl, hrefuses⟩
    | false =>
      exact ⟨_, by rw [run, Draft.renameElement, if_pos (by simp [hname])]; rfl, .rename name hname⟩
  | insertBefore html => exact ⟨e, by rw [run, Draft.insertBefore, h]; rfl, hrefuses⟩
  | insertAfter html => exact ⟨e, by rw [run, Draft.insertAfter, h]; rfl, hrefuses⟩
  | insertInside html => exact ⟨e, by rw [run, Draft.insertInside, h]; rfl, hrefuses⟩
  | unwrapElement => exact ⟨e, by rw [run, Draft.unwrapElement, h]; rfl, hrefuses⟩

end Effects

/-- On any document, a revision of the selected element changes that element's attributes, tags or
surroundings and leaves all else as it stands, or is refused because of its selector, of an
attribute that is not there or of an element that does not take it. Whatever text it takes out of
the document stands between boundaries, and the edits that it makes are never refused. -/
theorem Revision.run_frame [Digest] (draft : Draft) (r : Revision) :
    (∀ head ∈ heads draft.document, head.Aligned draft.document) ∧
      match r.run draft with
      | .ok revised => ∃ span, draft.locate = .ok span ∧ span.head.Aligned draft.document ∧
          r.Effect span draft.document revised.document ∧
          revised.initial = draft.initial ∧ revised.selector = draft.selector
      | .error e => r.Refuses draft e := by
  refine ⟨fun head hhead => aligned_of_reads (reads_of_mem_heads hhead), ?_⟩
  cases hlocate : draft.locate with
  | error e =>
    obtain ⟨e', hrun, hrefuses⟩ := run_of_locate_error hlocate r
    rw [hrun]
    exact hrefuses
  | ok span =>
    rcases run_of_locate hlocate r with ⟨new, hrun, heffect⟩ | ⟨e, hrun, hrefuses⟩
    · rw [hrun]
      obtain ⟨before, after, hdoc, hstart, hread⟩ := (located_of_draft hlocate).opening
      have hreads : Reads 0 draft.document ⟨span.head.start, .opening span.head.tag⟩ :=
        ⟨before, _, after, hdoc, by simpa using hstart, hread⟩
      exact ⟨span, rfl, aligned_of_reads hreads, heffect, rfl, rfl⟩
    · rw [hrun]
      exact hrefuses

end Graft.Markup
