import Graft.Proofs.Pairing
import Graft.Proofs.Rejoin
import Graft.Proofs.Revision

/-! The tags of a renamed element. Of the names that a rename accepts, a tag can be read under those
that begin with an ASCII letter. -/

namespace Graft.Markup

open Text

/-! ### Names that are accepted -/

/-- Whether a name begins with an ASCII letter. -/
def startsWithLetter (name : Text) : Bool := name.head?.any Char.isAlpha

theorem isNameChar_of_isTagName {name : Text} (h : Draft.isTagName name = true) :
    ∀ c ∈ name, isNameChar c = true := by
  intro c hc
  rw [Draft.isTagName, Bool.and_eq_true, List.all_eq_true] at h
  have hall := h.2 c hc
  have hblank : isBlank c = true → isSpace c = true := isSpace_of_isBlank
  rw [isNameChar]
  grind

/-- An accepted name is one that a tag is read under when it begins with a letter. -/
theorem isTagName_iff_startsWithLetter {name : Text} (h : Draft.isTagName name = true) :
    IsTagName name ↔ startsWithLetter name = true := by
  have hchars := isNameChar_of_isTagName h
  constructor
  · rintro ⟨c, cs, rfl, hc, -⟩
    exact hc
  · intro hletter
    cases name with
    | nil => cases hletter
    | cons c cs => exact ⟨c, cs, rfl, hletter, fun d hd => hchars d (List.mem_cons_of_mem c hd)⟩

/-! ### Tags under another name -/

theorem head?_append_end_iff (junk after : Text) :
    (∀ c ∈ (junk ++ '>' :: after).head?, isNameChar c = false) ↔
      ∀ c ∈ junk.head?, isNameChar c = false := by
  cases junk <;> simp [isNameChar]

/-- When a closing tag is read back from its text: its name does not go on, and it holds no `>`
before its end. -/
theorem read?_closeTag_iff {close : CloseTag} (hname : IsTagName close.name) {after : Text} :
    Lexeme.read? (close.text ++ after) = some (.closing close, after) ↔
      (∀ c ∈ close.junk.head?, isNameChar c = false) ∧ '>' ∉ close.junk := by
  have htext : close.text ++ after =
      '<' :: '/' :: (close.name ++ (close.junk ++ '>' :: after)) := by
    simp [CloseTag.text]
  rw [← head?_append_end_iff close.junk after]
  constructor
  · intro hread
    obtain ⟨tail, later, hcs, hreadName, hbreak⟩ := Lexeme.exists_of_read?_closing hread
    rw [htext, List.cons.injEq, List.cons.injEq] at hcs
    obtain ⟨-, -, rfl⟩ := hcs
    obtain ⟨happend, -⟩ := eq_append_of_readName? hreadName
    obtain rfl := List.append_cancel_left happend
    exact ⟨(isTagName_of_readName? hreadName).2, not_mem_of_breakOn?_single hbreak⟩
  · rintro ⟨hstop, hend⟩
    rw [htext]
    show Lexeme.readClosing? _ = _
    simp only [Lexeme.readClosing?, readName?_append hname hstop, breakOn?_single_append hend,
      Option.bind_eq_bind, Option.bind_some]
    rfl

theorem OpenTag.read?_withName {tag : OpenTag} {name after : Text} (hname : IsTagName name)
    (hread : Lexeme.read? (tag.text ++ after) = some (.opening tag, after)) (after' : Text) :
    Lexeme.read? ((tag.withName name).text ++ after') =
      some (.opening (tag.withName name), after') := by
  have hname' : IsTagName (tag.withName name).name := hname
  exact (read?_openTag_iff hname').mpr
    ((read?_openTag_iff (Lexeme.isTagName_of_read? hread)).mp hread)

theorem CloseTag.read?_withName {close : CloseTag} {name after : Text} (hname : IsTagName name)
    (hread : Lexeme.read? (close.text ++ after) = some (.closing close, after)) :
    Lexeme.read? ((close.withName name).text ++ after) =
      some (.closing (close.withName name), after) := by
  have hname' : IsTagName (close.withName name).name := hname
  exact (read?_closeTag_iff hname').mpr
    ((read?_closeTag_iff (Lexeme.isTagName_of_read?_closing hread)).mp hread)

/-! ### Renamed elements -/

section Renamed

variable [Digest] {draft revised : Draft} {span : Span} {name : Text}
  (located : draft.locate = .ok span) (renamed : draft.renameElement name = .ok revised)

omit located in
include renamed in
theorem isTagName_of_renameElement : Draft.isTagName name = true := by
  rw [Draft.renameElement] at renamed
  split at renamed
  · cases renamed
  · next hname => simpa using hname

include located renamed

theorem exists_renamed_opening : ∃ before rest, span.head.start = before.size ∧
    revised.document = before ++ ((span.head.tag.withName name).text ++ rest) := by
  rw [renameElement_eq_revise located (isTagName_of_renameElement renamed)] at renamed
  cases hclosing : span.closing with
  | none =>
    obtain ⟨before, after, hdoc, hstart, -⟩ := (located_of_draft located).opening
    rw [hclosing] at renamed
    obtain rfl := Except.ok.inj ((revise_rename_alone hdoc hstart name).symm.trans renamed)
    exact ⟨before, after, hstart, rfl⟩
  | some range =>
    obtain ⟨before, content, close, after, hdoc, hclose, hstart, hrange, -⟩ :=
      (located_of_draft located).closing hclosing
    rw [hclosing] at renamed
    obtain rfl :=
      Except.ok.inj ((revise_rename_paired hdoc hclose hstart hrange name).symm.trans renamed)
    exact ⟨before, _, hstart, rfl⟩

/-- The closing tag moves by as much as the new name is longer than the old one. -/
theorem exists_renamed_closing {range : Range} (hclosing : span.closing = some range) :
    ∃ front close after,
      Lexeme.read? (CloseTag.text close ++ after) = some (.closing close, after) ∧
      range.start + name.size - span.head.name.size = front.size ∧
      revised.document = front ++ ((close.withName name).text ++ after) := by
  obtain ⟨before, content, close, after, hdoc, hstart, hclose, hrange, hread⟩ :=
    Draft.exists_paired located hclosing
  rw [renameElement_eq_revise located (isTagName_of_renameElement renamed), hclosing] at renamed
  obtain rfl :=
    Except.ok.inj ((revise_rename_paired hdoc hclose hstart hrange name).symm.trans renamed)
  refine ⟨before ++ (span.head.tag.withName name).text ++ content, close, after, hread, ?_, ?_⟩
  · rw [hrange, OpenTag.text_withName, OpenTag.text]
    simp only [Head.name, size_append, size_cons]
    omega
  · rw [List.append_assoc, List.append_assoc]

end Renamed

/-- After a rename, the opening tag is read with the new name, self-closing or not as before and
with the attributes that it had, and the closing tag is read with the new name, exactly where the
new name begins with an ASCII letter. -/
theorem Draft.renameElement_reread [Digest] {draft revised : Draft} {span : Span}
    (located : draft.locate = .ok span) {name : Text}
    (renamed : draft.renameElement name = .ok revised) :
    ((∃ tag, headAt? revised.document span.head.start = some ⟨span.head.start, tag⟩ ∧
        tag.name = name ∧ tag.selfClosing = span.head.tag.selfClosing ∧
        tag.attributes = span.head.tag.attributes) ↔ startsWithLetter name = true) ∧
      ∀ range, span.closing = some range →
        ((∃ close, tokenAt? revised.document (range.start + name.size - span.head.name.size) =
            some ⟨range.start + name.size - span.head.name.size, .closing close⟩ ∧
          close.name = name) ↔ startsWithLetter name = true) := by
  have hletter := isTagName_iff_startsWithLetter (isTagName_of_renameElement renamed)
  constructor
  · obtain ⟨before, rest, hstart, hdoc⟩ := exists_renamed_opening located renamed
    rw [← hletter, hdoc, hstart]
    constructor
    · rintro ⟨tag, hhead, rfl, -⟩
      obtain ⟨after, hread⟩ := headAt?_append_iff.mp hhead
      exact Lexeme.isTagName_of_read? hread
    · intro hname
      obtain ⟨-, after, -, -, hread⟩ := (located_of_draft located).opening
      have hread' := OpenTag.read?_withName hname hread rest
      exact ⟨span.head.tag.withName name, headAt?_append_iff.mpr ⟨rest, hread'⟩, rfl, rfl, rfl⟩
  · intro range hclosing
    obtain ⟨front, close, after, hread, hshift, hdoc⟩ :=
      exists_renamed_closing located renamed hclosing
    rw [← hletter, hdoc, hshift]
    constructor
    · rintro ⟨last, htoken, rfl⟩
      obtain ⟨-, later, hlast⟩ := tokenAt?_append_iff.mp htoken
      exact Lexeme.isTagName_of_read?_closing hlast
    · intro hname
      exact ⟨close.withName name, tokenAt?_append front (CloseTag.read?_withName hname hread), rfl⟩

/-- An element with a nested one of its name is renamed in both of its tags. -/
theorem Draft.renameElement_reread_nested :
    let _ := Digest.multiplicative
    let doc := "<p/><a x='>'><a/></a >".toList
    let revised := "<p/><b-é x='>'><a/></b-é >".toList
    (∃ tag, headAt? revised 4 = some ⟨4, tag⟩ ∧ tag.name = "b-é".toList ∧
        tag.selfClosing = false ∧
        tag.attributes = (OpenTag.mk "a".toList " x='>'".toList false).attributes) ∧
      (∃ close, tokenAt? revised 20 = some ⟨20, .closing close⟩ ∧ close.name = "b-é".toList) ∧
      Draft.renameElement ⟨doc, doc, some (.tag "a".toList)⟩ "b-é".toList =
        .ok ⟨doc, revised, some (.tag "a".toList)⟩ := by
  intro digest doc revised
  have located : Draft.locate ⟨doc, doc, some (.tag "a".toList)⟩ =
      .ok ⟨⟨4, ⟨"a".toList, " x='>'".toList, false⟩⟩, some ⟨17, 22⟩⟩ := by decide +kernel
  have renamed : Draft.renameElement ⟨doc, doc, some (.tag "a".toList)⟩ "b-é".toList =
      .ok ⟨doc, revised, some (.tag "a".toList)⟩ := by
    rw [renameElement_eq_revise located rfl]
    exact @revise_rename_paired digest _ ⟨⟨4, ⟨"a".toList, " x='>'".toList, false⟩⟩, some ⟨17, 22⟩⟩
      "<p/>".toList "<a/>".toList [] ⟨"a".toList, " ".toList⟩ 17 rfl rfl rfl rfl _
  obtain ⟨hopening, hclosing⟩ := Draft.renameElement_reread located renamed
  have hletter : startsWithLetter "b-é".toList = true := rfl
  exact ⟨hopening.mpr hletter, (hclosing ⟨17, 22⟩ rfl).mpr hletter, renamed⟩

/-- A digit is accepted as a name, and no tag is read under it. -/
theorem Draft.not_renameElement_reread_of_digit :
    let _ := Digest.multiplicative
    ¬∀ (draft revised : Draft) (span : Span) (name : Text),
      draft.locate = .ok span → draft.renameElement name = .ok revised →
        ∃ tag, headAt? revised.document span.head.start = some ⟨span.head.start, tag⟩ ∧
          tag.name = name := by
  intro digest hall
  let doc := "<a></a>".toList
  let revised := "<1></1>".toList
  have located : Draft.locate ⟨doc, doc, some (.tag "a".toList)⟩ =
      .ok ⟨⟨0, ⟨"a".toList, [], false⟩⟩, some ⟨3, 7⟩⟩ := by decide +kernel
  have renamed : Draft.renameElement ⟨doc, doc, some (.tag "a".toList)⟩ "1".toList =
      .ok ⟨doc, revised, some (.tag "a".toList)⟩ := by
    rw [renameElement_eq_revise located rfl]
    exact @revise_rename_paired digest _ ⟨⟨0, ⟨"a".toList, [], false⟩⟩, some ⟨3, 7⟩⟩ [] [] []
      ⟨"a".toList, []⟩ 3 rfl rfl rfl rfl _
  obtain ⟨tag, hhead, -⟩ := hall _ _ _ _ located renamed
  have hnone : headAt? revised 0 = none := by decide +kernel
  rw [hnone] at hhead
  cases hhead

end Graft.Markup
