import Graft.Proofs.Rejoin

/-! The removal of the attributes of a name. What is cut out of a tag may bring together what stood
on its two sides; where it does not, the other attributes are read as before. -/

namespace Graft.Markup

open Text

namespace HeadPart

/-- The parts without the attributes of a name. -/
def without (name : Text) (parts : List HeadPart) : List HeadPart :=
  parts.filter (!isNamed name ·)

theorem without_filler (name t : Text) (parts : List HeadPart) :
    without name (.filler t :: parts) = .filler t :: without name parts := rfl

theorem without_attr (name : Text) (a : Attribute) (parts : List HeadPart) :
    without name (.attr a :: parts) =
      if a.name = name then without name parts else .attr a :: without name parts := by
  by_cases hname : a.name = name <;> simp [without, isNamed, hname]

theorem mapAttrs_eq_without (name : Text) (parts : List HeadPart) :
    mapAttrs (Attribute.ifNamed name fun _ => none) parts = without name parts := by
  induction parts with
  | nil => rfl
  | cons part parts ih =>
    cases part with
    | filler t =>
      rw [without_filler, ← ih]
      rfl
    | attr a =>
      rw [without_attr, ← ih, mapAttrs, List.filterMap_cons]
      by_cases hname : a.name = name
      · simp [Attribute.ifNamed, hname, mapAttrs]
      · simp [Attribute.ifNamed, hname, mapAttrs]

theorem without_without (name : Text) (parts : List HeadPart) :
    without name (without name parts) = without name parts := by
  simp [without]

theorem entries_without (name : Text) (parts : List HeadPart) :
    entries (without name parts) =
      ((parts.filterMap attr?).filter fun a => a.name ≠ name).map Attribute.entry := by
  induction parts with
  | nil => rfl
  | cons part parts ih =>
    cases part with
    | filler t => exact ih
    | attr a =>
      have hattr : (attr a :: parts).filterMap attr? = a :: parts.filterMap attr? := rfl
      rw [without_attr, hattr, List.filter_cons]
      by_cases hname : a.name = name
      · rw [if_pos hname, if_neg (by simpa using hname)]
        exact ih
      · rw [if_neg hname, if_pos (by simpa using hname), List.map_cons, ← ih]
        rfl

theorem valueIn_entries_without (name : Text) (parts : List HeadPart) :
    valueIn name (entries (without name parts)) = [] := by
  have hnone : (entries (without name parts)).find? (fun entry => entry.1 == name) = none := by
    rw [entries_without, List.find?_eq_none]
    intro entry hentry
    obtain ⟨a, ha, rfl⟩ := List.mem_map.mp hentry
    have hname := (List.mem_filter.mp ha).2
    simpa [Attribute.entry] using hname
  rw [valueIn, hnone]
  rfl

end HeadPart

/-- The removal of the attributes of a name succeeds wherever an element is located. Its tag is then
read with the same name, self-closing or not as before, and with the other attributes as they were,
exactly where what is left of the tag stays apart. There the name has no value any more, and a
second removal changes nothing. -/
theorem Draft.removeAttribute_reread [Digest] {draft : Draft} {span : Span}
    (located : draft.locate = .ok span) (name : Text) :
    ∃ revised, draft.removeAttribute name = .ok revised ∧
      ((∃ tag, headAt? revised.document span.head.start = some ⟨span.head.start, tag⟩ ∧
          tag.name = span.head.tag.name ∧ tag.selfClosing = span.head.tag.selfClosing ∧
          tag.attributes.map Attribute.entry =
            (span.head.tag.attributes.filter fun a => a.name ≠ name).map Attribute.entry) ↔
        span.head.tag.StaysApart (HeadPart.without name (HeadPart.readAll span.head.tag.inner))) ∧
      (span.head.tag.StaysApart (HeadPart.without name (HeadPart.readAll span.head.tag.inner)) →
        (∀ selector ∈ draft.selector, selector.readsName = true) →
        TagsEndBefore draft.document span.head.start →
          revised.attributeValue name = .ok [] ∧ revised.removeAttribute name = .ok revised) := by
  obtain ⟨before, after, hdoc, hstart, -⟩ := (located_of_draft located).opening
  have hrun := (AttributeRevision.remove name).run_of_locate located hdoc hstart
  have hparts := HeadPart.mapAttrs_eq_without name (HeadPart.readAll span.head.tag.inner)
  have hlegible : HeadPart.Legible
      (HeadPart.without name (HeadPart.readAll span.head.tag.inner)) :=
    HeadPart.legible_filter_readAll _ _
  have hreread := AttributeRevision.reread_iff located hrun hparts hlegible
  rw [HeadPart.entries_without] at hreread
  refine ⟨_, hrun, hreread, fun apart readsName ends => ?_⟩
  obtain ⟨hvalue, hagain⟩ :=
    AttributeRevision.attributeValue_and_run located hrun hparts hlegible apart readsName ends
  refine ⟨?_, hagain (.remove name) ?_⟩
  · rw [hvalue, HeadPart.valueIn_entries_without]
  · rw [AttributeRevision.onParts, HeadPart.mapAttrs_eq_without, HeadPart.without_without]

/-- Two attributes of a name, one with a value and one without, beside two others. -/
theorem Draft.removeAttribute_reread_nested :
    let _ := Digest.multiplicative
    let doc := "<div><p x=1 a=\"v\" x b/></div>".toList
    ∃ revised tag, Draft.removeAttribute ⟨doc, doc, some (.tag "p".toList)⟩ "x".toList = .ok revised ∧
      headAt? revised.document 5 = some ⟨5, tag⟩ ∧ tag.name = "p".toList ∧
      tag.selfClosing = true ∧
      tag.attributes.map Attribute.entry = [("a".toList, some "v".toList), ("b".toList, none)] ∧
      revised.attributeValue "x".toList = .ok [] ∧
      revised.removeAttribute "x".toList = .ok revised := by
  intro digest doc
  have located : Draft.locate ⟨doc, doc, some (.tag "p".toList)⟩ =
      .ok ⟨⟨5, ⟨"p".toList, " x=1 a=\"v\" x b".toList, true⟩⟩, none⟩ := by decide +kernel
  obtain ⟨revised, hrun, hreread, hagain⟩ := Draft.removeAttribute_reread located "x".toList
  have hinner : (HeadPart.without "x".toList
      (HeadPart.readAll " x=1 a=\"v\" x b".toList)).flatMap HeadPart.text =
        " a=\"v\" b".toList := by decide +kernel
  have apart : OpenTag.StaysApart ⟨"p".toList, " x=1 a=\"v\" x b".toList, true⟩
      (HeadPart.without "x".toList (HeadPart.readAll " x=1 a=\"v\" x b".toList)) := by
    refine ⟨fun c hc => ?_, by decide +kernel, by decide +kernel, by decide +kernel⟩
    rw [hinner] at hc
    obtain rfl : ' ' = c := Option.some.inj hc
    rfl
  have ends : TagsEndBefore doc 5 := by
    let tag : OpenTag := ⟨"div".toList, [], false⟩
    have hdiv : EndsBefore "<p x=1 a=\"v\" x b/></div>".toList (tag.text ++ ([] ++ [])) :=
      .lexeme (l := .opening tag) (by decide +kernel) (by decide +kernel) .nil
    exact ⟨_, _, rfl, by decide, hdiv⟩
  obtain ⟨tag, hhead, hname, hself, hentries⟩ := hreread.mpr apart
  obtain ⟨hvalue, hsame⟩ := hagain apart (by simp [Selector.readsName]) ends
  refine ⟨revised, tag, hrun, hhead, hname, hself, hentries.trans ?_, hvalue, hsame⟩
  decide +kernel

/-- Without blanks between two attributes, the removal of the first makes the second one go on with
the name of the tag. -/
theorem Draft.not_removeAttribute_reread_of_no_blank :
    let _ := Digest.multiplicative
    ¬∀ (draft : Draft) (span : Span) (name : Text), draft.locate = .ok span →
      (∀ selector ∈ draft.selector, selector.readsName = true) →
      ∀ revised, draft.removeAttribute name = .ok revised →
        ∃ tag, headAt? revised.document span.head.start = some ⟨span.head.start, tag⟩ ∧
          tag.name = span.head.tag.name ∧ tag.selfClosing = span.head.tag.selfClosing ∧
          tag.attributes.map Attribute.entry =
            (span.head.tag.attributes.filter fun a => a.name ≠ name).map Attribute.entry := by
  intro digest hall
  let doc := "<a x=\"1\"y></a>".toList
  have located : Draft.locate ⟨doc, doc, some (.tag "a".toList)⟩ =
      .ok ⟨⟨0, ⟨"a".toList, " x=\"1\"y".toList, false⟩⟩, some ⟨10, 14⟩⟩ := by decide +kernel
  have hrun : Draft.removeAttribute ⟨doc, doc, some (.tag "a".toList)⟩ "x".toList =
      .ok ⟨doc, "<ay></a>".toList, some (.tag "a".toList)⟩ := by decide +kernel
  obtain ⟨tag, hhead, hname, -⟩ :=
    hall _ _ "x".toList located (by simp [Selector.readsName]) _ hrun
  have hread : headAt? "<ay></a>".toList 0 = some ⟨0, ⟨"ay".toList, [], false⟩⟩ := by
    decide +kernel
  obtain rfl : ⟨"ay".toList, [], false⟩ = tag := by simpa using hread.symm.trans hhead
  revert hname
  decide

end Graft.Markup
