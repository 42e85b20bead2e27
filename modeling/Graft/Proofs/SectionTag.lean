import Graft.Proofs.CleanHead
import Graft.Proofs.Pairing
import Graft.Proofs.Splice

/-! The opening tag of a section, from which the directive is taken away. What stood on the two
sides of the directive may come together there, and a second directive is left. -/

namespace Graft.Markup

open Text

namespace HeadPart

/-! ### Parts without a directive -/

/-- Where the attributes of the first parts are read back, these stay apart, and the other
attributes are read from the rest of the text. -/
theorem apart_append_of_entries {before tail : List HeadPart} {later : List (Text × Option Text)}
    (hbefore : ∀ part ∈ before, (∃ rest, part.Reads rest) ∧ part.isOpen = false)
    (htail : apart tail = true)
    (h : entries (readAll ((before ++ tail).flatMap text)) = entries before ++ later) :
    apart (before ++ tail) = true ∧ entries (readAll (tail.flatMap text)) = later := by
  induction before with
  | nil => exact ⟨htail, h⟩
  | cons part before ih =>
    obtain ⟨⟨⟨rest, hreads⟩, hclosed⟩, hbefore'⟩ := List.forall_mem_cons.mp hbefore
    have hopen : ¬part.isOpen = true := by simp [hclosed]
    rw [List.cons_append, List.flatMap_cons] at h
    cases part with
    | filler t =>
      rw [readAll_of_read? (hreads.replace (fun h => absurd h hopen) rfl).read?] at h
      exact ih hbefore' h
    | attr a =>
      obtain ⟨hends, hlater⟩ := endsAt_of_entries hreads (fun h => absurd h hopen) h
      obtain ⟨hapart, hentries⟩ := ih hbefore' hlater
      refine ⟨?_, hentries⟩
      rw [List.cons_append, apart, hends, hapart]
      rfl

theorem filter_attrs_eq_self {parts : List HeadPart} (h : ∀ part ∈ parts, ¬part.isDirective) :
    (parts.filterMap attr?).filter (!·.isDirective) = parts.filterMap attr? := by
  rw [List.filter_eq_self]
  intro a ha
  have hpart := h _ (mem_filterMap_attr?.mp ha)
  simpa [isDirective] using hpart

/-- What is left of the parts of a tag without the first directive is read back with the attributes
that hold no directive where there is no second one and what is left stays apart. -/
theorem entries_withoutDirective_iff (cs : Text) :
    entries (readAll ((withoutDirective (readAll cs)).flatMap text)) =
        (((readAll cs).filterMap attr?).filter (!·.isDirective)).map Attribute.entry ↔
      ((readAll cs).filterMap attr?).countP Attribute.isDirective ≤ 1 ∧
        apart (withoutDirective (readAll cs)) = true := by
  have hcountP (parts : List HeadPart) (h : ∀ part ∈ parts, ¬part.isDirective) :
      (parts.filterMap attr?).countP Attribute.isDirective = 0 := by
    rw [List.countP_eq_zero]
    intro a ha
    exact h _ (mem_filterMap_attr?.mp ha)
  obtain ⟨hno, hsame⟩ | ⟨before, directive, after, hno, hyes, hparts, hwithout⟩ :=
    withoutDirective_cases (readAll cs)
  · rw [hsame, flatMap_text_readAll, filter_attrs_eq_self hno, hcountP _ hno]
    exact iff_of_true rfl ⟨Nat.zero_le _, apart_readAll cs⟩
  · have hfront := front_of_readAll hparts
    have hapart := apart_after hparts
    have hafter : readAll (after.flatMap text) = after := by
      rw [List.append_cons] at hparts
      exact readAll_suffix hparts
    have hlegible : Legible (before ++ after) := legible_append hfront (legible_after hparts)
    have hattrs : (readAll cs).filterMap attr? =
        before.filterMap attr? ++ directive :: after.filterMap attr? := by
      rw [hparts, List.filterMap_append]
      rfl
    have hkept : ((readAll cs).filterMap attr?).filter (!·.isDirective) =
        before.filterMap attr? ++ (after.filterMap attr?).filter (!·.isDirective) := by
      rw [hattrs, List.filter_append, filter_attrs_eq_self hno,
        List.filter_cons_of_neg (by simp [hyes])]
    have hcount : ((readAll cs).filterMap attr?).countP Attribute.isDirective ≤ 1 ↔
        (after.filterMap attr?).filter (!·.isDirective) = after.filterMap attr? := by
      rw [hattrs, List.countP_append, hcountP _ hno, List.countP_cons_of_pos hyes,
        List.filter_eq_self]
      rw [show 0 + ((after.filterMap attr?).countP Attribute.isDirective + 1) ≤ 1 ↔
        (after.filterMap attr?).countP Attribute.isDirective = 0 by omega, List.countP_eq_zero]
      simp
    rw [hkept, List.map_append, hwithout, hcount]
    constructor
    · intro hentries
      -- what is read after the cut has as many attributes as stood there, so none is filtered out
      obtain ⟨hall, hlater⟩ := apart_append_of_entries hfront hapart hentries
      refine ⟨?_, hall⟩
      rw [hafter] at hlater
      have hlength := congrArg List.length hlater
      rw [entries, List.length_map, List.length_map] at hlength
      exact List.filter_sublist.eq_of_length hlength.symm
    · rintro ⟨hsame, hall⟩
      rw [readAll_flatMap hlegible hall, hsame, ← List.map_append, entries,
        List.filterMap_append]

end HeadPart

/-! ### The opening tag of a section -/

/-- The text of a section's opening tag is that of the tag in the document without its first
directive. -/
theorem exists_head_of_find? {doc tag : Text} {s : Section}
    (h : Section.find? doc tag = .ok (some s)) :
    ∃ head ∈ heads doc, head.start = s.start ∧ head.stop = s.contentStart ∧ head.name = tag ∧
      head.tag.selfClosing = false ∧ s.openTag = head.tag.withoutDirective.text := by
  obtain ⟨head, range, op, hblock, -, rfl⟩ := Section.exists_block_of_find? h
  obtain ⟨hmem, hself, hname, -⟩ := Section.element_of_findBlock? hblock
  exact ⟨head, hmem, rfl, rfl, hname, hself, rfl⟩

theorem OpenTag.eq_of_text_eq {tag tag' : OpenTag} (htext : tag.text = tag'.text)
    (hname : tag.name = tag'.name) (hself : tag.selfClosing = tag'.selfClosing) : tag = tag' := by
  obtain ⟨name, inner, selfClosing⟩ := tag
  obtain ⟨name', inner', selfClosing'⟩ := tag'
  obtain rfl : name = name' := hname
  obtain rfl : selfClosing = selfClosing' := hself
  rw [text, text, List.cons.injEq, List.append_assoc, List.append_assoc] at htext
  obtain rfl : inner = inner' := List.append_cancel_right (List.append_cancel_left htext.2)
  rfl

/-- Wherever the opening tag of a section is written, it is read as a whole, with the name of the
section's tag and with the attributes that hold no directive, where there is no second directive and
what is left of the tag stays apart, and nowhere else. -/
theorem Section.openTag_reread {doc tag : Text} {s : Section}
    (found : Section.find? doc tag = .ok (some s)) :
    ∃ head ∈ heads doc, head.start = s.start ∧ head.stop = s.contentStart ∧ head.name = tag ∧
      head.tag.selfClosing = false ∧
      ((∃ read : OpenTag, read.text = s.openTag ∧ read.name = tag ∧ read.selfClosing = false ∧
          read.attributes.map Attribute.entry =
            (head.tag.attributes.filter (!·.isDirective)).map Attribute.entry ∧
          ∀ before after, headAt? (before ++ (s.openTag ++ after)) before.size =
            some ⟨before.size, read⟩) ↔
        head.tag.attributes.countP Attribute.isDirective ≤ 1 ∧
          head.tag.StaysApart (HeadPart.withoutDirective (HeadPart.readAll head.tag.inner))) := by
  obtain ⟨head, hmem, hstart, hstop, hname, hself, hopen⟩ := exists_head_of_find? found
  refine ⟨head, hmem, hstart, hstop, hname, hself, ?_⟩
  have htagName : IsTagName head.tag.withoutDirective.name := isTagName_of_mem_heads hmem
  have hiff := HeadPart.entries_withoutDirective_iff head.tag.inner
  constructor
  · rintro ⟨read, htext, hreadName, hreadSelf, hentries, hhead⟩
    obtain rfl : read = head.tag.withoutDirective :=
      OpenTag.eq_of_text_eq (htext.trans hopen) (hreadName.trans hname.symm)
        (hreadSelf.trans hself.symm)
    obtain ⟨hcount, hapart⟩ := hiff.mp hentries
    obtain ⟨rest, hread⟩ := headAt?_append_iff.mp (hhead [] [])
    obtain rfl : [] = rest := by
      have happend := Lexeme.eq_append_of_read? hread
      rw [← htext] at happend
      exact List.append_cancel_left happend
    rw [← htext] at hread
    obtain ⟨hfirst, hpasses, hslash⟩ := (read?_openTag_iff htagName).mp hread
    exact ⟨hcount, hfirst, hpasses, hslash, hapart⟩
  · rintro ⟨hcount, hstays⟩
    refine ⟨head.tag.withoutDirective, hopen.symm, hname, hself, hiff.mpr ⟨hcount, hstays.apart⟩,
      fun before after => ?_⟩
    rw [hopen]
    exact headAt?_append_iff.mpr
      ⟨after, (read?_openTag_iff htagName).mpr ⟨hstays.name, hstays.passes, hstays.slash⟩⟩

/-- A directive between two other attributes, with blanks around its `=`. -/
theorem Section.openTag_reread_between :
    let doc := "<p/><style lang=\"a\" kom = 'replace' scoped>b</style>".toList
    let opening := "<style lang=\"a\" scoped>".toList
    Section.find? doc "style".toList = .ok (some ⟨"style".toList, .replace, opening, "b".toList,
        "</style>".toList, 4, 43, 44, 52⟩) ∧
      ∃ read : OpenTag, read.text = opening ∧ read.name = "style".toList ∧
        read.selfClosing = false ∧
        read.attributes.map Attribute.entry =
          [("lang".toList, some "a".toList), ("scoped".toList, none)] ∧
        ∀ before after, headAt? (before ++ (opening ++ after)) before.size =
          some ⟨before.size, read⟩ := by
  intro doc opening
  let paragraph : OpenTag := ⟨"p".toList, [], true⟩
  let tag : OpenTag := ⟨"style".toList, " lang=\"a\" kom = 'replace' scoped".toList, false⟩
  have found : Section.find? doc "style".toList = .ok (some ⟨"style".toList, .replace, opening,
      "b".toList, "</style>".toList, 4, 43, 44, 52⟩) := by decide +kernel
  refine ⟨found, ?_⟩
  obtain ⟨head, hmem, -, -, -, hself, hiff⟩ := Section.openTag_reread found
  have hheads : heads doc = [⟨0, paragraph⟩, ⟨4, tag⟩] := by decide +kernel
  rw [hheads] at hmem
  obtain rfl | rfl : head = ⟨0, paragraph⟩ ∨ head = ⟨4, tag⟩ := by simpa using hmem
  · cases hself
  · have hinner : (HeadPart.withoutDirective (HeadPart.readAll tag.inner)).flatMap
        HeadPart.text = " lang=\"a\" scoped".toList := by decide +kernel
    have hstays : tag.StaysApart (HeadPart.withoutDirective (HeadPart.readAll tag.inner)) := by
      refine ⟨fun c hc => ?_, by decide +kernel, by decide +kernel, by decide +kernel⟩
      rw [hinner] at hc
      obtain rfl : ' ' = c := Option.some.inj hc
      rfl
    obtain ⟨read, htext, hname, hclosing, hentries, hread⟩ :=
      hiff.mpr ⟨by decide +kernel, hstays⟩
    refine ⟨read, htext, hname, hclosing, hentries.trans ?_, hread⟩
    decide +kernel

/-- Without a blank after it, a directive that is taken away makes the next attribute go on with the
name of the tag. -/
theorem Section.not_openTag_reread_of_no_blank :
    ¬∀ (doc tag : Text) (s : Section), Section.find? doc tag = .ok (some s) →
      ∃ read, headAt? s.openTag 0 = some ⟨0, read⟩ ∧ read.name = tag := by
  intro hall
  have found : Section.find? "<style kom=\"merge\"scoped>a</style>".toList "style".toList =
      .ok (some ⟨"style".toList, .merge, "<stylescoped>".toList, "a".toList, "</style>".toList,
        0, 25, 26, 34⟩) := by decide +kernel
  obtain ⟨read, hhead, hname⟩ := hall _ _ _ found
  have hread : headAt? "<stylescoped>".toList 0 = some ⟨0, ⟨"stylescoped".toList, [], false⟩⟩ := by
    decide +kernel
  obtain rfl : ⟨"stylescoped".toList, [], false⟩ = read := by simpa using hread.symm.trans hhead
  revert hname
  decide

end Graft.Markup
