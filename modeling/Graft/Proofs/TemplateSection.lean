import Graft.Proofs.Splice

/-! The template of a component against the `template` section of its text. Both begin at the same
opening tag. The section ends at the closing tag that is paired with it, the template at the last
`</template>`, so they are one exactly when that is the same tag. -/

namespace Graft

open Text Markup

/-! ### Last occurrences -/

namespace Text

variable {needle s t before after : Text}

theorem breakOnLast?_append (s : Text) (h : breakOnLast? needle t = some (before, after)) :
    breakOnLast? needle (s ++ t) = some (s ++ before, after) := by
  induction s with
  | nil => exact h
  | cons c s ih => rw [List.cons_append, breakOnLast?, ih, List.cons_append]

/-- The last occurrence in a text belongs to the end of the text that it does not come before. -/
theorem breakOnLast?_of_append (h : breakOnLast? needle (s ++ t) = some (before, after))
    (hsize : s.size ≤ before.size) :
    ∃ front, before = s ++ front ∧ breakOnLast? needle t = some (front, after) := by
  induction s generalizing before with
  | nil => exact ⟨before, rfl, h⟩
  | cons c s ih =>
    rw [List.cons_append, breakOnLast?] at h
    split at h
    · next hlater =>
      obtain ⟨rfl, rfl⟩ := Prod.mk.inj (Option.some.inj h)
      obtain ⟨front, rfl, hfront⟩ := ih hlater (by simpa using hsize)
      exact ⟨front, rfl, hfront⟩
    · split at h
      · obtain ⟨rfl, -⟩ := Prod.mk.inj (Option.some.inj h)
        have hpos := c.utf8Size_pos
        rw [size_cons, size_nil] at hsize
        omega
      · cases h

variable {c : Char}

theorem count_dropWhile {p : Char → Bool} (hc : p c = false) (t : Text) :
    (t.dropWhile p).count c = t.count c := by
  have hfront : (t.takeWhile p).count c = 0 := by
    refine List.count_eq_zero.mpr fun hmem => ?_
    have hp := List.mem_takeWhile_imp hmem
    rw [hc] at hp
    cases hp
  have hcount := congrArg (List.count c) (List.takeWhile_append_dropWhile (p := p) (l := t))
  rw [List.count_append] at hcount
  omega

/-- A character that is no white space is trimmed from nowhere. -/
theorem count_trim (hc : isSpace c = false) (t : Text) : (trim t).count c = t.count c := by
  rw [trim, trimEnd, List.count_reverse, count_dropWhile hc, List.count_reverse, trimStart,
    count_dropWhile hc]

end Text

/-! ### The section of a component's template -/

/-- The template section of a text, between its tags: the block of the component begins at the same
tag, and ends where the last `</template>` after that tag does. -/
structure TemplateCut (doc : Text) (s : Section) (before : Text) (tag : OpenTag) (close : CloseTag)
    (after : Text) : Prop where
  text : doc = before ++ (tag.text ++ (s.content ++ (close.text ++ after)))
  read : Lexeme.read? (close.text ++ after) = some (.closing close, after)
  start : s.start = before.size
  contentStart : s.contentStart = before.size + tag.text.size
  contentStop : s.contentStop = s.contentStart + s.content.size
  stop : s.stop = s.contentStop + close.text.size
  block : TemplateBlock.find? doc =
    (breakOnLast? templateEnd (s.content ++ (close.text ++ after))).map fun (body, _) =>
      ⟨⟨before.size, tag⟩, s.contentStart + body.size⟩

theorem TemplateCut.of_find? {doc : Text} {s : Section}
    (h : Section.find? doc templateName = .ok (some s)) :
    ∃ before tag close after, TemplateCut doc s before tag close after := by
  unfold Section.find? at h
  split at h
  · cases h
  next head range hblock =>
  obtain ⟨⟨operation, openTag⟩, -, h⟩ := bind_eq_ok_iff.mp h
  obtain rfl := Option.some.inj (Except.ok.inj h)
  simp only [Section.findBlock?, Option.bind_eq_bind, Option.bind_eq_some_iff] at hblock
  obtain ⟨found, hfound, bounds, hbounds, hblock⟩ := hblock
  split at hblock
  · next outer range' =>
    obtain ⟨rfl, rfl⟩ := Prod.mk.inj (Option.some.inj hblock)
    obtain ⟨before, read, after, rfl, hstart, hread⟩ :=
      reads_of_mem_heads (List.mem_of_find?_eq_some hfound)
    obtain ⟨start, tag⟩ := found
    obtain rfl : start = before.size := by simpa using hstart
    obtain rfl : read = tag.text ++ after := Lexeme.eq_append_of_read? hread
    rw [elementOf?, elementFrom?_append, Option.join_some] at hbounds
    obtain ⟨content, close, later, rfl, -, hclose, rfl⟩ := exists_closing hread hbounds
    have hstop : Head.stop ⟨before.size, tag⟩ = before.size + tag.text.size := Head.stop_eq _
    have hcontent : (before ++ (tag.text ++ (content ++ (close.text ++ later)))).slice
        (before.size + tag.text.size) (before.size + tag.text.size + content.size) = content := by
      refine slice_of_eq (List.append_assoc before tag.text _).symm ?_ ?_
      · rw [size_append]
      · rw [size_append]
    have hsplit := splitAt?_append (before ++ tag.text) (content ++ (close.text ++ later))
    rw [size_append, List.append_assoc] at hsplit
    refine ⟨before, tag, close, later, ?_, hclose, rfl, hstop, ?_, ?_, ?_⟩
    · simp only [hstop, hcontent]
    · simp only [hstop, hcontent]
    · rfl
    · simp only [TemplateBlock.find?, hfound, hstop, hcontent, hsplit, Option.bind_eq_bind,
        Option.bind_some, Option.map_eq_bind]
      rfl
  · cases hblock

theorem read?_templateEnd (after : Text) :
    Lexeme.read? (templateEnd ++ after) = some (.closing ⟨templateName, []⟩, after) := rfl

namespace TemplateCut

variable {file : ComponentFile} {s : Section} {before after front rest : Text} {tag : OpenTag}
  {close : CloseTag}

/-- A template with the text of a section's content ends where the content does. -/
theorem contentStop_of_template (hcut : TemplateCut file.content s before tag close after)
    (h : file.template = .ok (trim s.content)) :
    ∃ front rest, breakOnLast? templateEnd file.content = some (front, rest) ∧
      front.size = s.contentStop := by
  obtain ⟨block, hblock, h⟩ := bind_eq_ok_iff.mp h
  have hfind := ComponentFile.find?_of_block hblock
  rw [hcut.block] at hfind
  obtain ⟨⟨body, rest⟩, hlast, hfound⟩ := Option.map_eq_some_iff.mp hfind
  obtain ⟨htail, later, hrest⟩ := eq_append_of_breakOnLast? hlast
  have hslice : file.content.slice block.head.stop block.closeStart = body := by
    have hdoc : file.content = before ++ tag.text ++ (body ++ rest) := by
      rw [hcut.text, htail, List.append_assoc]
    rw [← hfound]
    refine slice_of_eq hdoc ?_ ?_
    · rw [Head.stop_eq, size_append]
    · rw [hcut.contentStart, size_append]
  -- both end at a `<`, after the same number of them
  have hcount : s.content.count '<' = body.count '<' := by
    have htrim : trim s.content = trim body := by
      rw [← hslice]
      exact (Except.ok.inj h).symm
    rw [← count_trim (by decide) s.content, htrim, count_trim (by decide)]
  have hcontent : s.content = body := by
    rw [← hrest, CloseTag.text] at htail
    exact eq_of_append_cons htail hcount
  refine ⟨before ++ tag.text ++ body, rest, ?_, ?_⟩
  · rw [hcut.text, ← List.append_assoc]
    exact breakOnLast?_append _ hlast
  · rw [hcut.contentStop, hcut.contentStart, hcontent, size_append, size_append]

theorem breakOnLast?_tail (hcut : TemplateCut file.content s before tag close after)
    (hlast : breakOnLast? templateEnd file.content = some (front, rest))
    (hsize : front.size = s.contentStop) :
    close.text = templateEnd ∧
      breakOnLast? templateEnd (s.content ++ (close.text ++ after)) =
        some (s.content, close.text ++ after) := by
  have hfront : (before ++ tag.text).size ≤ front.size := by
    rw [hsize, hcut.contentStop, hcut.contentStart, size_append]
    omega
  rw [hcut.text, ← List.append_assoc] at hlast
  obtain ⟨body, rfl, hbody⟩ := breakOnLast?_of_append hlast hfront
  obtain ⟨htail, later, hrest⟩ := eq_append_of_breakOnLast? hbody
  have hsame : s.content.size = body.size := by
    rw [hcut.contentStop, hcut.contentStart, size_append, size_append] at hsize
    omega
  obtain ⟨hcontent, hclose⟩ := eq_of_append_of_size htail hsame
  have hread := hcut.read
  rw [hclose, ← hrest, read?_templateEnd] at hread
  obtain ⟨hname, -⟩ := Prod.mk.inj (Option.some.inj hread)
  refine ⟨?_, ?_⟩
  · rw [← Lexeme.closing.inj hname]
    rfl
  · rw [hbody, ← hclose, ← hcontent]

end TemplateCut

namespace ComponentFile

section

variable [Digest] {file : ComponentFile} {s : Section} {before after front rest : Text}
  {tag : OpenTag} {close : CloseTag}

/-- A component's template is a section of its text, and another template changes nothing of the
text outside that section. -/
structure TemplateIs (file : ComponentFile) (s : Section) : Prop where
  template : file.template = .ok (trim s.content)
  setTemplate (body : Text) : ∃ before block after : Text,
    file.content = before ++ (block ++ after) ∧ s.start = before.size ∧
    s.stop = before.size + block.size ∧
    file.setTemplate body = .ok { file with
      revised := some (before ++ ((file.content.slice s.start s.contentStart ++ '\n' :: body ++
        '\n' :: templateEnd) ++ after)) }

theorem templateIs_of_last (hcut : TemplateCut file.content s before tag close after)
    (hlast : breakOnLast? templateEnd file.content = some (front, rest))
    (hsize : front.size = s.contentStop) : file.TemplateIs s := by
  obtain ⟨hclose, htail⟩ := hcut.breakOnLast?_tail hlast hsize
  have hblock : file.block file.content = .ok ⟨⟨s.start, tag⟩, s.contentStop⟩ := by
    rw [block, hcut.block, htail, hcut.contentStop, hcut.start]
    rfl
  have hstop : Head.stop ⟨s.start, tag⟩ = s.contentStart := by
    rw [Head.stop_eq, hcut.contentStart, hcut.start]
  constructor
  case template =>
    have hdoc : file.content = before ++ tag.text ++ (s.content ++ (close.text ++ after)) := by
      rw [hcut.text, List.append_assoc]
    have hslice : file.content.slice s.contentStart s.contentStop = s.content := by
      refine slice_of_eq hdoc ?_ ?_
      · rw [hcut.contentStart, size_append]
      · rw [hcut.contentStop, hcut.contentStart, size_append]
    rw [template, hblock, ← hslice, ← hstop]
    rfl
  case setTemplate =>
    intro body
    have hdoc : file.content = before ++ (tag.text ++ s.content ++ close.text ++ after) := by
      rw [hcut.text]
      simp only [List.append_assoc]
    have hend : s.stop = before.size + (tag.text ++ s.content ++ close.text).size := by
      rw [hcut.stop, hcut.contentStop, hcut.contentStart, size_append, size_append]
      omega
    have hblockStop : TemplateBlock.stop ⟨⟨s.start, tag⟩, s.contentStop⟩ = s.stop := by
      rw [TemplateBlock.stop, hcut.stop, hclose]
    obtain ⟨did, happly⟩ := applyTo_replacement hdoc hcut.start hend
      (file.content.slice s.start s.contentStart ++ '\n' :: body ++ '\n' :: templateEnd)
    refine ⟨before, tag.text ++ s.content ++ close.text, after, hdoc, hcut.start, hend, ?_⟩
    rw [ComponentFile.setTemplate, hblock]
    simp only [bind, Except.bind, hblockStop, hstop]
    rw [happly]
    rfl

/-- The template of a component is the `template` section of its text exactly when the tag that
closes the section is the last `</template>` of the text. -/
theorem templateIs_iff (h : Section.find? file.content templateName = .ok (some s)) :
    file.TemplateIs s ↔ ∃ before after,
      breakOnLast? templateEnd file.content = some (before, after) ∧
        before.size = s.contentStop := by
  obtain ⟨before, tag, close, after, hcut⟩ := TemplateCut.of_find? h
  constructor
  · intro htemplate
    exact hcut.contentStop_of_template htemplate.template
  · rintro ⟨front, rest, hlast, hsize⟩
    exact templateIs_of_last hcut hlast hsize

end

/-- A template with another one inside it, and a script after it. -/
theorem templateIs_iff_nested :
    let _ := Digest.multiplicative
    let doc := "<template> <p><template #a>b</template></p></template>\n<script>c</script>".toList
    ∃ s, Section.find? doc templateName = .ok (some s) ∧
      s.content = " <p><template #a>b</template></p>".toList ∧
      ComponentFile.TemplateIs ⟨⟨[]⟩, ⟨[]⟩, none, doc, none⟩ s := by
  intro digest doc
  let s : Section := {
    tag := templateName
    operation := .replace
    openTag := "<template>".toList
    content := " <p><template #a>b</template></p>".toList
    closeTag := templateEnd
    start := 0, contentStart := 10, contentStop := 43, stop := 54 }
  have hfind : Section.find? doc templateName = .ok (some s) := by decide +kernel
  have hlast : breakOnLast? templateEnd doc =
      some (doc.take 43, "</template>\n<script>c</script>".toList) := by decide +kernel
  exact ⟨s, hfind, rfl, (templateIs_iff hfind).mpr ⟨_, _, hlast, by decide +kernel⟩⟩

/-- A second block of a component belongs to its template, but not to its section. -/
theorem not_templateIs_of_two_blocks :
    let _ := Digest.multiplicative
    ¬∀ (file : ComponentFile) (s : Section),
      Section.find? file.content templateName = .ok (some s) → file.TemplateIs s := by
  intro digest hall
  let doc := "<template>a</template><template>b</template>".toList
  let s : Section := {
    tag := templateName
    operation := .replace
    openTag := "<template>".toList
    content := "a".toList
    closeTag := templateEnd
    start := 0, contentStart := 10, contentStop := 11, stop := 22 }
  have hfind : Section.find? doc templateName = .ok (some s) := by decide +kernel
  have htemplate := (hall ⟨⟨[]⟩, ⟨[]⟩, none, doc, none⟩ s hfind).template
  revert htemplate
  decide +kernel

end ComponentFile

end Graft
