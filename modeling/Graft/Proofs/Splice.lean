import Graft.Component
import Graft.Proofs.Combination
import Graft.Proofs.Located
import Graft.Proofs.Produce

/-! The edits by which a component gets its template and its comments, and a document the sections
of an override. Each is made at a place that was read from the document, so none is refused. -/

namespace Graft

open Text Markup

/-! ### Edits at a cut -/

section Edits

variable [Digest] {doc before old after : Text}

/-- An edit that expects what a document holds between two boundaries is applied. -/
theorem applyTo_replacement (hdoc : doc = before ++ (old ++ after)) {start stop : Nat}
    (hstart : start = before.size) (hstop : stop = before.size + old.size) (new : Text) :
    ∃ did, (Edit.replacement doc start stop new).applyTo doc =
      .ok (before ++ (new ++ after), did) := by
  have hslice : doc.slice start stop = old := slice_of_eq hdoc hstart hstop
  rw [Edit.replacement, hslice, hstart, hstop, hdoc]
  exact applyTo_ofExpected before after old new

theorem applyTo_insertion_of_eq (hdoc : doc = before ++ after) {offset : Nat}
    (hoffset : offset = before.size) (new : Text) :
    ∃ did, (Edit.insertion offset new).applyTo doc = .ok (before ++ (new ++ after), did) := by
  rw [hoffset, hdoc]
  exact applyTo_insertion before after new

end Edits

/-! ### Templates -/

/-- A component cut around its template. The `</template>` that ends it is the last one after its
opening tag. -/
theorem TemplateBlock.exists_cut {doc : Text} {block : TemplateBlock}
    (h : TemplateBlock.find? doc = some block) :
    ∃ before body after,
      doc = before ++ (block.head.tag.text ++ (body ++ (templateEnd ++ after))) ∧
      block.head.start = before.size ∧ block.closeStart = block.head.stop + size body ∧
      breakOnLast? templateEnd (body ++ (templateEnd ++ after)) =
        some (body, templateEnd ++ after) := by
  simp only [find?, Option.bind_eq_bind, Option.bind_eq_some_iff] at h
  obtain ⟨head, hhead, ⟨front, tail⟩, hsplit, ⟨body, rest⟩, hbreak, hblock⟩ := h
  obtain rfl := Option.some.inj hblock
  obtain ⟨before, read, after, hdoc, hstart, hread⟩ :=
    reads_of_mem_heads (List.mem_of_find?_eq_some hhead)
  have hstart : head.start = before.size := by simpa using hstart
  obtain rfl : read = head.tag.text ++ after := Lexeme.eq_append_of_read? hread
  have hstop : head.stop = (before ++ head.tag.text).size := by
    rw [Head.stop_eq, hstart, size_append]
  rw [hstop, hdoc, ← List.append_assoc, splitAt?_append] at hsplit
  obtain ⟨rfl, rfl⟩ := Prod.mk.inj (Option.some.inj hsplit)
  obtain ⟨hafter, later, rfl⟩ := eq_append_of_breakOnLast? hbreak
  have hafter : after = body ++ (templateEnd ++ later) := hafter
  rw [hafter] at hbreak
  exact ⟨before, body, later, by rw [hdoc, hafter], hstart, rfl, hbreak⟩

namespace ComponentFile

variable {file file' : ComponentFile} {body comment : Text} {e : ComponentError}

theorem block_eq_error {doc : Text} (h : file.block doc = .error e) :
    e = .missingTemplate file.path := by
  unfold block at h
  split at h
  · cases h
  · exact (Except.error.inj h).symm

theorem find?_of_block {doc : Text} {block : TemplateBlock} (h : file.block doc = .ok block) :
    TemplateBlock.find? doc = some block := by
  unfold ComponentFile.block at h
  split at h
  · next found hfound => rw [hfound, Except.ok.inj h]
  · cases h

theorem template_eq_error (h : file.template = .error e) : e = .missingTemplate file.path := by
  rcases bind_eq_error_iff.mp h with h | ⟨block, -, h⟩
  · exact block_eq_error h
  · cases h

variable [Digest]

theorem applyTo_setTemplate {block : TemplateBlock}
    (h : TemplateBlock.find? file.content = some block) (new : Text) :
    ∃ result, (Edit.replacement file.content block.head.start block.stop new).applyTo
      file.content = .ok result := by
  obtain ⟨before, inner, after, hdoc, hstart, hclose, -⟩ := TemplateBlock.exists_cut h
  have hcut : file.content =
      before ++ (block.head.tag.text ++ inner ++ templateEnd ++ after) := by
    simp [hdoc]
  have hstop : block.stop =
      before.size + (block.head.tag.text ++ inner ++ templateEnd).size := by
    rw [TemplateBlock.stop, hclose, Head.stop_eq, hstart]
    simp [Nat.add_assoc]
  obtain ⟨did, happly⟩ := applyTo_replacement hcut hstart hstop new
  exact ⟨_, happly⟩

theorem applyTo_addComment {doc : Text} {block : TemplateBlock}
    (h : TemplateBlock.find? doc = some block) (new : Text) :
    ∃ result, (Edit.insertion block.closeStart new).applyTo doc = .ok result := by
  obtain ⟨before, inner, after, hdoc, hstart, hclose, -⟩ := TemplateBlock.exists_cut h
  have hcut : doc = before ++ block.head.tag.text ++ inner ++ (templateEnd ++ after) := by
    simp [hdoc]
  have hoffset : block.closeStart = (before ++ block.head.tag.text ++ inner).size := by
    rw [hclose, Head.stop_eq, hstart]
    simp [Nat.add_assoc]
  obtain ⟨did, happly⟩ := applyTo_insertion_of_eq hcut hoffset new
  exact ⟨_, happly⟩

/-- A template is not put into a component only where there is none. -/
theorem setTemplate_eq_error (h : file.setTemplate body = .error e) :
    e = .missingTemplate file.path := by
  unfold setTemplate at h
  rcases bind_eq_error_iff.mp h with h | ⟨block, hblock, h⟩
  · exact block_eq_error h
  · obtain ⟨result, happly⟩ := applyTo_setTemplate (find?_of_block hblock)
      (file.content.slice block.head.start block.head.stop ++ '\n' :: body ++ '\n' :: templateEnd)
    dsimp only at h
    rw [happly] at h
    cases h

theorem revised_of_setTemplate (h : file.setTemplate body = .ok file') :
    file'.revised.isSome := by
  unfold setTemplate at h
  obtain ⟨block, -, h⟩ := bind_eq_ok_iff.mp h
  obtain ⟨edited, -, h⟩ := bind_eq_ok_iff.mp h
  obtain rfl := Except.ok.inj h
  rfl

/-- A comment is not added to a revised component only where there is no template. -/
theorem addComment_eq_error (hrevised : file.revised.isSome)
    (h : file.addComment comment = .error e) : e = .missingTemplate file.path := by
  obtain ⟨current, hcurrent⟩ := Option.isSome_iff_exists.mp hrevised
  unfold addComment at h
  rw [hcurrent] at h
  rcases bind_eq_error_iff.mp h with h | ⟨block, hblock, h⟩
  · exact block_eq_error h
  · obtain ⟨result, happly⟩ := applyTo_addComment (find?_of_block hblock) (marker comment)
    dsimp only at h
    rw [happly] at h
    cases h

theorem revised_of_addComment (h : file.addComment comment = .ok file') :
    file'.revised.isSome := by
  unfold addComment at h
  split at h
  · cases h
  · obtain ⟨block, -, h⟩ := bind_eq_ok_iff.mp h
    obtain ⟨edited, -, h⟩ := bind_eq_ok_iff.mp h
    obtain rfl := Except.ok.inj h
    rfl

end ComponentFile

/-! ### Sections -/

/-- A section stands in a document: its opening tag, its content and its closing tag, between
boundaries. -/
def Section.StandsIn (doc : Text) (s : Section) : Prop :=
  ∃ before opening content close after, doc = before ++ (opening ++ (content ++ (close ++ after))) ∧
    s.start = before.size ∧ s.contentStop = before.size + size opening + size content ∧
    s.stop = s.contentStop + size close

namespace Section

variable {doc tag override : Text} {head : Head} {range : Range}

theorem element_of_findBlock? (h : findBlock? doc tag = some (head, range)) :
    head ∈ heads doc ∧ head.tag.selfClosing = false ∧ head.name = tag ∧
      ∃ outer, elementOf? doc head = some ⟨outer, .explicit range⟩ := by
  simp only [findBlock?, Option.bind_eq_bind, Option.bind_eq_some_iff] at h
  obtain ⟨found, hfound, bounds, hbounds, h⟩ := h
  obtain ⟨hself, hname⟩ : found.tag.selfClosing = false ∧ found.name = tag := by
    simpa using List.find?_some hfound
  split at h
  · next outer range' =>
    obtain ⟨rfl, rfl⟩ := Prod.mk.inj (Option.some.inj h)
    exact ⟨List.mem_of_find?_eq_some hfound, hself, hname, outer, hbounds⟩
  · cases h

theorem located_of_findBlock? (h : findBlock? doc tag = some (head, range)) :
    Located doc ⟨head, some range⟩ := by
  obtain ⟨hmem, hself, -, outer, helement⟩ := element_of_findBlock? h
  have hspan : spanOf? doc head = some ⟨head, some range⟩ := by
    rw [spanOf?, hself, helement]
    rfl
  exact (located_of_spanOf? (reads_of_mem_heads hmem) hspan).1

/-- The section that a block is. -/
def ofBlock (doc tag : Text) (head : Head) (range : Range) (op : Operation) : Section where
  tag := tag
  operation := op
  openTag := head.tag.withoutDirective.text
  content := doc.slice head.stop range.start
  closeTag := doc.slice range.start range.stop
  start := head.start
  contentStart := head.stop
  contentStop := range.start
  stop := range.stop

theorem find?_of_findBlock? (h : findBlock? doc tag = some (head, range)) :
    find? doc tag = (Attribute.operation tag head.tag.attributes).map
      fun op => some (ofBlock doc tag head range op) := by
  obtain ⟨before, after, hdoc, hstart, -⟩ := (located_of_findBlock? h).opening
  rw [find?, h]
  dsimp only
  rw [readDirective_eq hdoc hstart]
  cases Attribute.operation tag head.tag.attributes <;> rfl

theorem exists_block_of_find? {s : Section} (h : find? doc tag = .ok (some s)) :
    ∃ head range op, findBlock? doc tag = some (head, range) ∧
      Attribute.operation tag head.tag.attributes = .ok op ∧ s = ofBlock doc tag head range op := by
  cases hblock : findBlock? doc tag with
  | none =>
    rw [find?, hblock] at h
    cases h
  | some block =>
    obtain ⟨head, range⟩ := block
    rw [find?_of_findBlock? hblock] at h
    cases hop : Attribute.operation tag head.tag.attributes with
    | error e =>
      rw [hop] at h
      cases h
    | ok op =>
      rw [hop] at h
      exact ⟨head, range, op, rfl, hop, (Option.some.inj (Except.ok.inj h)).symm⟩

theorem standsIn_of_find? {s : Section} (h : find? doc tag = .ok (some s)) : s.StandsIn doc := by
  obtain ⟨head, range, op, hblock, -, rfl⟩ := exists_block_of_find? h
  obtain ⟨before, content, close, after, hdoc, -, hstart, hclose, hstop⟩ :=
    (located_of_findBlock? hblock).closing rfl
  exact ⟨before, _, content, close.text, after, hdoc, hstart, hclose, hstop⟩

variable {incoming : Section} {existing : Option Section} {e : CombineError}

theorem find?_ne_edit (h : (find? doc tag).mapError CombineError.unknownDirective = .error e)
    (fault : Edit.Error) : e ≠ .edit fault := by
  obtain ⟨unknown, -, rfl⟩ := mapError_eq_error_iff.mp h
  simp

variable [Digest]

/-- The edit that an override's section asks for is applied. -/
theorem applyTo_combineEdit? {edit : Edit}
    (hexisting : ∀ current ∈ existing, current.StandsIn doc)
    (h : combineEdit? doc incoming existing = .ok (some edit)) :
    ∃ result, edit.applyTo doc = .ok result := by
  unfold combineEdit? at h
  split at h
  · cases h
  · next current hoperation =>
    obtain rfl := Option.some.inj (Except.ok.inj h)
    obtain ⟨before, opening, content, close, after, hdoc, hstart, hcontent, hstop⟩ :=
      hexisting current rfl
    have hcut : doc = before ++ (opening ++ content ++ close ++ after) := by simp [hdoc]
    have hend : current.stop = before.size + (opening ++ content ++ close).size := by
      rw [hstop, hcontent]
      simp [Nat.add_assoc]
    obtain ⟨did, happly⟩ := applyTo_replacement hcut hstart hend incoming.text
    exact ⟨_, happly⟩
  · split at h
    · cases h
    · split at h
      · next current =>
        obtain rfl := Option.some.inj (Except.ok.inj h)
        obtain ⟨before, opening, content, close, after, hdoc, -, hcontent, -⟩ :=
          hexisting current rfl
        have hcut : doc = before ++ opening ++ content ++ (close ++ after) := by simp [hdoc]
        have hoffset : current.contentStop = (before ++ opening ++ content).size := by
          simp [hcontent, Nat.add_assoc]
        obtain ⟨did, happly⟩ := applyTo_insertion_of_eq hcut hoffset ('\n' :: incoming.content)
        exact ⟨_, happly⟩
      · obtain rfl := Option.some.inj (Except.ok.inj h)
        obtain ⟨did, happly⟩ := applyTo_insertion_of_eq (List.append_nil doc).symm rfl
          ('\n' :: incoming.openTag ++ incoming.content ++ (['<', '/'] ++ incoming.tag ++ ['>']))
        exact ⟨_, happly⟩

theorem combineEdit?_ne_edit (h : combineEdit? doc incoming existing = .error e)
    (fault : Edit.Error) : e ≠ .edit fault := by
  unfold combineEdit? at h
  split at h
  · obtain rfl := Except.error.inj h
    simp
  · cases h
  · split at h
    · cases h
    · split at h <;> cases h

theorem receiveText_ne_edit (hexisting : ∀ current ∈ existing, current.StandsIn doc)
    (h : receiveText doc incoming existing = .error e) (fault : Edit.Error) : e ≠ .edit fault := by
  rcases bind_eq_error_iff.mp h with h | ⟨edit?, hedit, h⟩
  · exact combineEdit?_ne_edit h fault
  · cases edit? with
    | none => cases h
    | some edit =>
      obtain ⟨result, happly⟩ := applyTo_combineEdit? hexisting hedit
      dsimp only at h
      rw [happly] at h
      cases h

theorem combineTag_ne_edit (h : combineTag override doc tag = .error e) (fault : Edit.Error) :
    e ≠ .edit fault := by
  rw [combineTag_eq] at h
  rcases bind_eq_error_iff.mp h with h | ⟨found, -, h⟩
  · exact find?_ne_edit h fault
  · cases found with
    | none => cases h
    | some incoming =>
      rcases bind_eq_error_iff.mp h with h | ⟨existing, hexisting, h⟩
      · exact find?_ne_edit h fault
      · refine receiveText_ne_edit (fun current hcurrent => ?_) h fault
        obtain rfl : existing = some current := hcurrent
        exact standsIn_of_find? (mapError_eq_ok_iff.mp hexisting)

/-- No edit is refused in the combination of two documents. -/
theorem combine_ne_edit {source : Text} {tags : List Text}
    (h : combine source override tags = .error e) (fault : Edit.Error) : e ≠ .edit fault := by
  induction tags generalizing source with
  | nil => cases h
  | cons tag tags ih =>
    unfold combine at h
    rw [List.foldlM_cons] at h
    rcases bind_eq_error_iff.mp h with h | ⟨doc, -, h⟩
    · exact combineTag_ne_edit h fault
    · exact ih h

end Section

end Graft
