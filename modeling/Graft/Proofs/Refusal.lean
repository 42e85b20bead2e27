import Graft.Proofs.Directive
import Graft.Proofs.Splice

/-! When the combination of two arbitrary documents is refused, and what it makes of them where it
is not. -/

namespace Graft

open Text Markup

/-! ### What a block asks for -/

theorem Operation.ofDirective?_eq_none_iff {value : Text} :
    ofDirective? value = none ↔
      trim value ≠ "merge".toList ∧ trim value ≠ "replace".toList := by
  unfold ofDirective?
  split
  · next h => simp [h]
  · next hmerge =>
    split
    · next h => simp [h]
    · next hreplace => exact iff_of_true rfl ⟨hmerge, hreplace⟩

theorem Markup.Attribute.operation_eq_error_iff {tag : Text} {attrs : List Attribute}
    {e : Section.UnknownDirective} :
    Attribute.operation tag attrs = .error e ↔
      ∃ a, attrs.find? Attribute.isDirective = some a ∧ e = ⟨tag, a.value?.getD []⟩ ∧
        Operation.ofDirective? (a.value?.getD []) = none := by
  constructor
  · intro h
    unfold Attribute.operation at h
    split at h
    · cases h
    · next a ha =>
      split at h
      · next hnone => exact ⟨a, ha, (Except.error.inj h).symm, hnone⟩
      · cases h
  · rintro ⟨a, ha, rfl, hnone⟩
    simp only [Attribute.operation, ha, hnone]

namespace Section

/-- A document has a block of a tag, and the block asks for an operation. -/
def Asks (doc tag : Text) (op : Operation) : Prop :=
  ∃ head range, findBlock? doc tag = some (head, range) ∧
    Attribute.operation tag head.tag.attributes = .ok op

/-- A document has a block of a tag, and the value of the block's directive, white space around it
aside, is neither `merge` nor `replace`. -/
def Misdirected (doc tag value : Text) : Prop :=
  ∃ head range a, findBlock? doc tag = some (head, range) ∧
    head.tag.attributes.find? Attribute.isDirective = some a ∧ a.value?.getD [] = value ∧
    trim value ≠ "merge".toList ∧ trim value ≠ "replace".toList

variable {doc tag override : Text}

theorem find?_eq_none_iff : find? doc tag = .ok none ↔ findBlock? doc tag = none := by
  constructor
  · intro h
    cases hblock : findBlock? doc tag with
    | none => rfl
    | some block =>
      rw [find?_of_findBlock? hblock] at h
      cases hop : Attribute.operation tag block.1.tag.attributes <;> rw [hop] at h <;> cases h
  · intro h
    rw [find?, h]

theorem find?_eq_error_iff {e : UnknownDirective} :
    find? doc tag = .error e ↔ ∃ value, Misdirected doc tag value ∧ e = ⟨tag, value⟩ := by
  constructor
  · intro h
    cases hblock : findBlock? doc tag with
    | none => rw [find?_eq_none_iff.mpr hblock] at h; cases h
    | some block =>
      obtain ⟨head, range⟩ := block
      rw [find?_of_findBlock? hblock] at h
      cases hop : Attribute.operation tag head.tag.attributes with
      | ok op => rw [hop] at h; cases h
      | error e' =>
        rw [hop] at h
        obtain rfl := Except.error.inj h
        obtain ⟨a, ha, rfl, hnone⟩ := Attribute.operation_eq_error_iff.mp hop
        exact ⟨_, ⟨head, range, a, hblock, ha, rfl, Operation.ofDirective?_eq_none_iff.mp hnone⟩,
          rfl⟩
  · rintro ⟨value, ⟨head, range, a, hblock, ha, rfl, hvalue⟩, rfl⟩
    have hop : Attribute.operation tag head.tag.attributes = .error ⟨tag, a.value?.getD []⟩ :=
      Attribute.operation_eq_error_iff.mpr
        ⟨a, ha, rfl, Operation.ofDirective?_eq_none_iff.mpr hvalue⟩
    rw [find?_of_findBlock? hblock, hop]
    rfl

theorem exists_find?_of_asks {op : Operation} (h : Asks doc tag op) :
    ∃ s, find? doc tag = .ok (some s) ∧ s.tag = tag ∧ s.operation = op := by
  obtain ⟨head, range, hblock, hop⟩ := h
  refine ⟨ofBlock doc tag head range op, ?_, rfl, rfl⟩
  rw [find?_of_findBlock? hblock, hop]
  rfl

/-- Where a document has a block of a tag, the block asks for an operation or is misdirected. -/
theorem findBlock?_cases (doc tag : Text) :
    findBlock? doc tag = none ∨ (∃ value, Misdirected doc tag value) ∨ ∃ op, Asks doc tag op := by
  cases hfind : find? doc tag with
  | error e =>
    obtain ⟨value, hvalue, -⟩ := find?_eq_error_iff.mp hfind
    exact .inr (.inl ⟨value, hvalue⟩)
  | ok found =>
    cases found with
    | none => exact .inl (find?_eq_none_iff.mp hfind)
    | some s =>
      obtain ⟨head, range, op, hblock, hop, -⟩ := exists_block_of_find? hfind
      exact .inr (.inr ⟨op, head, range, hblock, hop⟩)

/-- Why a section of an override is not put into a document: its directive is unknown, or it is to
replace a block that the document does not have. -/
inductive Refuses (override doc tag : Text) : CombineError → Prop
  | directive {value : Text} : Misdirected override tag value →
      Refuses override doc tag (.unknownDirective ⟨tag, value⟩)
  | target : Asks override tag .replace → findBlock? doc tag = none →
      Refuses override doc tag (.missingTarget tag)

/-- A document does not take a section of an override because of the directive of its own block. -/
inductive RefusesOwn (override doc tag : Text) : CombineError → Prop
  | directive {op : Operation} {value : Text} : Asks override tag op → Misdirected doc tag value →
      RefusesOwn override doc tag (.unknownDirective ⟨tag, value⟩)

/-! ### What a combination makes of a document -/

/-- A document with a section of an override in it: in the place of the document's own block of the
tag, at the end of that block, or at the end of the document. Nothing but the place of the own block
is asked of the document. -/
def join (doc : Text) (incoming : Section) : Text :=
  match incoming.operation, findBlock? doc incoming.tag with
  | .replace, none => doc
  | .replace, some (head, range) =>
    doc.slice 0 head.start ++ (incoming.text ++ doc.slice range.stop doc.size)
  | .merge, block? =>
    if incoming.content = [] then doc
    else
      match block? with
      | some (_, range) => doc.slice 0 range.start ++
          ('\n' :: incoming.content ++ doc.slice range.start doc.size)
      | none => doc ++ '\n' :: (incoming.openTag ++ incoming.content ++
          (['<', '/'] ++ incoming.tag ++ ['>']))

/-- A document with an override's section of a tag in it, if the override has one. -/
def joinTag (override doc tag : Text) : Text :=
  match find? override tag with
  | .ok (some incoming) => join doc incoming
  | _ => doc

theorem slice_of_append {before after : Text} (hdoc : doc = before ++ after) {n : Nat}
    (hn : n = before.size) : doc.slice 0 n = before ∧ doc.slice n doc.size = after := by
  constructor
  · have hfront : doc = [] ++ (before ++ after) := hdoc
    exact slice_of_eq hfront rfl (by rw [hn, size_nil, Nat.zero_add])
  · have hback : doc = before ++ (after ++ []) := by rw [hdoc, List.append_nil]
    exact slice_of_eq hback hn (by rw [hdoc, size_append])

section

variable [Digest] {incoming : Section}

theorem receiveText_none_eq_join (hown : findBlock? doc incoming.tag = none)
    (hmerge : incoming.operation = .merge) :
    receiveText doc incoming none = .ok (join doc incoming) := by
  by_cases hempty : incoming.content = []
  · have hjoin : join doc incoming = doc := by simp [join, hmerge, hempty]
    rw [hjoin]
    exact receiveText_of_none (by simp [combineEdit?, hmerge, hempty])
  · have hjoin : join doc incoming = doc ++ ('\n' :: (incoming.openTag ++ incoming.content ++
        (['<', '/'] ++ incoming.tag ++ ['>'])) ++ []) := by
      simp [join, hmerge, hempty, hown]
    rw [hjoin]
    refine receiveText_of_edit ?_ (applyTo_insertion_of_eq (List.append_nil doc).symm rfl _)
    simp [combineEdit?, hmerge, hempty]

theorem receiveText_some_eq_join {current : Section}
    (hcurrent : find? doc incoming.tag = .ok (some current)) :
    receiveText doc incoming (some current) = .ok (join doc incoming) := by
  obtain ⟨before, opening, content, close, after, hdoc, hstart, hstop, hend⟩ :=
    standsIn_of_find? hcurrent
  obtain ⟨head, range, op, hown, -, rfl⟩ := exists_block_of_find? hcurrent
  cases hoperation : incoming.operation with
  | replace =>
    have hcut : doc = before ++ (opening ++ content ++ close ++ after) := by simp [hdoc]
    have hsize : range.stop = before.size + (opening ++ content ++ close).size := by
      rw [show range.stop = _ from hend, hstop]
      simp [Nat.add_assoc]
    have hfront : doc.slice 0 head.start = before := (slice_of_append hcut hstart).1
    have hback : doc.slice range.stop doc.size = after := by
      have hcut' : doc = before ++ (opening ++ content ++ close) ++ after := by simp [hdoc]
      exact (slice_of_append hcut' (by rw [hsize, size_append before])).2
    have hjoin : join doc incoming = before ++ (incoming.text ++ after) := by
      simp only [join, hoperation, hown, hfront, hback]
    rw [hjoin]
    exact receiveText_of_edit (by simp [combineEdit?, hoperation, ofBlock])
      (applyTo_replacement hcut hstart hsize incoming.text)
  | merge =>
    by_cases hempty : incoming.content = []
    · have hjoin : join doc incoming = doc := by simp [join, hoperation, hempty]
      rw [hjoin]
      exact receiveText_of_none (by simp [combineEdit?, hoperation, hempty])
    · have hcut : doc = before ++ opening ++ content ++ (close ++ after) := by simp [hdoc]
      have hoffset : range.start = (before ++ opening ++ content).size := by
        rw [show range.start = _ from hstop]
        simp [Nat.add_assoc]
      obtain ⟨hfront, hback⟩ := slice_of_append hcut hoffset
      have hjoin : join doc incoming =
          before ++ opening ++ content ++ ('\n' :: incoming.content ++ (close ++ after)) := by
        simp only [join, hoperation, hown, hempty, if_false, hfront, hback]
      rw [hjoin]
      exact receiveText_of_edit (by simp [combineEdit?, hoperation, hempty, ofBlock])
        (applyTo_insertion_of_eq hcut hoffset ('\n' :: incoming.content))

/-! ### One tag -/

variable {e : CombineError}

theorem combineTag_of_refuses (h : Refuses override doc tag e) :
    combineTag override doc tag = .error e := by
  rw [combineTag_eq]
  cases h with
  | directive hvalue =>
    rw [find?_eq_error_iff.mpr ⟨_, hvalue, rfl⟩]
    rfl
  | target hasks hown =>
    obtain ⟨incoming, hincoming, rfl, hop⟩ := exists_find?_of_asks hasks
    rw [hincoming]
    simp [Except.mapError, bind, Except.bind, receiveSection, find?_eq_none_iff.mpr hown,
      receiveText, combineEdit?, hop]

theorem combineTag_of_refusesOwn (h : RefusesOwn override doc tag e) :
    combineTag override doc tag = .error e := by
  rw [combineTag_eq]
  obtain ⟨hasks, hvalue⟩ := h
  obtain ⟨incoming, hincoming, -, -⟩ := exists_find?_of_asks hasks
  rw [hincoming]
  simp [Except.mapError, bind, Except.bind, receiveSection,
    find?_eq_error_iff.mpr ⟨_, hvalue, rfl⟩]

theorem combineTag_of_not_refuses (h : ∀ e, ¬Refuses override doc tag e)
    (hown : ∀ e, ¬RefusesOwn override doc tag e) :
    combineTag override doc tag = .ok (joinTag override doc tag) := by
  rw [combineTag_eq]
  obtain hnone | ⟨value, hvalue⟩ | ⟨op, hasks⟩ := findBlock?_cases override tag
  · rw [joinTag, find?_eq_none_iff.mpr hnone]
    rfl
  · exact absurd (.directive hvalue) (h _)
  · obtain ⟨incoming, hincoming, rfl, rfl⟩ := exists_find?_of_asks hasks
    have hjoin : joinTag override doc incoming.tag = join doc incoming := by
      rw [joinTag, hincoming]
    rw [hincoming, hjoin]
    obtain hnone | ⟨value, hvalue⟩ | ⟨op', hasks'⟩ := findBlock?_cases doc incoming.tag
    · have hmerge : incoming.operation = .merge := by
        cases hop : incoming.operation with
        | merge => rfl
        | replace => exact absurd (.target (hop ▸ hasks) hnone) (h _)
      simp only [Except.mapError, bind, Except.bind, receiveSection, find?_eq_none_iff.mpr hnone]
      exact receiveText_none_eq_join hnone hmerge
    · exact absurd (.directive hasks hvalue) (hown _)
    · obtain ⟨current, hcurrent, -, -⟩ := exists_find?_of_asks hasks'
      simp only [Except.mapError, bind, Except.bind, receiveSection, hcurrent]
      exact receiveText_some_eq_join hcurrent

theorem combineTag_eq_error_iff :
    combineTag override doc tag = .error e ↔
      Refuses override doc tag e ∨ RefusesOwn override doc tag e := by
  constructor
  · intro h
    by_contra hno
    rw [not_or] at hno
    have hjoin : combineTag override doc tag = .ok (joinTag override doc tag) := by
      refine combineTag_of_not_refuses (fun e' h' => ?_) fun e' h' => ?_
      · have hsame := h.symm.trans (combineTag_of_refuses h')
        exact hno.1 (Except.error.inj hsame ▸ h')
      · have hsame := h.symm.trans (combineTag_of_refusesOwn h')
        exact hno.2 (Except.error.inj hsame ▸ h')
    rw [h] at hjoin
    cases hjoin
  · rintro (h | h)
    · exact combineTag_of_refuses h
    · exact combineTag_of_refusesOwn h

theorem combineTag_eq_ok {result : Text} (h : combineTag override doc tag = .ok result) :
    result = joinTag override doc tag := by
  have hjoin : combineTag override doc tag = .ok (joinTag override doc tag) := by
    refine combineTag_of_not_refuses (fun e he => ?_) fun e he => ?_
    · rw [combineTag_of_refuses he] at h
      cases h
    · rw [combineTag_of_refusesOwn he] at h
      cases h
  exact Except.ok.inj (h.symm.trans hjoin)

/-! ### Any tags -/

/-- The text that a source has become when some tags have been taken. -/
def joinTags (override source : Text) (tags : List Text) : Text :=
  tags.foldl (joinTag override) source

theorem combine_eq_ok {source result : Text} {tags : List Text}
    (h : combine source override tags = .ok result) : result = joinTags override source tags := by
  induction tags generalizing source with
  | nil => exact (Except.ok.inj h).symm
  | cons tag tags ih =>
    rw [combine, List.foldlM_cons] at h
    obtain ⟨doc, hdoc, h⟩ := bind_eq_ok_iff.mp h
    obtain rfl := combineTag_eq_ok hdoc
    exact ih h

theorem combine_append (source override : Text) (before after : List Text) :
    combine source override (before ++ after) =
      combine source override before >>= fun doc => combine doc override after :=
  List.foldlM_append

/-- A combination that fails does so at the first tag that is refused. -/
theorem combine_eq_error_iff {source : Text} {tags : List Text} :
    combine source override tags = .error e ↔
      ∃ before tag after doc, tags = before ++ tag :: after ∧
        combine source override before = .ok doc ∧ combineTag override doc tag = .error e := by
  constructor
  · intro h
    induction tags generalizing source with
    | nil => cases h
    | cons tag tags ih =>
      rw [combine, List.foldlM_cons] at h
      obtain h | ⟨doc, hdoc, h⟩ := bind_eq_error_iff.mp h
      · exact ⟨[], tag, tags, source, rfl, rfl, h⟩
      · obtain ⟨before, tag', after, doc', rfl, hbefore, htag⟩ := ih h
        refine ⟨tag :: before, tag', after, doc', rfl, ?_, htag⟩
        rw [combine, List.foldlM_cons, hdoc]
        exact hbefore
  · rintro ⟨before, tag, after, doc, rfl, hbefore, htag⟩
    rw [combine_append, hbefore]
    change combine doc override (tag :: after) = _
    rw [combine, List.foldlM_cons, htag]
    rfl

/-- No tag is refused by the text that the tags before it have made of the source. -/
def Passes (override source : Text) (tags : List Text) : Prop :=
  ∀ before tag after, tags = before ++ tag :: after → ∀ e,
    ¬(Refuses override (joinTags override source before) tag e ∨
      RefusesOwn override (joinTags override source before) tag e)

theorem combine_eq_ok_iff {source result : Text} {tags : List Text} :
    combine source override tags = .ok result ↔
      Passes override source tags ∧ result = joinTags override source tags := by
  constructor
  · intro h
    refine ⟨fun before tag after htags e hrefuses => ?_, combine_eq_ok h⟩
    rw [htags, combine_append] at h
    obtain ⟨doc, hbefore, h⟩ := bind_eq_ok_iff.mp h
    rw [← combine_eq_ok hbefore, ← combineTag_eq_error_iff] at hrefuses
    have hfails : combine doc override (tag :: after) = .error e :=
      combine_eq_error_iff.mpr ⟨[], tag, after, doc, rfl, rfl, hrefuses⟩
    rw [hfails] at h
    cases h
  · rintro ⟨hpasses, rfl⟩
    cases hcombine : combine source override tags with
    | ok result => rw [combine_eq_ok hcombine]
    | error e =>
      obtain ⟨before, tag, after, doc, htags, hbefore, htag⟩ := combine_eq_error_iff.mp hcombine
      rw [combine_eq_ok hbefore, combineTag_eq_error_iff] at htag
      exact absurd htag (hpasses before tag after htags e)

/-- The combination of two arbitrary documents. It gives the source with the override's sections in
it where no tag is refused, and otherwise fails at the first tag that is, for the reason that the
tag is refused. No edit is ever refused. -/
theorem combine_iff (source override : Text) (tags : List Text) :
    (∀ result, combine source override tags = .ok result ↔
      Passes override source tags ∧ result = joinTags override source tags) ∧
    (∀ e, combine source override tags = .error e ↔
      ∃ before tag after, tags = before ++ tag :: after ∧ Passes override source before ∧
        (Refuses override (joinTags override source before) tag e ∨
          RefusesOwn override (joinTags override source before) tag e)) ∧
    ∀ fault, combine source override tags ≠ .error (.edit fault) := by
  have hfails (e : CombineError) : combine source override tags = .error e ↔
      ∃ before tag after, tags = before ++ tag :: after ∧ Passes override source before ∧
        (Refuses override (joinTags override source before) tag e ∨
          RefusesOwn override (joinTags override source before) tag e) := by
    rw [combine_eq_error_iff]
    constructor
    · rintro ⟨before, tag, after, doc, htags, hbefore, htag⟩
      obtain ⟨hpasses, rfl⟩ := combine_eq_ok_iff.mp hbefore
      exact ⟨before, tag, after, htags, hpasses, combineTag_eq_error_iff.mp htag⟩
    · rintro ⟨before, tag, after, htags, hpasses, hrefuses⟩
      exact ⟨before, tag, after, _, htags, combine_eq_ok_iff.mpr ⟨hpasses, rfl⟩,
        combineTag_eq_error_iff.mpr hrefuses⟩
  refine ⟨fun result => combine_eq_ok_iff, hfails, fun fault h => ?_⟩
  exact combine_ne_edit h fault rfl

end

/-- The directive of the source's own block fails a combination in which the override's section has
no directive. -/
theorem not_combine_iff_of_own_directive :
    let _ := Digest.multiplicative
    ¬∀ (source override : Text) (tags : List Text) (e : CombineError),
      combine source override tags = .error e → ∃ before tag after,
        tags = before ++ tag :: after ∧ Refuses override (joinTags override source before) tag e := by
  intro digest hall
  have hfails : combine "<style kom=\"bogus\">a</style>".toList "<style>b</style>".toList
      ["style".toList] = .error (.unknownDirective ⟨"style".toList, "bogus".toList⟩) := by
    decide +kernel
  obtain ⟨before, tag, after, -, hrefuses⟩ := hall _ _ _ _ hfails
  cases hrefuses with
  | directive hvalue =>
    have herror := find?_eq_error_iff.mpr ⟨_, hvalue, rfl⟩
    revert herror
    decide +kernel

end Section

end Graft
