import Graft.Proofs.Rewrite

/-! Revisions of the attributes of a located element: each succeeds on any document, and changes
nothing but what stands between the name and the end of the element's opening tag. -/

namespace Graft.Markup

open Text

/-- A revision of the attributes of the selected element, with its arguments. -/
inductive AttributeRevision
  | set (name value : Text)
  | remove (name : Text)
  | reduce (name part : Text)
  | extend (name value glue : Text)

/-- The attribute with the first occurrence of a text taken out of its value, if anything is left
of the value then. -/
def Attribute.reduced (part : Text) (a : Attribute) : Option Attribute :=
  match a.value? with
  | none => some a
  | some value =>
    let reduced := trim (eraseFirst part value)
    if reduced = [] then none
    else if reduced = value then some a
    else some (a.write reduced)

/-- The attribute with a text appended to its value. -/
def Attribute.extended (value glue : Text) (a : Attribute) : Attribute :=
  a.write (Draft.extended (a.value?.getD []) value glue)

/-- A function of attributes, applied to those of a name. -/
def Attribute.ifNamed (name : Text) (f : Attribute → Option Attribute) (a : Attribute) :
    Option Attribute :=
  if a.name = name then f a else some a

namespace AttributeRevision

/-- The parts of a head after a revision of its attributes. -/
def onParts (parts : List HeadPart) : AttributeRevision → List HeadPart
  | set name value =>
    if parts.any (HeadPart.isNamed name) then HeadPart.writeFirst name value parts
    else HeadPart.add (.added name value) parts
  | remove name => HeadPart.mapAttrs (Attribute.ifNamed name fun _ => none) parts
  | reduce name part => HeadPart.mapAttrs (Attribute.ifNamed name (Attribute.reduced part)) parts
  | extend name value glue =>
    if parts.any (HeadPart.isNamed name) then
      HeadPart.mapAttrs
        (Attribute.ifNamed name fun a => some (a.extended (trim value) glue)) parts
    else HeadPart.add (.added name (trim value)) parts

/-- The opening tag of an element after a revision of its attributes. -/
def onTag (r : AttributeRevision) (tag : OpenTag) : OpenTag :=
  { tag with inner := (r.onParts (HeadPart.readAll tag.inner)).flatMap HeadPart.text }

variable [Digest]

def run (draft : Draft) : AttributeRevision → Except DraftError Draft
  | set name value => draft.setAttribute name value
  | remove name => draft.removeAttribute name
  | reduce name part => draft.reduceAttribute name part
  | extend name value glue => draft.extendAttribute name value glue

end AttributeRevision

theorem HeadPart.any_isNamed (name : Text) (parts : List HeadPart) (n : Nat) :
    parts.any (isNamed name) = (place n parts).any fun a => a.attr.name == name := by
  induction parts generalizing n with
  | nil => rfl
  | cons part parts ih =>
    cases part with
    | filler text => simpa [place, isNamed] using ih (n + text.size)
    | attr a => rw [List.any_cons, place, List.any_cons, ih, isNamed]

variable [Digest] {draft : Draft} {span : Span} {before after : Text}

/-- The revision of a located element by edits that patch what stands in its opening tag. -/
theorem revise_inner (hdoc : draft.document = before ++ (span.head.tag.text ++ after))
    (hstart : span.head.start = before.size) {inner : Text} {edits : List Edit}
    (h : Patches span.head.nameEnd span.head.tag.inner inner edits) :
    draft.revise edits = .ok { draft with
      document := before ++ ({ span.head.tag with inner }.text ++ after) } := by
  rw [OpenTag.append_text] at hdoc
  rw [span.head.nameEnd_eq hstart] at h
  rw [Draft.revise_patches hdoc h (List.Perm.refl _), OpenTag.append_text]
  rfl

/-- The addition of an attribute to a located element. -/
theorem revise_addition (hdoc : draft.document = before ++ (span.head.tag.text ++ after))
    (hstart : span.head.start = before.size) (name value : Text) :
    draft.revise [Draft.additionEdit span.head name value] = .ok { draft with
      document := before ++ ({ span.head.tag with
        inner := (HeadPart.add (.added name value)
          (HeadPart.readAll span.head.tag.inner)).flatMap HeadPart.text }.text ++ after) } := by
  obtain ⟨earlier, later, hparts, hadd, hlast⟩ := HeadPart.exists_add (.added name value)
    (HeadPart.readAll span.head.tag.inner) span.head.nameEnd
  have hinner := HeadPart.flatMap_text_readAll span.head.tag.inner
  rw [hparts, List.flatMap_append] at hinner
  have hend : span.head.insertAt =
      (before ++ '<' :: span.head.tag.name ++ earlier.flatMap HeadPart.text).size := by
    rw [Head.insertAt, Head.attributes, hlast, span.head.nameEnd_eq hstart, ← size_append]
  have hcut : draft.document =
      before ++ '<' :: span.head.tag.name ++ earlier.flatMap HeadPart.text ++
        (later.flatMap HeadPart.text ++ (span.head.tag.delimiter ++ after)) := by
    simp [hdoc, OpenTag.append_text, ← hinner]
  rw [Draft.additionEdit, hend, Draft.revise_insertion hcut, hadd, OpenTag.append_text]
  simp [OpenTag.delimiter, HeadPart.text, Attribute.added, Attribute.text,
    Attribute.assignmentText, Assignment.text, Value.written_enclosing]

/-- The revision of the attributes of a name, each by the edit that is chosen for it. -/
theorem revise_named (hdoc : draft.document = before ++ (span.head.tag.text ++ after))
    (hstart : span.head.start = before.size) (name : Text)
    (choose : PlacedAttribute → Option Edit) (f : Attribute → Option Attribute)
    (h : ∀ a ∈ span.head.attributes, Rewrites a (choose a).toList (Attribute.textOf (f a.attr))) :
    draft.revise ((span.head.findAll name).filterMap choose) = .ok { draft with
      document := before ++ ({ span.head.tag with
        inner := (HeadPart.mapAttrs (Attribute.ifNamed name f)
          (HeadPart.readAll span.head.tag.inner)).flatMap HeadPart.text }.text ++ after) } := by
  have hpatches := patches_mapAttrs (fun a => if a.attr.name == name then choose a else none)
    (Attribute.ifNamed name f) (HeadPart.readAll span.head.tag.inner) span.head.nameEnd
    fun a ha => ?_
  · rw [HeadPart.flatMap_text_readAll] at hpatches
    rw [Head.findAll, List.filterMap_filter]
    exact revise_inner hdoc hstart hpatches
  · by_cases hname : a.attr.name = name
    · rw [if_pos (by simpa using hname), Attribute.ifNamed, if_pos hname]
      exact h a ha
    · rw [if_neg (by simpa using hname), Attribute.ifNamed, if_neg hname]
      exact Patches.keep a.start a.attr.text

/-- The edit of a reduction, if there is one, turns an attribute into what is left of it. -/
theorem rewrites_reductionEdit? {a : PlacedAttribute} (h : a.StandsIn draft.document)
    (part : Text) :
    Rewrites a (draft.reductionEdit? part a).toList (Attribute.textOf (a.attr.reduced part)) := by
  have hkeep : Rewrites a [] (Attribute.textOf (some a.attr)) :=
    Patches.keep a.start a.attr.text
  rw [Attribute.reduced, Draft.reductionEdit?]
  cases hvalue : a.attr.value? with
  | none => exact hkeep
  | some value =>
    simp only [Option.bind_eq_bind, Option.bind_some, List.isEmpty_iff]
    by_cases hempty : trim (eraseFirst part value) = []
    · rw [if_pos hempty, if_pos hempty]
      exact Draft.rewrites_removalEdit h
    · rw [if_neg hempty, if_neg hempty]
      by_cases hsame : trim (eraseFirst part value) = value
      · rw [if_pos hsame, if_pos hsame]
        exact hkeep
      · rw [if_neg hsame, if_neg hsame]
        exact Draft.rewrites_valueEdit h _

section Run

variable (hlocate : draft.locate = .ok span)
  (hdoc : draft.document = before ++ (span.head.tag.text ++ after))
  (hstart : span.head.start = before.size)

omit [Digest] in
include hdoc hstart in
theorem standsIn_of_mem {a : PlacedAttribute} (h : a ∈ span.head.attributes) :
    a.StandsIn draft.document := by
  rw [hdoc]
  exact Head.standsIn_of_mem hstart h

namespace AttributeRevision

include hlocate hdoc hstart

theorem run_set (name value : Text) :
    (set name value).run draft = .ok { draft with
      document := before ++ (((set name value).onTag span.head.tag).text ++ after) } := by
  have hany := HeadPart.any_isNamed name (HeadPart.readAll span.head.tag.inner) span.head.nameEnd
  rw [onTag, onParts, hany]
  cases hfind : span.head.find? name with
  | none =>
    have hrun : (set name value).run draft =
        draft.revise [Draft.additionEdit span.head name value] := by
      simp only [run, Draft.setAttribute, hlocate, bind, Except.bind, hfind]
    have hnone : (span.head.attributes.any fun a => a.attr.name == name) = false := by
      rw [Bool.eq_false_iff, ne_eq, List.any_eq_true, ← List.find?_isSome]
      rw [Head.find?] at hfind
      simp [hfind]
    rw [Head.attributes] at hnone
    rw [hrun, hnone]
    exact revise_addition hdoc hstart name value
  | some a =>
    have hrun : (set name value).run draft = draft.revise [draft.valueEdit a value] := by
      simp only [run, Draft.setAttribute, hlocate, bind, Except.bind, hfind]
    have hmem : a ∈ span.head.attributes := List.mem_of_find?_eq_some hfind
    have hsome : (span.head.attributes.any fun a => a.attr.name == name) = true := by
      have hnamed := List.find?_some hfind
      exact List.any_eq_true.mpr ⟨a, hmem, hnamed⟩
    have hrewrites := Draft.rewrites_valueEdit (standsIn_of_mem hdoc hstart hmem) value
    have hpatches := patches_writeFirst hrewrites _ _ hfind
    rw [HeadPart.flatMap_text_readAll] at hpatches
    rw [Head.attributes] at hsome
    rw [hrun, hsome]
    exact revise_inner hdoc hstart hpatches

theorem run_remove (name : Text) :
    (remove name).run draft = .ok { draft with
      document := before ++ (((remove name).onTag span.head.tag).text ++ after) } := by
  have hrun : (remove name).run draft =
      draft.revise ((span.head.findAll name).filterMap fun a => some (draft.removalEdit a)) := by
    rw [run, Draft.removeAttribute, hlocate, ← Function.comp_def some, List.filterMap_eq_map]
    rfl
  rw [hrun]
  refine revise_named hdoc hstart name _ _ fun a ha => ?_
  exact Draft.rewrites_removalEdit (standsIn_of_mem hdoc hstart ha)

theorem run_reduce (name part : Text) :
    (reduce name part).run draft = .ok { draft with
      document := before ++ (((reduce name part).onTag span.head.tag).text ++ after) } := by
  have hrun : (reduce name part).run draft =
      draft.revise ((span.head.findAll name).filterMap (draft.reductionEdit? part)) := by
    rw [run, Draft.reduceAttribute, hlocate]
    rfl
  rw [hrun]
  refine revise_named hdoc hstart name _ _ fun a ha => ?_
  exact rewrites_reductionEdit? (standsIn_of_mem hdoc hstart ha) part

theorem run_extend (name value glue : Text) :
    (extend name value glue).run draft = .ok { draft with
      document := before ++ (((extend name value glue).onTag span.head.tag).text ++ after) } := by
  have hany := HeadPart.any_isNamed name (HeadPart.readAll span.head.tag.inner) span.head.nameEnd
  rw [onTag, onParts, hany]
  cases hfound : span.head.findAll name with
  | nil =>
    have hrun : (extend name value glue).run draft =
        draft.revise [Draft.additionEdit span.head name (trim value)] := by
      simp only [run, Draft.extendAttribute, hlocate, bind, Except.bind, hfound]
    have hnone : (span.head.attributes.any fun a => a.attr.name == name) = false := by
      rw [Head.findAll, List.filter_eq_nil_iff] at hfound
      simpa using hfound
    rw [Head.attributes] at hnone
    rw [hrun, hnone]
    exact revise_addition hdoc hstart name (trim value)
  | cons first found =>
    have hrun : (extend name value glue).run draft =
        draft.revise ((first :: found).map fun a => draft.valueEdit a
          (Draft.extended (a.attr.value?.getD []) (trim value) glue)) := by
      simp only [run, Draft.extendAttribute, hlocate, bind, Except.bind, hfound]
    have hmem : first ∈ span.head.findAll name := by simp [hfound]
    have hsome : (span.head.attributes.any fun a => a.attr.name == name) = true := by
      rw [Head.findAll, List.mem_filter] at hmem
      exact List.any_eq_true.mpr ⟨first, hmem⟩
    have hrevise := revise_named hdoc hstart name
      (fun a => some (draft.valueEdit a
        (Draft.extended (a.attr.value?.getD []) (trim value) glue)))
      (fun a => some (a.extended (trim value) glue))
      fun a ha => Draft.rewrites_valueEdit (standsIn_of_mem hdoc hstart ha) _
    rw [hfound, ← Function.comp_def some, List.filterMap_eq_map] at hrevise
    rw [Head.attributes] at hsome
    rw [hrun, hsome]
    exact hrevise

/-- A revision of attributes succeeds wherever an element is located, and changes the attributes in
its opening tag. -/
theorem run_of_locate (r : AttributeRevision) :
    r.run draft = .ok { draft with
      document := before ++ ((r.onTag span.head.tag).text ++ after) } := by
  cases r with
  | set name value => exact run_set hlocate hdoc hstart name value
  | remove name => exact run_remove hlocate hdoc hstart name
  | reduce name part => exact run_reduce hlocate hdoc hstart name part
  | extend name value glue => exact run_extend hlocate hdoc hstart name value glue

end AttributeRevision

end Run

end Graft.Markup
