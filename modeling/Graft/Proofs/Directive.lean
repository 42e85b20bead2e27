import Graft.Proofs.Tag
import Graft.Proofs.Token
import Graft.Section

/-! The directive of a block of an arbitrary document: the operation that it names, and the opening
tag from which it is taken away. -/

namespace Graft.Markup

open Text

/-- Whether an attribute holds a directive. -/
def Attribute.isDirective (a : Attribute) : Bool := directiveNames.contains a.name

namespace HeadPart

def isDirective : HeadPart → Bool
  | .attr a => a.isDirective
  | .filler _ => false

/-- The parts without the first directive among them. -/
def withoutDirective (parts : List HeadPart) : List HeadPart := parts.eraseP isDirective

/-- Either no part is a directive, or the first one stands between the parts that are left. -/
theorem withoutDirective_cases (parts : List HeadPart) :
    ((∀ part ∈ parts, ¬part.isDirective) ∧ withoutDirective parts = parts) ∨
      ∃ before a after, (∀ part ∈ before, ¬part.isDirective) ∧ a.isDirective = true ∧
        parts = before ++ .attr a :: after ∧ withoutDirective parts = before ++ after := by
  by_cases hdirective : ∃ part ∈ parts, part.isDirective = true
  · obtain ⟨part, hmem, hpart⟩ := hdirective
    obtain ⟨directive, before, after, hno, hyes, hparts, herase⟩ :=
      List.exists_of_eraseP hmem hpart
    cases directive with
    | filler t => cases hyes
    | attr a => exact .inr ⟨before, a, after, hno, hyes, hparts, herase⟩
  · have hno : ∀ part ∈ parts, ¬part.isDirective := by
      intro part hmem hpart
      exact hdirective ⟨part, hmem, hpart⟩
    exact .inl ⟨hno, List.eraseP_of_forall_not hno⟩

theorem find?_place_eq_none {parts : List HeadPart} (h : ∀ part ∈ parts, ¬part.isDirective)
    (n : Nat) : (place n parts).find? (fun a => a.attr.isDirective) = none := by
  induction parts generalizing n with
  | nil => rfl
  | cons part parts ih =>
    obtain ⟨hpart, hparts⟩ := List.forall_mem_cons.mp h
    cases part with
    | filler t => exact ih hparts _
    | attr a => rw [place, List.find?_cons_of_neg (by exact hpart), ih hparts]

/-- The first directive stands after the text of the parts before it. -/
theorem find?_place_append {before : List HeadPart} {a : Attribute}
    (h : ∀ part ∈ before, ¬part.isDirective) (ha : a.isDirective = true) (n : Nat)
    (after : List HeadPart) :
    (place n (before ++ .attr a :: after)).find? (fun b => b.attr.isDirective) =
      some ⟨n + size (before.flatMap text), a⟩ := by
  induction before generalizing n with
  | nil => exact List.find?_cons_of_pos ha
  | cons part before ih =>
    obtain ⟨hpart, hbefore⟩ := List.forall_mem_cons.mp h
    rw [List.flatMap_cons, size_append, ← Nat.add_assoc]
    cases part with
    | filler t => exact ih hbefore _
    | attr b =>
      rw [List.cons_append, place, List.find?_cons_of_neg (by exact hpart)]
      exact ih hbefore _

end HeadPart

/-- The tag without the first directive among its attributes. -/
def OpenTag.withoutDirective (tag : OpenTag) : OpenTag :=
  { tag with
    inner := (HeadPart.withoutDirective (HeadPart.readAll tag.inner)).flatMap HeadPart.text }

/-- The operation that the attributes of a tag ask for. -/
def Attribute.operation (tag : Text) (attrs : List Attribute) :
    Except Section.UnknownDirective Operation :=
  match attrs.find? isDirective with
  | none => .ok (.ofTag tag)
  | some a =>
    match Operation.ofDirective? (a.value?.getD []) with
    | none => .error ⟨tag, a.value?.getD []⟩
    | some op => .ok op

/-- The directive of a tag that stands in a document, and the tag's text without it. -/
theorem readDirective_eq {doc before after : Text} {head : Head}
    (hdoc : doc = before ++ (head.tag.text ++ after)) (hstart : head.start = before.size)
    (tag : Text) :
    Section.readDirective doc tag head =
      (Attribute.operation tag head.tag.attributes).map
        fun op => (op, head.tag.withoutDirective.text) := by
  have hstop : head.stop = before.size + head.tag.text.size := by rw [Head.stop_eq, hstart]
  have hfind : head.tag.attributes.find? Attribute.isDirective =
      (head.attributes.find? fun a => directiveNames.contains a.attr.name).map (·.attr) := by
    rw [← head.map_attr_attributes, List.find?_map]
    rfl
  have hinner := HeadPart.flatMap_text_readAll head.tag.inner
  rw [Section.readDirective, Attribute.operation, hfind]
  obtain ⟨hno, hsame⟩ | ⟨first, a, others, hno, hyes, hparts, hwithout⟩ :=
    HeadPart.withoutDirective_cases (HeadPart.readAll head.tag.inner)
  · have hnone : (head.attributes.find? fun a => directiveNames.contains a.attr.name) = none :=
      HeadPart.find?_place_eq_none hno head.nameEnd
    have htag : head.tag.withoutDirective = head.tag := by
      rw [OpenTag.withoutDirective, hsame, hinner]
    rw [hnone, htag, slice_of_eq hdoc hstart hstop]
    rfl
  · rw [hparts, List.flatMap_append, List.flatMap_cons] at hinner
    let front : Text := '<' :: (head.tag.name ++ first.flatMap HeadPart.text)
    let back : Text := others.flatMap HeadPart.text ++ head.tag.delimiter
    have htext : head.tag.text = front ++ (a.text ++ back) := by
      simp [OpenTag.text, ← hinner, HeadPart.text, front, back]
    have hleft : head.tag.withoutDirective.text = front ++ back := by
      rw [OpenTag.withoutDirective, hwithout]
      simp [OpenTag.text, OpenTag.delimiter, front, back]
    have hoffset : head.nameEnd + size (first.flatMap HeadPart.text) =
        before.size + front.size := by
      rw [Head.nameEnd_eq hstart]
      simp [front, Nat.add_assoc]
    have hsome : (head.attributes.find? fun a => directiveNames.contains a.attr.name) =
        some ⟨before.size + front.size, a⟩ := by
      rw [← hoffset, Head.attributes, hparts]
      exact HeadPart.find?_place_append hno hyes head.nameEnd others
    have hfront : doc.slice head.start (before.size + front.size) = front :=
      slice_of_eq (by rw [hdoc, htext, List.append_assoc]) hstart rfl
    have hback : doc.slice (before.size + front.size + a.text.size) head.stop = back := by
      have hcut : doc = before ++ front ++ a.text ++ (back ++ after) := by simp [hdoc, htext]
      refine slice_of_eq hcut ?_ ?_
      · simp [Nat.add_assoc]
      · rw [hstop, htext]
        simp [Nat.add_assoc]
    simp only [hsome, Option.map_some, PlacedAttribute.stop, hfront, hback, hleft]
    cases Operation.ofDirective? (a.value?.getD []) <;> rfl

end Graft.Markup
