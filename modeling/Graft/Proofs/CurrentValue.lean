import Graft.Proofs.ReadBack
import Mathlib.Algebra.BigOperators.Group.List.Basic

/-! Setting an attribute to the value that it has. Between quotes the value is written as it stands;
otherwise quotes are added to it, and the document grows. -/

namespace Graft.Markup

open Text

/-! ### Writing the value that was read -/

theorem length_le_escapeQuote (quote : Char) (value : Text) :
    value.length ≤ (escapeQuote quote value).length := by
  have hlength (c : Char) : 1 ≤ List.length (if c = quote then
      (if quote = '"' then "&quot;".toList else "&#39;".toList) else [c]) := by
    split
    · split <;> decide
    · exact Nat.le_refl 1
  rw [escapeQuote, replaceChar, List.length_flatMap]
  refine le_trans ?_ (List.length_le_sum_of_one_le _ fun n hn => ?_)
  · rw [List.length_map]
  · obtain ⟨c, -, rfl⟩ := List.mem_map.mp hn
    exact hlength c

theorem Value.length_lt_enclosing (preferred : Char) (value : Text) :
    value.length < (enclosing preferred value).written.length := by
  have hescape := length_le_escapeQuote preferred value
  unfold enclosing
  split
  · simp only [written, List.length_append, List.length_cons, if_true]
    omega
  · split
    · simp only [written, List.length_append, List.length_cons, if_true]
      omega
    · simp only [written, List.length_append, List.length_cons, if_true]
      omega

theorem Value.Reads.not_mem {quote : Char} {text rest : Text} {ended : Bool}
    (h : (Value.quoted quote text ended).Reads rest) : quote ∉ text := by
  cases h with
  | quoted hquote htext => exact htext
  | unended hquote htext => exact htext

namespace Attribute

variable {a : Attribute}

theorem write_current {rest : Text} (h : (HeadPart.attr a).Reads rest)
    (hquote : a.quote?.isSome = true) : a.write (a.value?.getD []) = a := by
  cases h with
  | bare hlead hname hends => cases hquote
  | @assigned lead name before after rest v hlead hname hbefore hafter hvalue =>
    cases v with
    | unquoted text => cases hquote
    | quoted quote text ended =>
      have hmem : quote ∉ text := hvalue.not_mem
      have hwrite (gap : Text) : Assignment.write ⟨gap, .quoted quote text ended⟩ text =
          ⟨gap, .quoted quote text ended⟩ := if_neg hmem
      exact congrArg (fun s => Attribute.mk lead name (some s)) (hwrite _)

theorem length_lt_write (hquote : a.quote? = none) :
    a.text.length < (a.write (a.value?.getD [])).text.length := by
  obtain ⟨lead, name, assignment⟩ := a
  cases assignment with
  | none => simp [write, Attribute.text, assignmentText, Assignment.text]
  | some s =>
    obtain ⟨gap, v⟩ := s
    cases v with
    | quoted quote text ended => cases hquote
    | unquoted text =>
      have hlength := Value.length_lt_enclosing '"' text
      show (lead ++ name ++ (gap ++ text)).length <
        (lead ++ name ++ (gap ++ (Value.enclosing '"' text).written)).length
      simp only [List.length_append]
      omega

end Attribute

/-! ### The parts of the tag -/

namespace HeadPart

theorem find?_filterMap_attr? {name : Text} {parts : List HeadPart}
    (h : ∀ part ∈ parts, isNamed name part = false) :
    (parts.filterMap attr?).find? (fun a => a.name == name) = none := by
  rw [List.find?_eq_none]
  intro a ha
  have hnamed := h _ (mem_filterMap_attr?.mp ha)
  rw [isNamed] at hnamed
  rw [hnamed]
  exact Bool.false_ne_true

theorem length_text_lt (before : List HeadPart) {parts parts' : List HeadPart}
    (h : (parts.flatMap text).length < (parts'.flatMap text).length) :
    ((before ++ parts).flatMap text).length < ((before ++ parts').flatMap text).length := by
  rw [List.flatMap_append, List.flatMap_append, List.length_append, List.length_append]
  omega

theorem length_lt_added (name value : Text) (after : List HeadPart) :
    (after.flatMap text).length < ((attr (.added name value) :: after).flatMap text).length := by
  have hadded : 0 < (attr (.added name value)).text.length := by
    simp [text, Attribute.text, Attribute.added]
  rw [List.flatMap_cons, List.length_append]
  omega

/-- The current value of a name is set without a change where the first attribute of the name is
quoted, and nowhere else. -/
theorem SetsIn.eq_iff_quoted {name value cs : Text} {parts' : List HeadPart}
    (hset : SetsIn name value (readAll cs) parts')
    (hvalue : valueIn name (entries (readAll cs)) = value) :
    parts'.flatMap text = cs ↔
      ((((readAll cs).filterMap attr?).find? fun a => a.name == name).bind
        Attribute.quote?).isSome = true := by
  have hcs : (readAll cs).flatMap text = cs := flatMap_text_readAll cs
  generalize hparts : readAll cs = parts at hset hvalue hcs
  subst hcs
  -- the text grows by quotes around the value, or by an attribute that is added
  cases hset with
  | @written a before after hbefore ha =>
    rw [valueIn_entries_append hbefore ha] at hvalue
    have hfind : ((before ++ attr a :: after).filterMap attr?).find? (fun b => b.name == name) =
        some a := by
      rw [List.filterMap_append, List.find?_append, find?_filterMap_attr? hbefore]
      simp [attr?, ha]
    rw [hfind, Option.bind_some, ← hvalue]
    constructor
    · intro hsame
      by_contra hnone
      have hquote : a.quote? = none := Option.not_isSome_iff_eq_none.mp hnone
      have hlt : ((attr a :: after).flatMap text).length <
          ((attr (a.write (a.value?.getD [])) :: after).flatMap text).length := by
        have hwrite := Attribute.length_lt_write hquote
        simp only [List.flatMap_cons, List.length_append, text]
        omega
      have hgrows := length_text_lt before hlt
      rw [hsame] at hgrows
      exact Nat.lt_irrefl _ hgrows
    · intro hquote
      rw [Attribute.write_current (reads_of_readAll hparts) hquote]
  | first hnone =>
    refine iff_of_false (fun hsame => ?_) (by simp [hnone])
    have hgrows := length_lt_added name value parts
    rw [hsame] at hgrows
    exact Nat.lt_irrefl _ hgrows
  | @added b before after hbefore hnone =>
    have hfind : ((before ++ attr b :: after).filterMap attr?).find? (fun c => c.name == name) =
        none := by
      have hfront := find?_filterMap_attr? hbefore
      rw [List.append_cons, List.filterMap_append, List.find?_append, hfront, hnone]
      rfl
    rw [hfind]
    refine iff_of_false (fun hsame => ?_) Bool.false_ne_true
    have hgrows := length_text_lt (before ++ [attr b]) (length_lt_added name value after)
    rw [← List.append_cons, ← List.append_cons, hsame] at hgrows
    exact Nat.lt_irrefl _ hgrows

end HeadPart

theorem Head.map_attr_find? (head : Head) (name : Text) :
    (head.find? name).map (·.attr) = head.tag.attributes.find? fun a => a.name == name := by
  rw [← head.map_attr_attributes, List.find?_map, Head.find?]
  rfl

theorem OpenTag.text_withParts_eq_iff {tag : OpenTag} {parts : List HeadPart} :
    (tag.withParts parts).text = tag.text ↔ parts.flatMap HeadPart.text = tag.inner := by
  constructor
  · intro htext
    rw [text, text, withParts, List.cons.injEq, List.append_assoc, List.append_assoc] at htext
    exact List.append_cancel_right (List.append_cancel_left htext.2)
  · intro hinner
    rw [withParts, hinner]

/-- Setting an attribute to the value that it has succeeds, and leaves the document as it is where
the first attribute of the name has its value between quotes, and nowhere else. -/
theorem Draft.setAttribute_attributeValue [Digest] {draft : Draft} {span : Span}
    (located : draft.locate = .ok span) {name value : Text}
    (current : draft.attributeValue name = .ok value) :
    ∃ revised, draft.setAttribute name value = .ok revised ∧
      (revised = draft ↔ ((span.head.find? name).bind (·.attr.quote?)).isSome = true) := by
  obtain ⟨before, after, hdoc, hstart, hread⟩ := (located_of_draft located).opening
  have hrun := (AttributeRevision.set name value).run_of_locate located hdoc hstart
  have hset := HeadPart.setsIn_onParts name value (HeadPart.readAll span.head.tag.inner)
  have hvalue : valueIn name (HeadPart.entries (HeadPart.readAll span.head.tag.inner)) = value := by
    have hheadAt : headAt? (before ++ (span.head.tag.text ++ after)) before.size =
        some ⟨before.size, span.head.tag⟩ := headAt?_append_iff.mpr ⟨after, hread⟩
    rw [← hdoc] at hheadAt
    rw [attributeValue_of_headAt? located hstart hheadAt] at current
    exact Except.ok.inj current
  have hfind : ((span.head.find? name).bind (·.attr.quote?)) =
      (span.head.tag.attributes.find? fun a => a.name == name).bind Attribute.quote? := by
    rw [← span.head.map_attr_find?, Option.bind_map]
    rfl
  refine ⟨_, hrun, ?_⟩
  rw [hfind]
  refine Iff.trans ?_ (hset.eq_iff_quoted hvalue)
  rw [AttributeRevision.onTag_eq_withParts, ← OpenTag.text_withParts_eq_iff]
  constructor
  · intro hsame
    have hdocs := congrArg Draft.document hsame
    rw [hdoc] at hdocs
    exact List.append_cancel_right (List.append_cancel_left hdocs)
  · intro htext
    rw [htext, ← hdoc]

/-- Of two attributes of a name, the first one is between single quotes and keeps its value. -/
theorem Draft.setAttribute_attributeValue_repeated :
    let _ := Digest.multiplicative
    let doc := "<p><a x = 'say \"hi\"' x=1/></p>".toList
    Draft.setAttribute ⟨doc, doc, some (.attr "x".toList)⟩ "x".toList "say \"hi\"".toList =
      .ok ⟨doc, doc, some (.attr "x".toList)⟩ := by
  intro digest doc
  have located : Draft.locate ⟨doc, doc, some (.attr "x".toList)⟩ =
      .ok ⟨⟨3, ⟨"a".toList, " x = 'say \"hi\"' x=1".toList, true⟩⟩, none⟩ := by decide +kernel
  have current : Draft.attributeValue ⟨doc, doc, some (.attr "x".toList)⟩ "x".toList =
      .ok "say \"hi\"".toList := by decide +kernel
  obtain ⟨revised, hrun, hsame⟩ := Draft.setAttribute_attributeValue located current
  rw [hrun, hsame.mpr (by decide +kernel)]

/-- A value without quotes is not left as it is. -/
theorem Draft.not_setAttribute_attributeValue_of_unquoted :
    let _ := Digest.multiplicative
    ¬∀ (draft : Draft) (span : Span) (name value : Text) (a : PlacedAttribute),
      draft.locate = .ok span → span.head.find? name = some a → a.attr.value? = some value →
      draft.attributeValue name = .ok value → draft.setAttribute name value = .ok draft := by
  intro digest hall
  let doc := "<a x=1></a>".toList
  let tag : OpenTag := ⟨"a".toList, " x=1".toList, false⟩
  have hset := hall ⟨doc, doc, some (.tag "a".toList)⟩ ⟨⟨0, tag⟩, some ⟨7, 11⟩⟩ "x".toList
    "1".toList ⟨2, ⟨" ".toList, "x".toList, some ⟨"=".toList, .unquoted "1".toList⟩⟩⟩
    (by decide +kernel) (by decide +kernel) (by decide +kernel) (by decide +kernel)
  revert hset
  decide +kernel

end Graft.Markup
