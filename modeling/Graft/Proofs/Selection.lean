import Graft.Markup.Selector
import Graft.Proofs.Forest
import Mathlib.Data.List.Find

/-! Selection in a well-formed document: locating an element in the text of a forest finds what the
same rule selects among the elements of the forest. -/

namespace Graft.Markup

open Text

/-! ### Selection among the elements of a forest -/

/-- Whether an attribute is written with the given text between quotes. -/
def Attribute.hasQuoted (a : Attribute) (value : Text) : Bool :=
  match a.assignment with
  | some ⟨_, .quoted _ text _⟩ => text == value
  | _ => false

/-- Whether an element has the name or attribute that a selector asks for. -/
def Element.admittedBy (e : Element) : Selector → Bool
  | .tag name => e.head.tag.name == name
  | .attr name => e.attrs.any fun a => a.name == name
  | .attrValue name value => e.attrs.any fun a => a.name == name && a.hasQuoted value
  | .first => true

/-- The first element of a forest at the given offset, or the first child element of that element
when it is a `template`. -/
def Forest.first? (n : Nat) : Forest → Option Element
  | .nil => none
  | .leaf l rest => (l.element? n).or (rest.first? (n + l.text.size))
  | .element o _ _ children _ =>
    if o.name = templateName then (children.elements (n + (o.tag false).text.size)).head?
    else some (o.element n children.text.size)

/-- The element of a forest that a selector picks. -/
def Forest.select (forest : Forest) : Selector → Option Element
  | .first => forest.first? 0
  | selector => (forest.elements 0).find? fun e => e.admittedBy selector

/-- The range of an element's closing tag. -/
def Element.closingRange? (e : Element) : Option Range :=
  match e.closing with
  | .explicit range => some range
  | .selfClosing _ | .void => none

def Element.span (e : Element) : Span := ⟨e.head, e.closingRange?⟩

/-! ### Elements as they are written -/

/-- The element's opening tag is written in full, and it ends as that tag asks. -/
inductive Element.Written : Element → Prop
  | selfClosing (o : Opening) (n : Nat) (range : Range) :
      Written ⟨⟨n, o.tag true⟩, o.attrs, .selfClosing range⟩
  | void (o : Opening) (n : Nat) : o.name ∈ voidNames →
      Written ⟨⟨n, o.tag false⟩, o.attrs, .void⟩
  | paired (o : Opening) (n content : Nat) : o.name ∉ voidNames → Written (o.element n content)

theorem Leaf.written {l : Leaf} {n : Nat} {e : Element} (h : l.element? n = some e) :
    e.Written := by
  cases l with
  | run text h' => simp [element?] at h
  | comment body h' => simp [element?] at h
  | declaration mark body hmark hbody hcomment => simp [element?] at h
  | selfClosing o =>
    obtain rfl := Option.some.inj h
    exact .selfClosing o n _
  | void o hvoid =>
    obtain rfl := Option.some.inj h
    exact .void o n hvoid
  | raw o content hraw h' =>
    obtain rfl := Option.some.inj h
    exact .paired o n _ (not_mem_voidNames_of_raw hraw)

theorem Forest.written {forest : Forest} {n : Nat} {e : Element} (h : e ∈ forest.elements n) :
    e.Written := by
  induction forest generalizing n with
  | nil => simp [elements] at h
  | leaf l forest ih =>
    rw [elements, List.mem_append, Option.mem_toList] at h
    rcases h with h | h
    · exact Leaf.written h
    · exact ih h
  | element o hvoid hraw children forest ihc ihf =>
    rw [elements, List.cons_append, List.mem_cons, List.mem_append] at h
    rcases h with rfl | h | h
    · exact .paired o n _ hvoid
    · exact ihc h
    · exact ihf h

namespace Element.Written

variable {e : Element}

theorem attributes_tag (h : e.Written) : e.head.tag.attributes = e.attrs := by
  cases h with
  | selfClosing o n range => exact o.attributes_tag true
  | void o n _ => exact o.attributes_tag false
  | paired o n content _ => exact o.attributes_tag false

theorem attrs_wellFormed (h : e.Written) : ∀ a ∈ e.attrs, a.WellFormed := by
  cases h with
  | selfClosing o n range => exact o.attrs_wellFormed
  | void o n _ => exact o.attrs_wellFormed
  | paired o n content _ => exact o.attrs_wellFormed

/-- An element has no closing tag of its own exactly when it is self-closing or void. -/
theorem closingRange?_eq_none_iff (h : e.Written) :
    e.closingRange? = none ↔ e.head.tag.selfClosing = true ∨ e.head.tag.name ∈ voidNames := by
  cases h with
  | selfClosing o n range => simp [closingRange?, Opening.tag]
  | void o n hvoid => simp [closingRange?, Opening.tag, hvoid]
  | paired o n content hvoid => simp [closingRange?, Opening.element, Opening.tag, hvoid]

end Element.Written

/-! ### The attributes of a head -/

theorem Head.any_attributes (head : Head) (p : Attribute → Bool) :
    (head.attributes.any fun a => p a.attr) = head.tag.attributes.any p := by
  rw [← head.map_attr_attributes, List.any_map]
  rfl

theorem Attribute.hasQuoted_eq (a : Attribute) (value : Text) :
    a.hasQuoted value = (a.quote?.isSome && a.value? == some value) := by
  obtain ⟨lead, name, assignment⟩ := a
  rcases assignment with _ | ⟨gap, value' | text⟩ <;>
    simp [hasQuoted, quote?, value?, Value.quote?, Value.text]

/-- A selector admits the head of a written element when it admits the element. -/
theorem Element.Written.admits_head {e : Element} (h : e.Written) (selector : Selector) :
    selector.admits e.head = e.admittedBy selector := by
  cases selector with
  | tag name => rfl
  | attr name =>
    rw [Selector.admits, Element.admittedBy, ← h.attributes_tag, ← e.head.any_attributes,
      Head.find?, Bool.eq_iff_iff, List.find?_isSome, List.any_eq_true]
  | attrValue name value =>
    rw [Selector.admits, Element.admittedBy, ← h.attributes_tag, ← e.head.any_attributes,
      Head.findAll, List.any_filter]
    simp only [Attribute.hasQuoted_eq]
  | first => rfl

/-! ### The heads of a forest -/

theorem Leaf.heads_tokens (l : Leaf) (n : Nat) :
    (l.tokens n).filterMap Token.head? = (l.element? n).toList.map (·.head) := by
  cases l <;> rfl

theorem Forest.heads_tokens (forest : Forest) (n : Nat) :
    (forest.tokens n).filterMap Token.head? = (forest.elements n).map (·.head) := by
  induction forest generalizing n with
  | nil => rfl
  | leaf l forest ih =>
    rw [tokens, elements, List.filterMap_append, List.map_append, l.heads_tokens, ih]
  | element o hvoid hraw children forest ihc ihf =>
    simp only [tokens, elements, List.cons_append, List.filterMap_cons, List.filterMap_append,
      Token.head?, ihc, ihf, List.map_cons, List.map_append]
    rfl

theorem Forest.heads_text (forest : Forest) :
    heads forest.text = (forest.elements 0).map (·.head) := by
  rw [heads, forest.tokens_text, forest.heads_tokens]

/-- The elements of a forest lie in its text. -/
theorem Forest.bounds_of_mem {forest : Forest} {n : Nat} {e : Element}
    (h : e ∈ forest.elements n) : n ≤ e.head.start ∧ e.head.stop ≤ n + forest.text.size := by
  have hmem : e.head ∈ (forest.tokens n).filterMap Token.head? := by
    rw [forest.heads_tokens]
    exact List.mem_map_of_mem h
  have hplace := forest.place_items n []
  rw [List.append_nil, items_nil, place, List.append_nil] at hplace
  rw [← hplace] at hmem
  have hbounds := bounds_of_mem_place (mem_filterMap_head?.mp hmem)
  rwa [Token.stop, Lexeme.text, ← e.head.stop_eq] at hbounds

/-! ### The first element -/

/-- A leaf that is an element is no wrapper of other elements. -/
theorem Leaf.not_wrapper {l : Leaf} {n : Nat} {e : Element} (h : l.element? n = some e) :
    e.head.name ≠ templateName ∨ e.head.tag.selfClosing = true := by
  cases l with
  | run text h' => simp [element?] at h
  | comment body h' => simp [element?] at h
  | declaration mark body hmark hbody hcomment => simp [element?] at h
  | selfClosing o =>
    obtain rfl := Option.some.inj h
    exact .inr rfl
  | void o hvoid =>
    obtain rfl := Option.some.inj h
    exact .inl (ne_of_mem_of_not_mem hvoid (by decide))
  | raw o content hraw h' =>
    obtain rfl := Option.some.inj h
    exact .inl (ne_of_mem_of_not_mem hraw (by decide))

/-- The document in which an element with a forest as its content stands between two texts. -/
def enclose (o : Opening) (children : Forest) (outer after : Text) : Text :=
  outer ++ ((o.tag false).text ++ (children.text ++ ((CloseTag.ofName o.name).text ++ after)))

/-- The first element of a forest is what `first?` gives, unless it is a `template` with content:
then `first?` gives the first element of that content. -/
theorem Forest.first?_cases (forest : Forest) (before rest : Text) :
    ((forest.elements before.size).head? = none ∧ forest.first? before.size = none) ∨
    (∃ e, (forest.elements before.size).head? = some e ∧ forest.first? before.size = some e ∧
      (e.head.name ≠ templateName ∨ e.head.tag.selfClosing = true)) ∨
    ∃ (o : Opening) (children : Forest) (outer after : Text), o.name = templateName ∧
      o.name ∉ voidNames ∧ before ++ (forest.text ++ rest) = enclose o children outer after ∧
      (forest.elements before.size).head? = some (o.element outer.size children.text.size) ∧
      forest.first? before.size =
        (children.elements (outer.size + (o.tag false).text.size)).head? := by
  induction forest generalizing before with
  | nil => exact .inl ⟨rfl, rfl⟩
  | leaf l forest ih =>
    cases hl : l.element? before.size with
    | none =>
      have hdoc : before ++ ((leaf l forest).text ++ rest) =
          before ++ l.text ++ (forest.text ++ rest) := by simp [text]
      have h := ih (before ++ l.text)
      rw [size_append] at h
      simpa [elements, first?, hl, hdoc] using h
    | some e =>
      exact .inr (.inl ⟨e, by simp [elements, hl], by simp [first?, hl], Leaf.not_wrapper hl⟩)
  | element o hvoid hraw children forest ihc ihf =>
    by_cases hname : o.name = templateName
    · refine .inr (.inr ⟨o, children, before, forest.text ++ rest, hname, hvoid, ?_, rfl, ?_⟩)
      · simp [text, enclose]
      · rw [first?, if_pos hname]
    · refine .inr (.inl ⟨o.element before.size children.text.size, rfl, ?_, .inl hname⟩)
      rw [first?, if_neg hname]

/-- The heads from the end of an element's opening tag on begin with the heads of its content, and
all others come after the content. -/
theorem heads_inside (o : Opening) (children : Forest) (outer after : Text) :
    ∃ inside later, tokensFrom? (enclose o children outer after)
        (Head.stop ⟨outer.size, o.tag false⟩) = some inside ∧
      inside.filterMap Token.head? =
        (children.elements (outer.size + (o.tag false).text.size)).map (·.head) ++ later ∧
      ∀ head ∈ later, outer.size + (o.tag false).text.size + children.text.size ≤ head.start := by
  have hdoc : enclose o children outer after = outer ++ (o.tag false).text ++
      (children.text ++ ((CloseTag.ofName o.name).text ++ after)) := by simp [enclose]
  have hstop : Head.stop ⟨outer.size, o.tag false⟩ = (outer ++ (o.tag false).text).size := by
    rw [Head.stop_eq, size_append]
  rw [hdoc, hstop, tokensFrom?_append, children.place_items, size_append]
  refine ⟨_, (place (outer.size + (o.tag false).text.size + children.text.size)
    (items ((CloseTag.ofName o.name).text ++ after))).filterMap Token.head?, rfl, ?_, ?_⟩
  · rw [List.filterMap_append, children.heads_tokens]
  · intro head hhead
    exact (bounds_of_mem_place (mem_filterMap_head?.mp hhead)).1

/-- The first element inside a `template` that a document begins with. -/
theorem firstHead?_enclose {o : Opening} (hname : o.name = templateName)
    (hvoid : o.name ∉ voidNames) (children : Forest) (outer after : Text)
    (hfirst : (heads (enclose o children outer after)).head? = some ⟨outer.size, o.tag false⟩) :
    firstHead? (enclose o children outer after) =
      (children.elements (outer.size + (o.tag false).text.size)).head?.map (·.head) := by
  obtain ⟨inside, later, hinside, hheads, hlater⟩ := heads_inside o children outer after
  have hraw : o.name ∉ rawNames := by
    rw [hname]
    decide
  have helement : elementOf? (enclose o children outer after) ⟨outer.size, o.tag false⟩ =
      some (o.element outer.size children.text.size).bounds := by
    have h := (Forest.element o hvoid hraw children .nil).elementFrom?_text outer after
      (o.element outer.size children.text.size) (by simp [Forest.elements])
    have hdoc : outer ++ ((Forest.element o hvoid hraw children .nil).text ++ after) =
        enclose o children outer after := by simp [Forest.text, enclose]
    rw [hdoc] at h
    exact congrArg Option.join h
  have hopen : ¬(Head.name ⟨outer.size, o.tag false⟩ ≠ templateName ∨
      (o.tag false).selfClosing = true) := by
    simp [Head.name, Opening.tag, hname]
  simp only [firstHead?, hfirst, Option.bind_eq_bind, Option.bind_some, hinside, if_neg hopen,
    helement, Element.bounds, Opening.element, hheads]
  cases hchildren : children.elements (outer.size + (o.tag false).text.size) with
  | nil =>
    cases later with
    | nil => rfl
    | cons head later =>
      have hle := hlater head (by simp)
      simp only [List.map_nil, List.nil_append, List.head?_cons, Option.bind_some, List.head?_nil,
        Option.map_none]
      rw [if_neg (by omega)]
  | cons e es =>
    have hbounds := Forest.bounds_of_mem (hchildren ▸ List.mem_cons_self : e ∈ children.elements _)
    have hstop : e.head.start < e.head.stop := by
      rw [Head.stop_eq, OpenTag.text, size_cons]
      have : Char.utf8Size '<' = 1 := rfl
      omega
    simp only [List.map_cons, List.cons_append, List.head?_cons, Option.bind_some, Option.map_some]
    rw [if_pos (by omega)]

theorem Forest.firstHead?_text (forest : Forest) :
    firstHead? forest.text = (forest.first? 0).map (·.head) := by
  have hcases := forest.first?_cases [] []
  rw [List.nil_append, List.append_nil, size_nil] at hcases
  have hhead : (heads forest.text).head? = (forest.elements 0).head?.map (·.head) := by
    rw [forest.heads_text, List.head?_map]
  rcases hcases with ⟨hnone, hfirst⟩ | ⟨e, hsome, hfirst, hwrap⟩ |
    ⟨o, children, outer, after, hname, hvoid, hdoc, hsome, hfirst⟩
  · simp [firstHead?, hhead, hnone, hfirst]
  · simp only [firstHead?, hhead, hsome, hfirst]
    simp [hwrap]
  · rw [hsome, hdoc] at hhead
    rw [hdoc, hfirst, firstHead?_enclose hname hvoid children outer after hhead]

/-! ### Location -/

/-- The first element that `first?` gives is an element of the forest. -/
theorem Forest.mem_of_first? {forest : Forest} {n : Nat} {e : Element}
    (h : forest.first? n = some e) : e ∈ forest.elements n := by
  induction forest generalizing n with
  | nil => simp [first?] at h
  | leaf l forest ih =>
    rw [first?, Option.or_eq_some_iff] at h
    rw [elements, List.mem_append, Option.mem_toList]
    rcases h with h | ⟨-, h⟩
    · exact .inl h
    · exact .inr (ih h)
  | element o hvoid hraw children forest ihc ihf =>
    rw [first?] at h
    rw [elements, List.cons_append, List.mem_cons, List.mem_append]
    split at h
    · exact .inr (.inl (List.mem_of_mem_head? h))
    · exact .inl (Option.some.inj h).symm

theorem Forest.mem_of_select {forest : Forest} {selector : Selector} {e : Element}
    (h : forest.select selector = some e) : e ∈ forest.elements 0 := by
  cases selector with
  | first => exact mem_of_first? h
  | tag name => exact List.mem_of_find?_eq_some h
  | attr name => exact List.mem_of_find?_eq_some h
  | attrValue name value => exact List.mem_of_find?_eq_some h

theorem Forest.findHead?_text (forest : Forest) (selector : Selector) :
    selector.findHead? forest.text = (forest.select selector).map (·.head) := by
  have hfind : (heads forest.text).find? selector.admits =
      ((forest.elements 0).find? fun e => e.admittedBy selector).map (·.head) := by
    rw [forest.heads_text, List.find?_map]
    refine congrArg _ (List.find?_congr fun e he => ?_)
    exact (Forest.written he).admits_head selector
  cases selector with
  | first => exact forest.firstHead?_text
  | tag name => exact hfind
  | attr name => exact hfind
  | attrValue name value => exact hfind

theorem Forest.spanOf?_text (forest : Forest) {e : Element} (he : e ∈ forest.elements 0) :
    spanOf? forest.text e.head = some e.span := by
  have helement : elementOf? forest.text e.head = some e.bounds := by
    have h := forest.elementFrom?_text [] [] e he
    rw [List.nil_append, List.append_nil] at h
    exact congrArg Option.join h
  cases Forest.written he with
  | selfClosing o n range => rfl
  | void o n hvoid =>
    rw [spanOf?, if_neg (by simp [Opening.tag]), helement]
    rfl
  | paired o n content hvoid =>
    rw [spanOf?, if_neg (by simp [Opening.element, Opening.tag]), helement]
    rfl

/-- In a well-formed document, a valid selector locates the element of the forest that the
selector picks: its opening tag, and its own closing tag unless it is self-closing or void. It
locates nothing when the forest has no such element. -/
theorem Forest.locate_text (forest : Forest) {selector : Selector}
    (valid : selector.fault? = none) :
    (∀ e, forest.select selector = some e →
      locate forest.text selector = .ok ⟨e.head, e.closingRange?⟩ ∧
        (e.closingRange? = none ↔
          e.head.tag.selfClosing = true ∨ e.head.tag.name ∈ voidNames)) ∧
      (forest.select selector = none →
        locate forest.text selector = .error (.notFound selector)) := by
  refine ⟨fun e he => ⟨?_, ?_⟩, fun hnone => ?_⟩
  · have hspan := forest.spanOf?_text (mem_of_select he)
    simp [locate, valid, forest.findHead?_text, he, hspan, Element.span]
  · exact (Forest.written (mem_of_select he)).closingRange?_eq_none_iff
  · simp [locate, valid, forest.findHead?_text, hnone]

/-- The first element of a document that is one `template` is the first element inside. -/
theorem Forest.locate_text_template : ∃ forest : Forest,
    forest.text = "<template><p class=\"x\"></p></template>".toList ∧
      Selector.first.fault? = none ∧
      locate forest.text .first =
        .ok ⟨⟨10, ⟨['p'], " class=\"x\"".toList, false⟩⟩, some ⟨23, 27⟩⟩ := by
  let attr : Attribute := ⟨[' '], "class".toList, some ⟨['='], .quoted '"' ['x'] true⟩⟩
  let template : Opening :=
    { name := templateName
      attrs := []
      tail := []
      isName := ⟨'t', "emplate".toList, rfl, rfl, List.all_eq_true.mp rfl⟩
      attrs_wellFormed := by simp
      tail_blank := by simp }
  let p : Opening :=
    { name := ['p']
      attrs := [attr]
      tail := []
      isName := ⟨'p', [], rfl, rfl, by simp⟩
      attrs_wellFormed := by
        intro a ha
        obtain rfl := List.mem_singleton.mp ha
        refine ⟨by simp, List.all_eq_true.mp rfl, by decide, List.all_eq_true.mp rfl,
          fun s hs => ?_⟩
        obtain rfl := Option.some.inj hs
        exact ⟨⟨[], [], by simp, by simp, rfl⟩, .quoted rfl (by decide)⟩
      tail_blank := by simp }
  let forest : Forest := .element template (by decide) (by decide)
    (.element p (by decide) (by decide) .nil .nil) .nil
  have hspan : (⟨(p.element 10 0).head, (p.element 10 0).closingRange?⟩ : Span) =
      ⟨⟨10, ⟨['p'], " class=\"x\"".toList, false⟩⟩, some ⟨23, 27⟩⟩ := by decide
  refine ⟨forest, by decide, rfl, ?_⟩
  rw [← hspan]
  have hvalid : Selector.fault? .first = none := rfl
  exact ((locate_text forest hvalid).1 (p.element 10 0) rfl).1

end Graft.Markup
