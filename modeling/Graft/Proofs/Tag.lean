import Graft.Markup.Attribute
import Graft.Proofs.Text
import Mathlib.Data.List.TakeWhile

/-! Opening tags whose attributes are written in full, and the reading of them: the name, the end
and the attributes of such a tag are read back as they were written, whatever follows the tag. -/

namespace Graft.Markup

open Text

/-! ### What a tag is written from -/

/-- A tag name: an ASCII letter, then characters other than blanks, `/`, `<` and `>`. -/
def IsTagName (name : Text) : Prop :=
  ∃ c cs, name = c :: cs ∧ c.isAlpha = true ∧ ∀ d ∈ cs, isNameChar d = true

/-- Whether a character may stand in the name of a well-formed attribute. -/
def isAttrChar (c : Char) : Bool :=
  !(isBlank c || isQuote c || c = '=' || c = '/' || c = '<' || c = '>')

theorem isAttrChar_iff {c : Char} : isAttrChar c = true ↔
    isBlank c = false ∧ isQuote c = false ∧ c ≠ '=' ∧ c ≠ '/' ∧ c ≠ '<' ∧ c ≠ '>' := by
  simp [isAttrChar, and_assoc]

/-- Whether a character may stand in a well-formed value without quotes. -/
def isBareChar (c : Char) : Bool :=
  !(isBlank c || isQuote c || c = '=' || c = '/' || c = '>')

theorem isBareChar_iff {c : Char} : isBareChar c = true ↔
    isBlank c = false ∧ isQuote c = false ∧ c ≠ '=' ∧ c ≠ '/' ∧ c ≠ '>' := by
  simp [isBareChar, and_assoc]

/-- A well-formed value stands between two quotes that it does not hold, or needs none. -/
inductive Value.WellFormed : Value → Prop
  | quoted {quote : Char} {text : Text} : isQuote quote = true → quote ∉ text →
      WellFormed (.quoted quote text true)
  | unquoted {text : Text} : text ≠ [] → (∀ c ∈ text, isBareChar c = true) →
      WellFormed (.unquoted text)

/-- A well-formed assignment is a `=`, with or without blanks around it, and a well-formed value. -/
structure Assignment.WellFormed (a : Assignment) : Prop where
  gap : ∃ before after, (∀ c ∈ before, isBlank c = true) ∧ (∀ c ∈ after, isBlank c = true) ∧
    a.gap = before ++ '=' :: after
  value : a.value.WellFormed

/-- An attribute that is read back as it is written: its name holds neither blanks nor `=` nor
`>`, and blanks come before it. -/
structure Attribute.Readable (a : Attribute) : Prop where
  lead_ne_nil : a.lead ≠ []
  lead_blank : ∀ c ∈ a.lead, isBlank c = true
  name_ne_nil : a.name ≠ []
  name_char : ∀ c ∈ a.name, isBlank c = false ∧ c ≠ '=' ∧ c ≠ '>'
  assigned : ∀ s ∈ a.assignment, s.WellFormed

/-- A well-formed attribute is preceded by blanks and has a name without blanks, quotes, `=`, `/`,
`<` and `>`. -/
structure Attribute.WellFormed (a : Attribute) : Prop where
  lead_ne_nil : a.lead ≠ []
  lead_blank : ∀ c ∈ a.lead, isBlank c = true
  name_ne_nil : a.name ≠ []
  name_char : ∀ c ∈ a.name, isAttrChar c = true
  assigned : ∀ s ∈ a.assignment, s.WellFormed

theorem Attribute.WellFormed.readable {a : Attribute} (h : a.WellFormed) : a.Readable where
  lead_ne_nil := h.lead_ne_nil
  lead_blank := h.lead_blank
  name_ne_nil := h.name_ne_nil
  name_char c hc := by
    obtain ⟨hb, -, heq, -, -, hend⟩ := isAttrChar_iff.mp (h.name_char c hc)
    exact ⟨hb, heq, hend⟩
  assigned := h.assigned

/-- What stands between the name and the end of a tag: attributes, then blanks. -/
def innerOf (attrs : List Attribute) (tail : Text) : Text := attrs.flatMap Attribute.text ++ tail

/-- An opening tag written in full. -/
structure Opening where
  name : Text
  attrs : List Attribute
  tail : Text
  isName : IsTagName name
  attrs_wellFormed : ∀ a ∈ attrs, a.WellFormed
  tail_blank : ∀ c ∈ tail, isBlank c = true

/-- The tag, self-closing or not. -/
def Opening.tag (o : Opening) (selfClosing : Bool) : OpenTag :=
  ⟨o.name, innerOf o.attrs o.tail, selfClosing⟩

/-! ### The name of a tag -/

/-- The name at the front of a text, before a character that no name holds. -/
theorem readName?_append {name rest : Text} (h : IsTagName name)
    (hr : ∀ c ∈ rest.head?, isNameChar c = false) :
    readName? (name ++ rest) = some (name, rest) := by
  obtain ⟨c, cs, rfl, hc, hcs⟩ := h
  obtain ⟨ht, hd⟩ := takeWhile_append_stop hcs hr
  simp [readName?, hc, ht, hd]

/-! ### The end of a tag -/

/-- Reading `t` takes the head state from `s` to `s'` and meets no end of the tag on the way. -/
def HeadState.Leads (s : HeadState) (t : Text) (s' : HeadState) : Prop :=
  ∀ rest, readHead? s (t ++ rest) =
    (readHead? s' rest).map fun (inner, after) => (t ++ inner, after)

namespace HeadState

theorem Leads.nil (s : HeadState) : Leads s [] s := by
  intro rest
  simp

theorem Leads.cons {s s' : HeadState} {c : Char} {t : Text} (hc : s.ends c = false)
    (h : Leads (s.next c) t s') : Leads s (c :: t) s' := by
  intro rest
  rw [List.cons_append, readHead?, hc, if_neg Bool.false_ne_true, h rest, Option.map_map]
  rfl

theorem Leads.append {s s' s'' : HeadState} {t u : Text} (h : Leads s t s') (h' : Leads s' u s'') :
    Leads s (t ++ u) s'' := by
  intro rest
  rw [List.append_assoc, h, h', Option.map_map]
  simp [Function.comp_def]

/-- Outside values, all characters but `=` and `>` count the same. -/
theorem Leads.outside {t : Text} (h : ∀ c ∈ t, c ≠ '=' ∧ c ≠ '>') : Leads .outside t .outside := by
  induction t with
  | nil => exact Leads.nil _
  | cons c cs ih =>
    have hc := h c (by simp)
    refine Leads.cons (by simp [ends, hc.2]) ?_
    rw [next, if_neg hc.1]
    exact ih fun d hd => h d (by simp [hd])

/-- Blanks keep a `=` in force. -/
theorem Leads.afterEquals {t : Text} (h : ∀ c ∈ t, isBlank c = true) :
    Leads .afterEquals t .afterEquals := by
  induction t with
  | nil => exact Leads.nil _
  | cons c cs ih =>
    have hc := h c (by simp)
    have hend : c ≠ '>' := by rintro rfl; exact absurd hc (by decide)
    have hquote : isQuote c = false := by
      simp only [isBlank, Bool.or_eq_true, decide_eq_true_eq] at hc
      obtain (((rfl | rfl) | rfl) | rfl) | rfl := hc <;> rfl
    refine Leads.cons (by simp [ends, hend]) ?_
    rw [next, if_neg (by simp [hquote]), if_pos (by simp [hc])]
    exact ih fun d hd => h d (by simp [hd])

/-- A quoted value lasts to its quote. -/
theorem Leads.quoted {q : Char} {t : Text} (h : q ∉ t) : Leads (.quoted q) (t ++ [q]) .outside := by
  induction t with
  | nil => exact Leads.cons rfl (by rw [next, if_pos rfl]; exact Leads.nil _)
  | cons c cs ih =>
    refine Leads.cons rfl ?_
    rw [next, if_neg (by rintro rfl; simp at h)]
    exact ih fun hq => h (by simp [hq])

end HeadState

theorem ne_of_isBlank {c : Char} (h : isBlank c = true) : c ≠ '=' ∧ c ≠ '>' ∧ c ≠ '/' := by
  refine ⟨?_, ?_, ?_⟩ <;> rintro rfl <;> exact absurd h (by decide)

/-- Outside values, blanks are passed over. -/
theorem HeadState.Leads.blank {t : Text} (h : ∀ c ∈ t, isBlank c = true) :
    Leads .outside t .outside := by
  refine Leads.outside fun c hc => ?_
  obtain ⟨heq, hend, -⟩ := ne_of_isBlank (h c hc)
  exact ⟨heq, hend⟩

theorem Value.WellFormed.leads {v : Value} (h : v.WellFormed) :
    HeadState.Leads .afterEquals v.written .outside := by
  cases h with
  | @quoted quote text hq ht =>
    have hend : quote ≠ '>' := by rintro rfl; exact absurd hq (by decide)
    refine HeadState.Leads.cons (by simp [HeadState.ends, hend]) ?_
    rw [HeadState.next, if_pos hq]
    exact HeadState.Leads.quoted ht
  | @unquoted text hne ht =>
    cases text with
    | nil => exact absurd rfl hne
    | cons c cs =>
      obtain ⟨hb, hq, heq, -, hend⟩ := isBareChar_iff.mp (ht c (by simp))
      refine HeadState.Leads.cons (by simp [HeadState.ends, hend]) ?_
      rw [HeadState.next, if_neg (by simp [hq]), if_neg (by simp [hb, heq])]
      refine HeadState.Leads.outside fun d hd => ?_
      obtain ⟨-, -, heq', -, hend'⟩ := isBareChar_iff.mp (ht d (by simp [hd]))
      exact ⟨heq', hend'⟩

theorem Assignment.WellFormed.leads {a : Assignment} (h : a.WellFormed) :
    HeadState.Leads .outside a.text .outside := by
  obtain ⟨before, after, hb, ha, hgap⟩ := h.gap
  have hequals : HeadState.Leads .outside ('=' :: after) .afterEquals :=
    HeadState.Leads.cons rfl (HeadState.Leads.afterEquals ha)
  rw [text, hgap]
  exact ((HeadState.Leads.blank hb).append hequals).append h.value.leads

/-- No attribute that is read back as written ends its tag. -/
theorem Attribute.Readable.leads {a : Attribute} (h : a.Readable) :
    HeadState.Leads .outside a.text .outside := by
  have hname : HeadState.Leads .outside a.name .outside :=
    HeadState.Leads.outside fun c hc => (h.name_char c hc).2
  refine ((HeadState.Leads.blank h.lead_blank).append hname).append ?_
  cases hs : a.assignment with
  | none => exact HeadState.Leads.nil _
  | some s => exact (h.assigned s hs).leads

theorem leads_innerOf {attrs : List Attribute} {tail : Text} (h : ∀ a ∈ attrs, a.Readable)
    (ht : ∀ c ∈ tail, isBlank c = true) :
    HeadState.Leads .outside (innerOf attrs tail) .outside := by
  induction attrs with
  | nil => exact HeadState.Leads.blank ht
  | cons a as ih =>
    have hrest := ih fun b hb => h b (by simp [hb])
    rw [innerOf, List.flatMap_cons, List.append_assoc]
    exact (h a (by simp)).leads.append hrest

/-! ### The attributes of a tag -/

/-- What may follow an attribute: nothing, or blanks that no `=` comes after. -/
structure EndsAttribute (rest : Text) : Prop where
  blank : ∀ c ∈ rest.head?, isBlank c = true
  noEquals : ∀ c ∈ (rest.dropWhile isBlank).head?, c ≠ '='

theorem Value.WellFormed.read_append {v : Value} (h : v.WellFormed) {rest : Text}
    (hr : EndsAttribute rest) : Value.read (v.written ++ rest) = (v, rest) := by
  cases h with
  | @quoted quote text hq ht =>
    have hb : breakOn? [quote] (text ++ quote :: rest) = some (text, quote :: rest) :=
      breakOn?_single_append ht
    simp [written, read, hq, hb]
  | @unquoted text hne ht =>
    obtain ⟨htake, hdrop⟩ := takeWhile_append_stop (p := (!isBlank ·)) (s := text) (t := rest)
      (fun c hc => by simp [(isBareChar_iff.mp (ht c hc)).1])
      (fun c hc => by simp [hr.blank c hc])
    cases text with
    | nil => exact absurd rfl hne
    | cons c cs =>
      have hq := (isBareChar_iff.mp (ht c (by simp))).2.1
      simp only [written, List.cons_append] at htake hdrop ⊢
      simp [read, hq, htake, hdrop]

theorem Value.WellFormed.head_not_blank {v : Value} (h : v.WellFormed) (rest : Text) :
    ∀ c ∈ (v.written ++ rest).head?, isBlank c = false := by
  cases h with
  | @quoted quote text hq ht =>
    intro c hc
    obtain rfl : quote = c := by simpa [written] using hc
    simp only [isQuote, Bool.or_eq_true, decide_eq_true_eq] at hq
    obtain rfl | rfl := hq <;> rfl
  | @unquoted text hne ht =>
    intro c hc
    rw [written, head?_append_of_ne_nil hne] at hc
    exact (isBareChar_iff.mp (ht c (List.mem_of_mem_head? hc))).1

theorem Assignment.WellFormed.read?_append {a : Assignment} (h : a.WellFormed) {rest : Text}
    (hr : EndsAttribute rest) : Assignment.read? (a.text ++ rest) = some (a, rest) := by
  obtain ⟨before, after, hb, ha, hgap⟩ := h.gap
  have htext : a.text ++ rest = before ++ '=' :: (after ++ (a.value.written ++ rest)) := by
    simp [text, hgap]
  obtain ⟨htake, hdrop⟩ := takeWhile_append_stop (t := '=' :: (after ++ (a.value.written ++ rest)))
    hb (by simp [isBlank])
  obtain ⟨htake', hdrop'⟩ := takeWhile_append_stop ha (h.value.head_not_blank rest)
  rw [htext, read?, hdrop]
  simp only [hdrop', h.value.read_append hr, htake, htake', ← hgap]

namespace HeadPart

theorem readAll_of_read? {cs rest : Text} {part : HeadPart} (h : read? cs = some (part, rest)) :
    readAll cs = part :: readAll rest := by
  rw [readAll]
  split <;> simp_all

theorem readAll_nil : readAll [] = [] := by
  rw [readAll]
  split <;> simp_all [read?]

/-- Blanks alone are filler. -/
theorem readAll_blank {tail : Text} (h : ∀ c ∈ tail, isBlank c = true) :
    readAll tail = if tail = [] then [] else [.filler tail] := by
  have hdrop : tail.dropWhile isBlank = [] := List.dropWhile_eq_nil_iff.mpr h
  split
  · next hnil => rw [hnil, readAll_nil]
  · next hne =>
    have hread : read? tail = some (.filler tail, []) := by
      simp [read?, hdrop, hne]
    rw [readAll_of_read? hread, readAll_nil]

/-- The text from an attribute's assignment on ends the name before it. -/
theorem not_isNameChar_head {a : Attribute} (h : a.Readable) {rest : Text}
    (hr : EndsAttribute rest) :
    ∀ c ∈ (Attribute.assignmentText a.assignment ++ rest).head?, isNameChar c = false := by
  intro c hc
  cases hs : a.assignment with
  | none =>
    rw [hs] at hc
    simp [isNameChar, hr.blank c hc]
  | some s =>
    obtain ⟨before, after, hb, -, hgap⟩ := (h.assigned s hs).gap
    rw [hs, Attribute.assignmentText, Assignment.text, hgap] at hc
    cases before with
    | nil =>
      obtain rfl : '=' = c := by simpa using hc
      rfl
    | cons d ds =>
      obtain rfl : d = c := by simpa using hc
      simp [isNameChar, hb d (by simp)]

theorem read?_assignmentText {a : Attribute} (h : a.Readable) {rest : Text}
    (hr : EndsAttribute rest) :
    Assignment.read? (Attribute.assignmentText a.assignment ++ rest) =
      a.assignment.map fun s => (s, rest) := by
  cases hs : a.assignment with
  | none =>
    rw [Attribute.assignmentText, List.nil_append, Assignment.read?]
    split
    · next tail htail => exact absurd rfl (hr.noEquals '=' (by simp [htail]))
    · rfl
  | some s => exact (h.assigned s hs).read?_append hr

/-- An attribute is read back before anything that may follow one. -/
theorem read?_attr {a : Attribute} (h : a.Readable) {rest : Text} (hr : EndsAttribute rest) :
    read? (a.text ++ rest) = some (.attr a, rest) := by
  have hassigned := read?_assignmentText h hr
  have hafter := not_isNameChar_head h hr
  obtain ⟨c, cs, hname⟩ := List.exists_cons_of_ne_nil h.name_ne_nil
  have hchar := h.name_char
  rw [hname] at hchar
  obtain ⟨hc, hne, -⟩ := hchar c (by simp)
  obtain ⟨htake, hdrop⟩ := takeWhile_append_stop (s := cs)
    (fun d hd => by simp [isNameChar, hchar d (by simp [hd])]) hafter
  obtain ⟨hlead, hstart⟩ := takeWhile_append_stop (s := a.lead)
    (t := c :: (cs ++ (Attribute.assignmentText a.assignment ++ rest))) h.lead_blank
    (by simpa using hc)
  have htext : a.text ++ rest =
      a.lead ++ c :: (cs ++ (Attribute.assignmentText a.assignment ++ rest)) := by
    simp [Attribute.text, hname]
  rw [htext, read?, hstart]
  simp only [hlead, htake, hdrop, hassigned, ← hname]
  obtain ⟨lead, name, assignment⟩ := a
  cases assignment <;> rfl

end HeadPart

theorem endsAttribute_blank {tail : Text} (h : ∀ c ∈ tail, isBlank c = true) :
    EndsAttribute tail := by
  refine ⟨fun c hc => h c (List.mem_of_mem_head? hc), fun c hc => ?_⟩
  rw [List.dropWhile_eq_nil_iff.mpr h] at hc
  simp at hc

theorem Attribute.Readable.ends {a : Attribute} (h : a.Readable) (rest : Text) :
    EndsAttribute (a.text ++ rest) := by
  obtain ⟨c, cs, hname⟩ := List.exists_cons_of_ne_nil h.name_ne_nil
  obtain ⟨hc, hne, -⟩ := h.name_char c (by simp [hname])
  have htext : a.text ++ rest = a.lead ++ c :: (cs ++ (assignmentText a.assignment ++ rest)) := by
    simp [text, hname]
  have hdrop := (takeWhile_append_stop (t := c :: (cs ++ (assignmentText a.assignment ++ rest)))
    h.lead_blank (by simpa using hc)).2
  refine ⟨fun d hd => ?_, fun d hd => ?_⟩
  · rw [htext, head?_append_of_ne_nil h.lead_ne_nil] at hd
    exact h.lead_blank d (List.mem_of_mem_head? hd)
  · rw [htext, hdrop] at hd
    obtain rfl : c = d := by simpa using hd
    exact hne

theorem endsAttribute_innerOf {attrs : List Attribute} {tail : Text}
    (h : ∀ a ∈ attrs, a.Readable) (ht : ∀ c ∈ tail, isBlank c = true) :
    EndsAttribute (innerOf attrs tail) := by
  cases attrs with
  | nil => exact endsAttribute_blank ht
  | cons a as =>
    rw [innerOf, List.flatMap_cons, List.append_assoc]
    exact (h a (by simp)).ends _

/-- The parts between a tag's name and its end are the attributes that were written there, and
the blanks after them. -/
theorem readAll_innerOf {attrs : List Attribute} {tail : Text} (h : ∀ a ∈ attrs, a.Readable)
    (ht : ∀ c ∈ tail, isBlank c = true) :
    HeadPart.readAll (innerOf attrs tail) =
      attrs.map .attr ++ if tail = [] then [] else [.filler tail] := by
  induction attrs with
  | nil => exact HeadPart.readAll_blank ht
  | cons a as ih =>
    have has : ∀ b ∈ as, b.Readable := fun b hb => h b (by simp [hb])
    have hread := HeadPart.read?_attr (h a (by simp)) (endsAttribute_innerOf has ht)
    have hinner : innerOf (a :: as) tail = a.text ++ innerOf as tail := by simp [innerOf]
    rw [hinner, HeadPart.readAll_of_read? hread, ih has, List.map_cons, List.cons_append]

theorem attributes_innerOf {name : Text} {attrs : List Attribute} {tail : Text} {sc : Bool}
    (h : ∀ a ∈ attrs, a.Readable) (ht : ∀ c ∈ tail, isBlank c = true) :
    (⟨name, innerOf attrs tail, sc⟩ : OpenTag).attributes = attrs := by
  have hattrs : attrs.filterMap (fun a => some a) = attrs := List.filterMap_some
  rw [OpenTag.attributes, readAll_innerOf h ht, List.filterMap_append, List.filterMap_map]
  refine Eq.trans (congrArg₂ _ hattrs ?_) (List.append_nil attrs)
  split <;> rfl

theorem HeadPart.map_attr_place (parts : List HeadPart) (n : Nat) :
    (place n parts).map (·.attr) = parts.filterMap fun
      | .attr a => some a
      | .filler _ => none := by
  induction parts generalizing n with
  | nil => rfl
  | cons part parts ih =>
    cases part with
    | filler text => simpa [place] using ih _
    | attr a => simpa [place] using ih _

/-- The attributes of a head at their offsets are the attributes of its tag. -/
theorem Head.map_attr_attributes (head : Head) :
    head.attributes.map (·.attr) = head.tag.attributes :=
  HeadPart.map_attr_place _ _

/-! ### The tag as a whole -/

theorem ofHead_slash (name inner : Text) :
    OpenTag.ofHead name (inner ++ ['/']) = ⟨name, inner, true⟩ := by
  simp [OpenTag.ofHead]

theorem ofHead_of_ne {name inner : Text} (h : inner.getLast? ≠ some '/') :
    OpenTag.ofHead name inner = ⟨name, inner, false⟩ := by
  rw [OpenTag.ofHead, if_neg h]

theorem Value.WellFormed.getLast?_ne {v : Value} (h : v.WellFormed) (s : Text) :
    (s ++ v.written).getLast? ≠ some '/' := by
  cases h with
  | @quoted quote text hq ht =>
    have hslash : quote ≠ '/' := by rintro rfl; exact absurd hq (by decide)
    rw [written, if_pos rfl, ← List.append_assoc, getLast?_append_of_ne_nil (by simp)]
    simpa using hslash
  | @unquoted text hne ht =>
    rw [written, getLast?_append_of_ne_nil hne]
    intro hlast
    have := (isBareChar_iff.mp (ht '/' (List.mem_of_getLast? hlast))).2.2.2.1
    exact this rfl

theorem Attribute.WellFormed.getLast?_ne {a : Attribute} (h : a.WellFormed) :
    a.text.getLast? ≠ some '/' := by
  cases hs : a.assignment with
  | none =>
    rw [text, hs, assignmentText, List.append_nil, getLast?_append_of_ne_nil h.name_ne_nil]
    intro hlast
    have := (isAttrChar_iff.mp (h.name_char '/' (List.mem_of_getLast? hlast))).2.2.2.1
    exact this rfl
  | some s =>
    rw [text, hs, assignmentText, Assignment.text, ← List.append_assoc]
    exact (h.assigned s hs).value.getLast?_ne _

theorem getLast?_innerOf_ne {attrs : List Attribute} {tail : Text}
    (h : ∀ a ∈ attrs, a.text.getLast? ≠ some '/') (ht : ∀ c ∈ tail, isBlank c = true) :
    (innerOf attrs tail).getLast? ≠ some '/' := by
  induction attrs with
  | nil =>
    intro hlast
    exact (ne_of_isBlank (ht '/' (List.mem_of_getLast? hlast))).2.2 rfl
  | cons a as ih =>
    have hinner : innerOf (a :: as) tail = a.text ++ innerOf as tail := by simp [innerOf]
    rw [hinner, List.getLast?_append]
    cases hlast : (innerOf as tail).getLast? with
    | none => simpa using h a (by simp)
    | some c =>
      have hne := ih fun b hb => h b (by simp [hb])
      rwa [hlast] at hne

/-- What follows the name of a tag that is written in full. -/
theorem not_isNameChar_inner {attrs : List Attribute} {tail rest : Text}
    (h : ∀ a ∈ attrs, a.Readable) (ht : ∀ c ∈ tail, isBlank c = true)
    (hr : ∀ c ∈ rest.head?, isNameChar c = false) :
    ∀ c ∈ (innerOf attrs tail ++ rest).head?, isNameChar c = false := by
  intro c hc
  by_cases hnil : innerOf attrs tail = []
  · rw [hnil] at hc
    exact hr c hc
  · rw [head?_append_of_ne_nil hnil] at hc
    simp [isNameChar, (endsAttribute_innerOf h ht).blank c hc]

/-- A letter after a `<` starts an opening tag. -/
theorem read?_letter {c : Char} (hc : c.isAlpha = true) (cs : Text) :
    Lexeme.read? ('<' :: c :: cs) = Lexeme.readOpening? (c :: cs) := by
  have hslash : c ≠ '/' := by rintro rfl; exact absurd hc (by decide)
  have hbang : c ≠ '!' := by rintro rfl; exact absurd hc (by decide)
  have hquestion : c ≠ '?' := by rintro rfl; exact absurd hc (by decide)
  simp [Lexeme.read?, hslash, hbang, hquestion]

/-- An opening tag is read back from its text. -/
theorem read?_openTag (tag : OpenTag) {attrs : List Attribute} {tail : Text}
    (hname : IsTagName tag.name) (hinner : tag.inner = innerOf attrs tail)
    (h : ∀ a ∈ attrs, a.Readable) (ht : ∀ c ∈ tail, isBlank c = true)
    (hend : tag.selfClosing = false → tag.inner.getLast? ≠ some '/') (rest : Text) :
    Lexeme.read? (tag.text ++ rest) = some (.opening tag, rest) := by
  obtain ⟨name, inner, sc⟩ := tag
  obtain rfl : inner = innerOf attrs tail := hinner
  obtain ⟨c, cs, hcons, hc, -⟩ := id hname
  obtain rfl : name = c :: cs := hcons
  let stop : Text := if sc then ['/'] else []
  have hstop : ∀ d ∈ (stop ++ '>' :: rest).head?, isNameChar d = false := by
    intro d hd
    cases sc <;> simp [stop] at hd <;> subst hd <;> rfl
  have hread := readName?_append hname (not_isNameChar_inner h ht hstop)
  have hhead : readHead? .outside (innerOf attrs tail ++ (stop ++ '>' :: rest)) =
      some (innerOf attrs tail ++ stop, rest) := by
    rw [leads_innerOf h ht]
    cases sc <;> simp [stop, readHead?, HeadState.ends, HeadState.next]
  have hof : OpenTag.ofHead (c :: cs) (innerOf attrs tail ++ stop) =
      ⟨c :: cs, innerOf attrs tail, sc⟩ := by
    cases sc with
    | false => simpa [stop] using ofHead_of_ne (hend rfl)
    | true => exact ofHead_slash _ _
  have htext : (⟨c :: cs, innerOf attrs tail, sc⟩ : OpenTag).text ++ rest =
      '<' :: c :: (cs ++ (innerOf attrs tail ++ (stop ++ '>' :: rest))) := by
    cases sc <;> simp [OpenTag.text, OpenTag.delimiter, stop]
  rw [htext, read?_letter hc, Lexeme.readOpening?, ← List.cons_append, hread]
  simp [hhead, hof]

/-- A tag that is written in full is read back from its text. -/
theorem Opening.read?_tag (o : Opening) (sc : Bool) (rest : Text) :
    Lexeme.read? ((o.tag sc).text ++ rest) = some (.opening (o.tag sc), rest) :=
  read?_openTag (o.tag sc) o.isName rfl (fun a ha => (o.attrs_wellFormed a ha).readable)
    o.tail_blank
    (fun _ => getLast?_innerOf_ne (fun a ha => (o.attrs_wellFormed a ha).getLast?_ne) o.tail_blank)
    rest

/-- The attributes of a tag that is written in full are those that it was written with. -/
theorem Opening.attributes_tag (o : Opening) (sc : Bool) : (o.tag sc).attributes = o.attrs :=
  attributes_innerOf (fun a ha => (o.attrs_wellFormed a ha).readable) o.tail_blank

end Graft.Markup
