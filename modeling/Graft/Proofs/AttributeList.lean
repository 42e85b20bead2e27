import Graft.Proofs.AttributeRevision

/-! Revisions of the attributes of a well-formed opening tag, as operations on its list of
attributes: what a revision writes is read back from the revised tag. -/

namespace Graft.Markup

open Text

/-! ### Lists of names and values -/

/-- What a value that has been written between quotes of a kind reads as. -/
def readBack (quote : Char) (value : Text) : Text :=
  if '"' ∈ value ∧ '\'' ∈ value then escapeQuote quote value else value

/-- An attribute as it counts in a list: its name, and its value unless it is bare. -/
def Attribute.entry (a : Attribute) : Text × Option Text := (a.name, a.value?)

/-- The entry of an attribute to which a value has been written. Its quotes are preferred, or `"`
where it has none. -/
def Attribute.written (a : Attribute) (value : Text) : Text × Option Text :=
  (a.name, some (readBack (a.quote?.getD '"') value))

/-- The entries of attributes with a value written to the first one of a name. -/
def writtenFirst (name value : Text) : List Attribute → List (Text × Option Text)
  | [] => []
  | a :: attrs =>
    if a.name = name then a.written value :: attrs.map Attribute.entry
    else a.entry :: writtenFirst name value attrs

/-- The value of the first entry of a name, empty when it has none. -/
def valueIn (name : Text) (entries : List (Text × Option Text)) : Text :=
  ((entries.find? fun entry => entry.1 == name).bind (·.2)).getD []

/-- The entries that a revision leaves of a list of attributes. -/
def AttributeRevision.entries (attrs : List Attribute) :
    AttributeRevision → List (Text × Option Text)
  | set name value =>
    if ∃ a ∈ attrs, a.name = name then writtenFirst name value attrs
    else attrs.map Attribute.entry ++ [(name, some (readBack '"' value))]
  | remove name => (attrs.filter fun a => a.name ≠ name).map Attribute.entry
  | reduce name part =>
    attrs.filterMap fun a =>
      if a.name = name then
        match a.value? with
        | none => some a.entry
        | some value =>
          let reduced := trim (eraseFirst part value)
          if reduced = [] then none else some (name, some reduced)
      else some a.entry
  | extend name value glue =>
    if ∃ a ∈ attrs, a.name = name then
      attrs.map fun a =>
        if a.name = name then
          let current := trim (a.value?.getD [])
          a.written (if current = [] then trim value else current ++ glue ++ trim value)
        else a.entry
    else attrs.map Attribute.entry ++ [(name, some (readBack '"' (trim value)))]

/-! ### Written values -/

theorem isQuote_iff {c : Char} : isQuote c = true ↔ c = '"' ∨ c = '\'' := by
  simp [isQuote]

theorem isQuote_otherQuote (c : Char) : isQuote (otherQuote c) = true := by
  unfold otherQuote
  split <;> rfl

/-- An escaped value does not hold the quotes that have been escaped in it. -/
theorem not_mem_escapeQuote {quote : Char} (h : isQuote quote = true) (value : Text) :
    quote ∉ escapeQuote quote value := by
  intro hmem
  obtain ⟨c, -, hc⟩ := List.mem_flatMap.mp hmem
  rcases isQuote_iff.mp h with rfl | rfl
  · split at hc
    · revert hc
      decide
    · next hne => exact hne (List.mem_singleton.mp hc).symm
  · split at hc
    · revert hc
      decide
    · next hne => exact hne (List.mem_singleton.mp hc).symm

theorem Value.wellFormed_enclosing {quote : Char} (h : isQuote quote = true) (value : Text) :
    (Value.enclosing quote value).WellFormed := by
  unfold enclosing
  split
  · next hmem => exact .quoted h hmem
  · split
    · next hmem => exact .quoted (isQuote_otherQuote quote) hmem
    · exact .quoted h (not_mem_escapeQuote h value)

theorem Value.text_enclosing {quote : Char} (h : isQuote quote = true) (value : Text) :
    (Value.enclosing quote value).text = readBack quote value := by
  unfold enclosing readBack
  rcases isQuote_iff.mp h with rfl | rfl
  · by_cases hdouble : '"' ∈ value
    · by_cases hsingle : '\'' ∈ value
      · simp [hdouble, hsingle, otherQuote, text]
      · simp [hdouble, hsingle, otherQuote, text]
    · simp [hdouble, text]
  · by_cases hsingle : '\'' ∈ value
    · by_cases hdouble : '"' ∈ value
      · simp [hdouble, hsingle, otherQuote, text]
      · simp [hdouble, hsingle, otherQuote, text]
    · simp [hsingle, text]

theorem Assignment.wellFormed_write {s : Assignment} (h : s.WellFormed) (value : Text) :
    (s.write value).WellFormed := by
  obtain ⟨gap, v⟩ := s
  cases h.value with
  | @quoted quote text hquote htext =>
    unfold write
    dsimp only
    split
    · exact ⟨h.gap, Value.wellFormed_enclosing hquote value⟩
    · next hmem => exact ⟨h.gap, .quoted hquote hmem⟩
  | unquoted hne htext => exact ⟨h.gap, Value.wellFormed_enclosing rfl value⟩

/-- A value that lacks one kind of quotes is read back as it is. -/
theorem readBack_of_not_mem {quote : Char} (h : isQuote quote = true) {value : Text}
    (hmem : quote ∉ value) (preferred : Char) : readBack preferred value = value := by
  unfold readBack
  rw [if_neg]
  rintro ⟨hdouble, hsingle⟩
  rcases isQuote_iff.mp h with rfl | rfl
  · exact hmem hdouble
  · exact hmem hsingle

/-- What is written to a well-formed attribute is read back from it. -/
theorem Attribute.WellFormed.entry_write {a : Attribute} (h : a.WellFormed) (value : Text) :
    (a.write value).entry = a.written value := by
  have hquote : isQuote '"' = true := rfl
  have hdouble := Value.text_enclosing hquote value
  obtain ⟨lead, name, assignment⟩ := a
  cases assignment with
  | none => simp [Attribute.entry, Attribute.write, Attribute.written, value?, quote?, hdouble]
  | some s =>
    obtain ⟨gap, v⟩ := s
    have hvalue := (h.assigned ⟨gap, v⟩ rfl).value
    cases hvalue with
    | @quoted quote text hquote htext =>
      by_cases hmem : quote ∈ value
      · have henclosing := Value.text_enclosing hquote value
        simp [Attribute.entry, Attribute.write, Attribute.written, value?, quote?,
          Assignment.write, Value.quote?, hmem, henclosing]
      · have hback := readBack_of_not_mem hquote hmem quote
        simp [Attribute.entry, Attribute.write, Attribute.written, value?, quote?,
          Assignment.write, Value.quote?, Value.text, hmem, hback]
    | unquoted hne htext =>
      simp [Attribute.entry, Attribute.write, Attribute.written, value?, quote?,
        Assignment.write, Value.quote?, hdouble]

theorem Attribute.WellFormed.write {a : Attribute} (h : a.WellFormed) (value : Text) :
    (a.write value).WellFormed := by
  have hadded : Assignment.WellFormed ⟨['='], .enclosing '"' value⟩ :=
    ⟨⟨[], [], by simp, by simp, rfl⟩, Value.wellFormed_enclosing rfl value⟩
  unfold Attribute.write
  split
  · next s hs =>
    refine ⟨h.lead_ne_nil, h.lead_blank, h.name_ne_nil, h.name_char, fun s' hs' => ?_⟩
    obtain rfl := Option.some.inj hs'
    exact Assignment.wellFormed_write (h.assigned s hs) value
  · refine ⟨h.lead_ne_nil, h.lead_blank, h.name_ne_nil, h.name_char, fun s' hs' => ?_⟩
    obtain rfl := Option.some.inj hs'
    exact hadded

/-! ### Reduced values -/

theorem mem_of_mem_trim {c : Char} {t : Text} (h : c ∈ trim t) : c ∈ t := by
  rw [trim, trimEnd, List.mem_reverse] at h
  have h := (List.dropWhile_suffix _).subset h
  rw [List.mem_reverse] at h
  exact (List.dropWhile_suffix _).subset h

theorem mem_of_mem_eraseFirst {c : Char} {part t : Text} (h : c ∈ eraseFirst part t) : c ∈ t := by
  unfold eraseFirst at h
  split at h
  · next before rest hbreak =>
    obtain ⟨rfl, -⟩ := eq_append_of_breakOn? hbreak
    rw [List.mem_append] at h ⊢
    rcases h with h | h
    · exact .inl h
    · exact .inr (List.mem_of_mem_drop h)
  · exact h

/-- A well-formed attribute has a value that lacks one kind of quotes. -/
theorem Attribute.WellFormed.exists_not_mem {a : Attribute} (h : a.WellFormed) {value : Text}
    (hvalue : a.value? = some value) : ∃ quote, isQuote quote = true ∧ quote ∉ value := by
  obtain ⟨s, hs, rfl⟩ := Option.map_eq_some_iff.mp hvalue
  obtain ⟨gap, v⟩ := s
  cases (h.assigned _ hs).value with
  | @quoted quote text hquote htext => exact ⟨quote, hquote, htext⟩
  | @unquoted text hne htext =>
    refine ⟨'"', rfl, fun hmem => ?_⟩
    have hbare := (isBareChar_iff.mp (htext '"' hmem)).2.1
    exact absurd hbare (by decide)

/-- A reduced value is read back as it is. -/
theorem Attribute.WellFormed.written_reduced {a : Attribute} (h : a.WellFormed) {value : Text}
    (hvalue : a.value? = some value) (part : Text) :
    a.written (trim (eraseFirst part value)) =
      (a.name, some (trim (eraseFirst part value))) := by
  obtain ⟨quote, hquote, hmem⟩ := h.exists_not_mem hvalue
  have hreduced : quote ∉ trim (eraseFirst part value) :=
    fun hmem' => hmem (mem_of_mem_eraseFirst (mem_of_mem_trim hmem'))
  rw [Attribute.written, readBack_of_not_mem hquote hreduced]

theorem Attribute.WellFormed.entry_reduced {a : Attribute} (h : a.WellFormed) (part : Text) :
    (a.reduced part).map Attribute.entry =
      match a.value? with
      | none => some a.entry
      | some value =>
        let reduced := trim (eraseFirst part value)
        if reduced = [] then none else some (a.name, some reduced) := by
  unfold Attribute.reduced
  cases hvalue : a.value? with
  | none => rfl
  | some value =>
    dsimp only
    split
    · rfl
    · split
      · next hsame => rw [hsame, Option.map_some, Attribute.entry, hvalue]
      · rw [Option.map_some, h.entry_write, h.written_reduced hvalue]

theorem Attribute.WellFormed.reduced {a b : Attribute} {part : Text} (h : a.WellFormed)
    (hb : a.reduced part = some b) : b.WellFormed := by
  unfold Attribute.reduced at hb
  split at hb
  · obtain rfl := Option.some.inj hb
    exact h
  · dsimp only at hb
    split at hb
    · simp at hb
    · split at hb
      · obtain rfl := Option.some.inj hb
        exact h
      · obtain rfl := Option.some.inj hb
        exact h.write _

/-! ### Revisions of a list of attributes -/

/-- A name that an attribute can be read with: it holds no blank, no `=` and no `>`. -/
def IsAttributeName (name : Text) : Prop :=
  name ≠ [] ∧ ∀ c ∈ name, isBlank c = false ∧ c ≠ '=' ∧ c ≠ '>'

/-- The parts of a head with some attributes and with blanks after them. -/
def partsOf (attrs : List Attribute) (tail : Text) : List HeadPart :=
  attrs.map .attr ++ if tail = [] then [] else [.filler tail]

theorem flatMap_text_partsOf (attrs : List Attribute) (tail : Text) :
    (partsOf attrs tail).flatMap HeadPart.text = innerOf attrs tail := by
  have htail : (if tail = [] then [] else [HeadPart.filler tail]).flatMap HeadPart.text = tail := by
    split
    · next hnil => simp [hnil]
    · simp [HeadPart.text]
  rw [partsOf, List.flatMap_append, htail, List.flatMap_map]
  rfl

theorem any_isNamed_partsOf (name : Text) (attrs : List Attribute) (tail : Text) :
    (partsOf attrs tail).any (HeadPart.isNamed name) = decide (∃ a ∈ attrs, a.name = name) := by
  have htail : (if tail = [] then [] else [HeadPart.filler tail]).any (HeadPart.isNamed name) =
      false := by
    split <;> simp [HeadPart.isNamed]
  rw [partsOf, List.any_append, htail, Bool.or_false, List.any_map, Bool.eq_iff_iff]
  simp [HeadPart.isNamed]

theorem mapAttrs_partsOf (f : Attribute → Option Attribute) (attrs : List Attribute)
    (tail : Text) :
    HeadPart.mapAttrs f (partsOf attrs tail) = partsOf (attrs.filterMap f) tail := by
  have htail : HeadPart.mapAttrs f (if tail = [] then [] else [.filler tail]) =
      if tail = [] then [] else [.filler tail] := by
    split <;> simp [HeadPart.mapAttrs]
  have hattrs : HeadPart.mapAttrs f (attrs.map .attr) = (attrs.filterMap f).map .attr := by
    rw [HeadPart.mapAttrs, List.filterMap_map, List.map_filterMap]
    rfl
  rw [partsOf, partsOf, HeadPart.mapAttrs, List.filterMap_append, ← HeadPart.mapAttrs,
    ← HeadPart.mapAttrs, htail, hattrs]

theorem add_partsOf (a : Attribute) (attrs : List Attribute) (tail : Text) :
    HeadPart.add a (partsOf attrs tail) = partsOf (attrs ++ [a]) tail := by
  induction attrs with
  | nil =>
    unfold partsOf
    split <;> simp [HeadPart.add, HeadPart.place]
  | cons b attrs ih =>
    simp only [partsOf, List.map_cons, List.cons_append, HeadPart.add] at ih ⊢
    rw [ih]

/-- What a revision leaves of the attributes of a tag: they have the entries that are asked for,
and can be read back. -/
structure Revised (attrs : List Attribute) (entries : List (Text × Option Text)) : Prop where
  entries_eq : attrs.map Attribute.entry = entries
  readable : ∀ a ∈ attrs, a.Readable
  noSlash : ∀ a ∈ attrs, a.text.getLast? ≠ some '/'

theorem Revised.of_wellFormed {attrs : List Attribute} (h : ∀ a ∈ attrs, a.WellFormed) :
    Revised attrs (attrs.map Attribute.entry) :=
  ⟨rfl, fun a ha => (h a ha).readable, fun a ha => (h a ha).getLast?_ne⟩

theorem Revised.append {attrs attrs' : List Attribute}
    {entries entries' : List (Text × Option Text)} (h : Revised attrs entries)
    (h' : Revised attrs' entries') :
    Revised (attrs ++ attrs') (entries ++ entries') := by
  refine ⟨?_, fun a ha => ?_, fun a ha => ?_⟩
  · rw [List.map_append, h.entries_eq, h'.entries_eq]
  · rcases List.mem_append.mp ha with ha | ha
    · exact h.readable a ha
    · exact h'.readable a ha
  · rcases List.mem_append.mp ha with ha | ha
    · exact h.noSlash a ha
    · exact h'.noSlash a ha

/-- An added attribute of a possible name is read back. -/
theorem Revised.added {name : Text} (h : IsAttributeName name) (value : Text) :
    Revised [.added name value] [(name, some (readBack '"' value))] := by
  have hquote : isQuote '"' = true := rfl
  have hvalue := Value.wellFormed_enclosing hquote value
  refine ⟨?_, fun a ha => ?_, fun a ha => ?_⟩
  · simp [Attribute.entry, Attribute.added, Attribute.value?, Value.text_enclosing hquote]
  · obtain rfl := List.mem_singleton.mp ha
    refine ⟨by simp [Attribute.added], by simp [Attribute.added, isBlank], h.1, h.2, fun s hs => ?_⟩
    obtain rfl := Option.some.inj hs
    exact ⟨⟨[], [], by simp, by simp, rfl⟩, hvalue⟩
  · obtain rfl := List.mem_singleton.mp ha
    have hlast := hvalue.getLast?_ne (' ' :: name ++ ['='])
    simpa [Attribute.added, Attribute.text, Attribute.assignmentText, Assignment.text] using hlast

theorem exists_writeFirst {attrs : List Attribute} (h : ∀ a ∈ attrs, a.WellFormed)
    (name value tail : Text) :
    ∃ attrs', HeadPart.writeFirst name value (partsOf attrs tail) = partsOf attrs' tail ∧
      Revised attrs' (writtenFirst name value attrs) := by
  induction attrs with
  | nil =>
    refine ⟨[], ?_, Revised.of_wellFormed h⟩
    unfold partsOf
    split <;> simp [HeadPart.writeFirst]
  | cons a attrs ih =>
    have ha := h a (by simp)
    have hattrs : ∀ b ∈ attrs, b.WellFormed := fun b hb => h b (by simp [hb])
    by_cases hname : a.name = name
    · refine ⟨a.write value :: attrs, ?_, ?_⟩
      · simp [partsOf, HeadPart.writeFirst, hname]
      · have hwrite : ∀ b ∈ a.write value :: attrs, b.WellFormed := by
          intro b hb
          rcases List.mem_cons.mp hb with rfl | hb
          · exact ha.write value
          · exact hattrs b hb
        have hrevised := Revised.of_wellFormed hwrite
        rw [List.map_cons, ha.entry_write] at hrevised
        rwa [writtenFirst, if_pos hname]
    · obtain ⟨attrs', hparts, hrevised⟩ := ih hattrs
      refine ⟨a :: attrs', ?_, ?_⟩
      · simp only [partsOf, List.map_cons, List.cons_append, HeadPart.writeFirst] at hparts ⊢
        rw [if_neg hname, hparts]
      · have hfirst : Revised [a] [a.entry] := Revised.of_wellFormed (by simpa using ha)
        rw [writtenFirst, if_neg hname]
        exact hfirst.append hrevised

/-- Each attribute is revised by itself. -/
theorem Revised.filterMap {attrs : List Attribute} (h : ∀ a ∈ attrs, a.WellFormed)
    {f : Attribute → Option Attribute} {entry : Attribute → Option (Text × Option Text)}
    (hf : ∀ a, a.WellFormed → (f a).map Attribute.entry = entry a)
    (hwf : ∀ a, a.WellFormed → ∀ b, f a = some b → b.WellFormed) :
    Revised (attrs.filterMap f) (attrs.filterMap entry) := by
  have hall : ∀ b ∈ attrs.filterMap f, b.WellFormed := by
    intro b hb
    obtain ⟨a, ha, hfa⟩ := List.mem_filterMap.mp hb
    exact hwf a (h a ha) b hfa
  have hrevised := Revised.of_wellFormed hall
  have hentries : (attrs.filterMap f).map Attribute.entry = attrs.filterMap entry := by
    rw [List.map_filterMap]
    exact List.filterMap_congr fun a ha => hf a (h a ha)
  rwa [hentries] at hrevised

namespace AttributeRevision

/-- An attribute that a revision adds has a name that it can be read with. -/
def Fits (attrs : List Attribute) : AttributeRevision → Prop
  | set name _ | extend name _ _ => (∃ a ∈ attrs, a.name = name) ∨ IsAttributeName name
  | remove _ | reduce _ _ => True

/-- The parts of a well-formed tag after a revision are again attributes and blanks. -/
theorem exists_revised {attrs : List Attribute} (h : ∀ a ∈ attrs, a.WellFormed) (tail : Text)
    (r : AttributeRevision) (hfits : r.Fits attrs) :
    ∃ attrs', r.onParts (partsOf attrs tail) = partsOf attrs' tail ∧
      Revised attrs' (r.entries attrs) := by
  cases r with
  | set name value =>
    rw [onParts, any_isNamed_partsOf, entries]
    by_cases hmem : ∃ a ∈ attrs, a.name = name
    · rw [if_pos (decide_eq_true hmem), if_pos hmem]
      exact exists_writeFirst h name value tail
    · rw [if_neg (by simpa using hmem), if_neg hmem]
      exact ⟨_, add_partsOf _ _ _, (Revised.of_wellFormed h).append
        (Revised.added (hfits.resolve_left hmem) value)⟩
  | remove name =>
    refine ⟨_, mapAttrs_partsOf _ _ _, ?_⟩
    rw [entries, ← List.filterMap_eq_map, List.filterMap_filter]
    refine Revised.filterMap h (fun a ha => ?_) fun a ha b hb => ?_
    · by_cases hname : a.name = name <;> simp [Attribute.ifNamed, hname]
    · unfold Attribute.ifNamed at hb
      split at hb
      · simp at hb
      · obtain rfl := Option.some.inj hb
        exact ha
  | reduce name part =>
    refine ⟨_, mapAttrs_partsOf _ _ _, ?_⟩
    refine Revised.filterMap h (fun a ha => ?_) fun a ha b hb => ?_
    · by_cases hname : a.name = name
      · rw [Attribute.ifNamed, if_pos hname, if_pos hname, ← hname]
        exact ha.entry_reduced part
      · simp [Attribute.ifNamed, hname]
    · unfold Attribute.ifNamed at hb
      split at hb
      · exact ha.reduced hb
      · obtain rfl := Option.some.inj hb
        exact ha
  | extend name value glue =>
    rw [onParts, any_isNamed_partsOf, entries]
    by_cases hmem : ∃ a ∈ attrs, a.name = name
    · rw [if_pos (decide_eq_true hmem), if_pos hmem]
      refine ⟨_, mapAttrs_partsOf _ _ _, ?_⟩
      rw [← List.filterMap_eq_map]
      refine Revised.filterMap h (fun a ha => ?_) fun a ha b hb => ?_
      · by_cases hname : a.name = name
        · simp [Attribute.ifNamed, hname, Attribute.extended, Draft.extended, ha.entry_write]
        · simp [Attribute.ifNamed, hname]
      · unfold Attribute.ifNamed at hb
        split at hb
        · obtain rfl := Option.some.inj hb
          exact ha.write _
        · obtain rfl := Option.some.inj hb
          exact ha
    · rw [if_neg (by simpa using hmem), if_neg hmem]
      exact ⟨_, add_partsOf _ _ _, (Revised.of_wellFormed h).append
        (Revised.added (hfits.resolve_left hmem) (trim value))⟩

end AttributeRevision

/-! ### Revisions of a tag -/

/-- The value that is read at an element is the one that its tag has for the name. -/
theorem attributeValue_of_headAt? {draft : Draft} {span : Span} {start : Nat} {tag : OpenTag}
    (hlocate : draft.locate = .ok span) (hstart : span.head.start = start)
    (hhead : headAt? draft.document start = some ⟨start, tag⟩) (name : Text) :
    draft.attributeValue name = .ok (valueIn name (tag.attributes.map Attribute.entry)) := by
  obtain ⟨before, after, hdoc, hbefore, hread⟩ := (located_of_draft hlocate).opening
  have htag : span.head.tag = tag := by
    rw [hdoc, ← hstart, hbefore, headAt?, tokenAt?_append before hread] at hhead
    simpa [Token.head?] using hhead
  have hfind : (span.head.find? name).map (·.attr) =
      (tag.attributes.find? fun a => a.name == name) := by
    rw [← htag, ← span.head.map_attr_attributes, List.find?_map, Head.find?]
    rfl
  have hentry : (tag.attributes.map Attribute.entry).find? (fun entry => entry.1 == name) =
      (tag.attributes.find? fun a => a.name == name).map Attribute.entry := by
    rw [List.find?_map]
    rfl
  have hvalue : draft.attributeValue name =
      .ok (((span.head.find? name).bind (·.attr.value?)).getD []) := by
    rw [Draft.attributeValue, hlocate]
    rfl
  rw [hvalue, valueIn, hentry, ← hfind]
  cases span.head.find? name <;> rfl

/-- A revision of the attributes of a well-formed opening tag leaves the tag's name and whether it
is self-closing, and of its attributes the entries that the revision asks for, in their order. A
draft of the revised document that locates the tag reads the values of these entries. -/
theorem AttributeRevision.run_opening [Digest] {draft : Draft} {span : Span} {o : Opening}
    {sc : Bool} (located : draft.locate = .ok span) (written : span.head.tag = o.tag sc)
    (r : AttributeRevision) (fits : r.Fits o.attrs) :
    ∃ revised tag, r.run draft = .ok revised ∧
      headAt? revised.document span.head.start = some ⟨span.head.start, tag⟩ ∧
      tag.name = o.name ∧ tag.selfClosing = sc ∧
      tag.attributes.map Attribute.entry = r.entries o.attrs ∧
      ∀ (later : Draft) (place : Span), later.document = revised.document →
        later.locate = .ok place → place.head.start = span.head.start →
          ∀ name, later.attributeValue name = .ok (valueIn name (r.entries o.attrs)) := by
  obtain ⟨before, after, hdoc, hstart, -⟩ := (located_of_draft located).opening
  obtain ⟨attrs, hparts, hrevised⟩ := exists_revised o.attrs_wellFormed o.tail r fits
  have hreadable : ∀ a ∈ o.attrs, a.Readable := fun a ha => (o.attrs_wellFormed a ha).readable
  have hread : HeadPart.readAll (innerOf o.attrs o.tail) = partsOf o.attrs o.tail :=
    readAll_innerOf hreadable o.tail_blank
  have htag : r.onTag span.head.tag = ⟨o.name, innerOf attrs o.tail, sc⟩ := by
    rw [written, onTag]
    simp only [Opening.tag, hread, hparts, flatMap_text_partsOf]
  have hrun := r.run_of_locate located hdoc hstart
  rw [htag] at hrun
  have htoken := read?_openTag ⟨o.name, innerOf attrs o.tail, sc⟩ o.isName rfl
    hrevised.readable o.tail_blank
    (fun _ => getLast?_innerOf_ne hrevised.noSlash o.tail_blank) after
  have hhead : headAt? (before ++ (OpenTag.text ⟨o.name, innerOf attrs o.tail, sc⟩ ++ after))
      span.head.start = some ⟨span.head.start, ⟨o.name, innerOf attrs o.tail, sc⟩⟩ := by
    rw [headAt?, hstart, tokenAt?_append before htoken]
    rfl
  have hentries : (OpenTag.attributes ⟨o.name, innerOf attrs o.tail, sc⟩).map Attribute.entry =
      r.entries o.attrs := by
    rw [attributes_innerOf hrevised.readable o.tail_blank, hrevised.entries_eq]
  refine ⟨_, _, hrun, hhead, rfl, rfl, hentries, fun later place hlater hlocate hsame name => ?_⟩
  dsimp only at hlater
  rw [← hlater] at hhead
  rw [attributeValue_of_headAt? hlocate hsame hhead, hentries]

/-- A value that holds both kinds of quotes, written to the first of two attributes of a name. -/
theorem AttributeRevision.run_opening_both_quotes :
    let _ := Digest.multiplicative
    let doc := "<x a='1' b a=2/>".toList
    ∃ revised tag, (set "a".toList "\"it's\"".toList).run ⟨doc, doc, some (.tag "x".toList)⟩ =
        .ok revised ∧
      headAt? revised.document 0 = some ⟨0, tag⟩ ∧
      tag.name = "x".toList ∧ tag.selfClosing = true ∧
      tag.attributes.map Attribute.entry = [("a".toList, some "\"it&#39;s\"".toList),
        ("b".toList, none), ("a".toList, some "2".toList)] := by
  intro digest doc
  let o : Opening :=
    { name := "x".toList
      attrs := [⟨" ".toList, "a".toList, some ⟨"=".toList, .quoted '\'' "1".toList true⟩⟩,
        ⟨" ".toList, "b".toList, none⟩,
        ⟨" ".toList, "a".toList, some ⟨"=".toList, .unquoted "2".toList⟩⟩]
      tail := []
      isName := ⟨'x', [], rfl, rfl, by simp⟩
      attrs_wellFormed := by
        have hequals : ∃ before after : Text, (∀ c ∈ before, isBlank c = true) ∧
            (∀ c ∈ after, isBlank c = true) ∧ "=".toList = before ++ '=' :: after :=
          ⟨[], [], by simp, by simp, rfl⟩
        intro a ha
        simp only [List.mem_cons, List.not_mem_nil, or_false] at ha
        rcases ha with rfl | rfl | rfl
        · refine ⟨by simp, List.all_eq_true.mp rfl, by decide, List.all_eq_true.mp rfl,
            fun s hs => ?_⟩
          obtain rfl := Option.some.inj hs
          exact ⟨hequals, .quoted rfl (by decide)⟩
        · exact ⟨by simp, List.all_eq_true.mp rfl, by decide, List.all_eq_true.mp rfl, by simp⟩
        · refine ⟨by simp, List.all_eq_true.mp rfl, by decide, List.all_eq_true.mp rfl,
            fun s hs => ?_⟩
          obtain rfl := Option.some.inj hs
          exact ⟨hequals, .unquoted (by decide) (List.all_eq_true.mp rfl)⟩
      tail_blank := by simp }
  have located : Draft.locate ⟨doc, doc, some (.tag "x".toList)⟩ =
      .ok ⟨⟨0, o.tag true⟩, none⟩ := by decide +kernel
  have written : Head.tag ⟨0, o.tag true⟩ = o.tag true := rfl
  obtain ⟨revised, tag, hrun, hhead, hname, hsc, hentries, -⟩ :=
    run_opening located written (set "a".toList "\"it's\"".toList) (.inl (by decide))
  refine ⟨revised, tag, hrun, hhead, hname, hsc, hentries.trans ?_⟩
  decide

/-- A name that no attribute can be read with is not added as an attribute: `a b` is read as two. -/
theorem AttributeRevision.not_run_opening_of_any_name :
    let _ := Digest.multiplicative
    ¬∀ (draft : Draft) (span : Span) (o : Opening) (sc : Bool), draft.locate = .ok span →
      span.head.tag = o.tag sc → ∀ r : AttributeRevision,
        ∃ revised tag, r.run draft = .ok revised ∧
          headAt? revised.document span.head.start = some ⟨span.head.start, tag⟩ ∧
          tag.attributes.map Attribute.entry = r.entries o.attrs := by
  intro digest hall
  let o : Opening := ⟨"x".toList, [], [], ⟨'x', [], rfl, rfl, by simp⟩, by simp, by simp⟩
  let draft : Draft := ⟨"<x></x>".toList, "<x></x>".toList, some (.tag "x".toList)⟩
  obtain ⟨revised, tag, hrun, hhead, hentries⟩ := hall draft ⟨⟨0, o.tag false⟩, some ⟨3, 7⟩⟩ o
    false (by decide +kernel) rfl (set "a b".toList "v".toList)
  have hwritten : (set "a b".toList "v".toList).run draft =
      .ok { draft with document := "<x a b=\"v\"></x>".toList } := by decide +kernel
  rw [hwritten] at hrun
  obtain rfl := Except.ok.inj hrun
  have hread : headAt? "<x a b=\"v\"></x>".toList 0 =
      some ⟨0, ⟨"x".toList, " a b=\"v\"".toList, false⟩⟩ := by decide +kernel
  obtain rfl : ⟨"x".toList, " a b=\"v\"".toList, false⟩ = tag := by
    simpa using hread.symm.trans hhead
  revert hentries
  decide +kernel

end Graft.Markup
