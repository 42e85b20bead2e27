import Graft.Proofs.CleanHead

/-! The value of an attribute after it has been set. It is written to the first attribute of its
name or added behind the last one, and is read back unless the attribute that it is added behind is
still without its own value. -/

namespace Graft.Markup

open Text

/-! ### Written attributes -/

/-- A value that lacks one kind of quotes is written between quotes that it does not hold. -/
theorem Value.exists_enclosing (preferred : Char) (hpreferred : isQuote preferred = true)
    {quote : Char} {value : Text} (hquote : isQuote quote = true) (lacks : quote ∉ value) :
    ∃ q, isQuote q = true ∧ q ∉ value ∧ enclosing preferred value = .quoted q value true := by
  by_cases hmem : preferred ∈ value
  · have hother : otherQuote preferred ∉ value := by
      obtain rfl | rfl := isQuote_iff.mp hquote <;> obtain rfl | rfl := isQuote_iff.mp hpreferred
      · exact absurd hmem lacks
      · exact lacks
      · exact lacks
      · exact absurd hmem lacks
    refine ⟨_, isQuote_otherQuote preferred, hother, ?_⟩
    rw [enclosing, if_neg (not_not.mpr hmem), if_pos hother]
  · exact ⟨preferred, hpreferred, hmem, if_pos hmem⟩

theorem Assignment.exists_write (gap : Text) {quote : Char} {value rest : Text} {v : Value}
    (hquote : isQuote quote = true) (lacks : quote ∉ value) (hvalue : v.Reads rest) :
    ∃ q ended, Assignment.write ⟨gap, v⟩ value = ⟨gap, .quoted q value ended⟩ ∧
      isQuote q = true ∧ q ∉ value ∧ (ended = false → ∃ q' t, v = .quoted q' t false) := by
  cases v with
  | unquoted t =>
    obtain ⟨q, hq, hmem, henclosing⟩ := Value.exists_enclosing '"' rfl hquote lacks
    exact ⟨q, true, by rw [write, henclosing], hq, hmem, by simp⟩
  | quoted q' t ended =>
    have hq' : isQuote q' = true := by
      cases hvalue with
      | quoted hquote' _ => exact hquote'
      | unended hquote' _ => exact hquote'
    by_cases hmem : q' ∈ value
    · obtain ⟨q, hq, hnot, henclosing⟩ := Value.exists_enclosing q' hq' hquote lacks
      exact ⟨q, true, by simp [write, hmem, henclosing], hq, hnot, by simp⟩
    · exact ⟨q', ended, by simp [write, hmem], hq', hmem, fun hended => ⟨q', t, by rw [hended]⟩⟩

/-- An attribute that has a value between quotes, the last of which may be missing at the end of the
text. -/
structure Attribute.Holds (a : Attribute) (value : Text) (ended : Bool) : Prop where
  lead_blank : ∀ c ∈ a.lead, isBlank c = true
  isName : HeadPart.IsName a.name
  assigned : ∃ before after quote,
    a.assignment = some ⟨before ++ '=' :: after, .quoted quote value ended⟩ ∧
      (∀ c ∈ before, isBlank c = true) ∧ (∀ c ∈ after, isBlank c = true) ∧
      isQuote quote = true ∧ quote ∉ value

namespace Attribute

section Write

variable {a : Attribute} {rest value : Text} {quote : Char} (hquote : isQuote quote = true)
  (lacks : quote ∉ value)

theorem write_lead (a : Attribute) (value : Text) : (a.write value).lead = a.lead := by
  unfold write
  split <;> rfl

theorem write_name (a : Attribute) (value : Text) : (a.write value).name = a.name := by
  unfold write
  split <;> rfl

theorem Holds.value? {ended : Bool} (h : a.Holds value ended) : a.value? = some value := by
  obtain ⟨before, after, quote, ha, -⟩ := h.assigned
  rw [Attribute.value?, ha]
  rfl

theorem Holds.write {ended : Bool} (h : a.Holds value ended) : a.write value = a := by
  obtain ⟨before, after, quote, ha, -, -, -, hmem⟩ := h.assigned
  obtain ⟨lead, name, assignment⟩ := a
  obtain rfl : assignment = _ := ha
  simp [Attribute.write, Assignment.write, hmem]

theorem Holds.quote?_isSome {ended : Bool} (h : a.Holds value ended) : a.quote?.isSome = true := by
  obtain ⟨before, after, quote, ha, -⟩ := h.assigned
  rw [quote?, ha]
  rfl

theorem Holds.noStray {ended : Bool} {parts : List HeadPart} (h : a.Holds value ended)
    (hparts : hasStrayEquals parts = false) : hasStrayEquals (.attr a :: parts) = false := by
  rw [hasStrayEquals, HeadPart.loose, if_pos h.quote?_isSome, hparts]
  rfl

theorem Holds.getLast? (h : a.Holds value true) :
    ∃ quote, a.text.getLast? = some quote ∧ isQuote quote = true := by
  obtain ⟨before, after, quote, ha, -, -, hquote, -⟩ := h.assigned
  have htext : a.text =
      a.lead ++ a.name ++ (before ++ '=' :: after) ++ quote :: value ++ [quote] := by
    simp [Attribute.text, ha, assignmentText, Assignment.text, Value.written]
  exact ⟨quote, by rw [htext, List.getLast?_concat], hquote⟩

theorem Holds.reads {ended : Bool} (h : a.Holds value ended) (hrest : ended = false → rest = []) :
    (HeadPart.attr a).Reads rest := by
  obtain ⟨before, after, quote, ha, hbefore, hafter, hquote, hmem⟩ := h.assigned
  obtain ⟨lead, name, assignment⟩ := a
  obtain rfl : assignment = _ := ha
  refine .assigned h.lead_blank h.isName hbefore hafter ?_
  cases ended with
  | true => exact .quoted hquote hmem
  | false =>
    obtain rfl := hrest rfl
    exact .unended hquote hmem

theorem Holds.isOpen {ended : Bool} (h : a.Holds value ended) :
    (HeadPart.attr a).isOpen = !ended := by
  obtain ⟨before, after, quote, ha, -⟩ := h.assigned
  rw [HeadPart.isOpen, ha]
  rfl

theorem Holds.legible {ended : Bool} {parts : List HeadPart} (h : a.Holds value ended)
    (hparts : ended = false → parts = []) (hlegible : HeadPart.Legible parts) :
    HeadPart.Legible (.attr a :: parts) := by
  have hreads : (HeadPart.attr a).Reads (parts.flatMap HeadPart.text) :=
    h.reads fun hended => by rw [hparts hended, List.flatMap_nil]
  refine .cons hreads (fun hopen => ?_) hlegible
  · rw [h.isOpen, Bool.not_eq_true'] at hopen
    exact hparts hopen

/-- An attribute with its value between quotes is sound when no `>` is in its name. -/
theorem Holds.sound (h : a.Holds value true) (hname : '>' ∉ a.name) : (HeadPart.attr a).Sound where
  reads := ⟨[], h.reads (by simp)⟩
  ended := by
    obtain ⟨before, after, quote, ha, -⟩ := h.assigned
    rintro b gap' quote' text' ended' hb hb'
    obtain rfl := HeadPart.attr.inj hb
    rw [ha] at hb'
    cases hb'
    rfl
  noEnd := by
    rw [HeadPart.unquoted, if_pos h.quote?_isSome, List.mem_append, not_or]
    exact ⟨fun hmem => absurd (h.lead_blank _ hmem) (by decide), hname⟩

include hquote lacks

theorem holds_write (h : (HeadPart.attr a).Reads rest) :
    ∃ ended, (a.write value).Holds value ended ∧
      (ended = false → (HeadPart.attr a).isOpen = true ∧ ¬(HeadPart.attr a).IsEnded) := by
  cases h with
  | @bare lead name rest hlead hname hends =>
    obtain ⟨q, hq, hmem, henclosing⟩ := Value.exists_enclosing '"' rfl hquote lacks
    refine ⟨true, ⟨hlead, hname, [], [], q, ?_, by simp, by simp, hq, hmem⟩, by simp⟩
    simp [Attribute.write, henclosing]
  | @assigned lead name before after rest v hlead hname hbefore hafter hvalue =>
    obtain ⟨q, ended, hwrite, hq, hmem, hopen⟩ :=
      Assignment.exists_write (before ++ '=' :: after) hquote lacks hvalue
    refine ⟨ended, ⟨hlead, hname, before, after, q, ?_, hbefore, hafter, hq, hmem⟩,
      fun hended => ?_⟩
    · simp [Attribute.write, hwrite]
    · obtain ⟨q', t, rfl⟩ := hopen hended
      refine ⟨rfl, fun hended' => ?_⟩
      cases hended' _ _ q' t false rfl rfl

theorem holds_added {name : Text} (hname : HeadPart.IsName name) :
    (Attribute.added name value).Holds value true := by
  obtain ⟨q, hq, hmem, henclosing⟩ := Value.exists_enclosing '"' rfl hquote lacks
  refine ⟨by simp [added, isBlank], hname, [], [], q, ?_, by simp, by simp, hq, hmem⟩
  simp [added, henclosing]

end Write

end Attribute

/-! ### A value that is set among parts -/

namespace HeadPart

/-- How the value of a name is set among parts: it is written to the first attribute of the name, or
else an attribute is added behind the last one. -/
inductive SetsIn (name value : Text) : List HeadPart → List HeadPart → Prop
  | written {a : Attribute} {before after : List HeadPart} :
      (∀ part ∈ before, isNamed name part = false) → a.name = name →
      SetsIn name value (before ++ .attr a :: after) (before ++ .attr (a.write value) :: after)
  | first {parts : List HeadPart} : parts.filterMap attr? = [] →
      SetsIn name value parts (.attr (.added name value) :: parts)
  | added {b : Attribute} {before after : List HeadPart} :
      (∀ part ∈ before ++ [.attr b], isNamed name part = false) → after.filterMap attr? = [] →
      SetsIn name value (before ++ .attr b :: after)
        (before ++ .attr b :: .attr (.added name value) :: after)

theorem exists_split_of_isNamed {name : Text} {parts : List HeadPart}
    (h : parts.any (isNamed name) = true) :
    ∃ before a after, parts = before ++ .attr a :: after ∧ a.name = name ∧
      ∀ part ∈ before, isNamed name part = false := by
  rw [List.any_eq_true, ← List.find?_isSome] at h
  obtain ⟨part, hfind⟩ := Option.isSome_iff_exists.mp h
  obtain ⟨hnamed, before, after, rfl, hbefore⟩ := List.find?_eq_some_iff_append.mp hfind
  cases part with
  | filler t => cases hnamed
  | attr a =>
    have ha : a.name = name := by simpa [isNamed] using hnamed
    exact ⟨before, a, after, rfl, ha, fun p hp => by simpa using hbefore p hp⟩

theorem writeFirst_append {name : Text} {before : List HeadPart} {a : Attribute}
    (hbefore : ∀ part ∈ before, isNamed name part = false) (ha : a.name = name) (value : Text)
    (after : List HeadPart) :
    writeFirst name value (before ++ .attr a :: after) =
      before ++ .attr (a.write value) :: after := by
  induction before with
  | nil => rw [List.nil_append, writeFirst, if_pos ha, List.nil_append]
  | cons part before ih =>
    obtain ⟨hpart, hbefore'⟩ := List.forall_mem_cons.mp hbefore
    cases part with
    | filler t => rw [List.cons_append, writeFirst, ih hbefore', List.cons_append]
    | attr b =>
      have hne : b.name ≠ name := by simpa [isNamed] using hpart
      rw [List.cons_append, writeFirst, if_neg hne, ih hbefore', List.cons_append]

theorem attr_not_mem {parts : List HeadPart} (h : parts.filterMap attr? = []) (a : Attribute) :
    attr a ∉ parts := by
  rw [← mem_filterMap_attr?, h]
  exact List.not_mem_nil

theorem isEmpty_place (parts : List HeadPart) :
    (place 0 parts).isEmpty = (parts.filterMap attr?).isEmpty := by
  rw [← List.isEmpty_map (f := (·.attr)), map_attr_place]
  rfl

theorem add_cases (a : Attribute) (parts : List HeadPart) :
    parts.filterMap attr? = [] ∧ add a parts = .attr a :: parts ∨
    ∃ before b after, parts = before ++ .attr b :: after ∧ after.filterMap attr? = [] ∧
      add a parts = before ++ .attr b :: .attr a :: after := by
  induction parts with
  | nil => exact .inl ⟨rfl, rfl⟩
  | cons part parts ih =>
    cases part with
    | filler t =>
      rw [add, isEmpty_place]
      obtain ⟨hnone, -⟩ | ⟨before, b, after, rfl, hnone, hadd⟩ := ih
      · exact .inl ⟨hnone, by rw [hnone]; rfl⟩
      · refine .inr ⟨.filler t :: before, b, after, rfl, hnone, ?_⟩
        rw [hadd, List.filterMap_append]
        simp [attr?]
    | attr c =>
      right
      obtain ⟨hnone, hadd⟩ | ⟨before, b, after, rfl, hnone, hadd⟩ := ih
      · exact ⟨[], c, parts, rfl, hnone, by rw [add, hadd]; rfl⟩
      · exact ⟨.attr c :: before, b, after, rfl, hnone, by rw [add, hadd]; rfl⟩

theorem setsIn_onParts (name value : Text) (parts : List HeadPart) :
    SetsIn name value parts ((AttributeRevision.set name value).onParts parts) := by
  rw [AttributeRevision.onParts]
  cases hany : parts.any (isNamed name) with
  | true =>
    obtain ⟨before, a, after, rfl, ha, hbefore⟩ := exists_split_of_isNamed hany
    rw [if_pos rfl, writeFirst_append hbefore ha]
    exact .written hbefore ha
  | false =>
    rw [if_neg Bool.false_ne_true]
    obtain ⟨hnone, hadd⟩ | ⟨before, b, after, rfl, hnone, hadd⟩ :=
      add_cases (.added name value) parts
    · rw [hadd]
      exact .first hnone
    · rw [hadd]
      refine .added (fun part hpart => ?_) hnone
      rw [List.any_eq_false] at hany
      have hmem : part ∈ before ++ .attr b :: after := by
        rw [List.append_cons]
        exact List.mem_append_left _ hpart
      simpa using hany part hmem

theorem valueIn_entries_append {name : Text} {before after : List HeadPart} {a : Attribute}
    (hbefore : ∀ part ∈ before, isNamed name part = false) (ha : a.name = name) :
    valueIn name (entries (before ++ .attr a :: after)) = a.value?.getD [] := by
  induction before with
  | nil => simp [valueIn, entries, attr?, Attribute.entry, ha]
  | cons part before ih =>
    obtain ⟨hpart, hbefore'⟩ := List.forall_mem_cons.mp hbefore
    cases part with
    | filler t => exact ih hbefore'
    | attr b =>
      have hne : b.name ≠ name := by simpa [isNamed] using hpart
      rw [← ih hbefore']
      simp [valueIn, entries, attr?, Attribute.entry, hne]

/-- A name that an attribute can be added with, and a value that lacks one kind of quotes. -/
structure Writable (name value : Text) : Prop where
  ne_nil : name ≠ []
  char : ∀ c ∈ name, isAttrChar c = true
  lacks : ∃ quote, isQuote quote = true ∧ quote ∉ value

section Added

variable {name value cs : Text} {b : Attribute} {before after : List HeadPart}

theorem not_named_of_last (hbefore : ∀ part ∈ before ++ [attr b], isNamed name part = false)
    (hnone : after.filterMap attr? = []) :
    ¬∃ a, attr a ∈ before ++ attr b :: after ∧ a.name = name := by
  rintro ⟨a, ha, hname⟩
  rw [List.append_cons, List.mem_append] at ha
  obtain ha | ha := ha
  · simpa [isNamed, hname] using hbefore _ ha
  · exact attr_not_mem hnone a ha

/-- No attribute but the last one can be open. -/
theorem isOpen_last_iff (hparts : readAll cs = before ++ attr b :: after)
    (hnone : after.filterMap attr? = []) : (attr b).isOpen = false ↔
      ∀ a, attr a ∈ before ++ attr b :: after → (attr a).isOpen = false := by
  refine ⟨fun hclosed a ha => ?_, fun hclosed => hclosed b (by simp)⟩
  obtain ha | ha := List.mem_append.mp ha
  · exact (front_of_readAll hparts _ ha).2
  · obtain ha | ha := List.mem_cons.mp ha
    · rw [ha]
      exact hclosed
    · exact absurd ha (attr_not_mem hnone a)

variable (hw : Writable name value)

include hw

theorem Writable.isName : IsName name := by
  refine ⟨hw.ne_nil, fun c hc => ?_⟩
  obtain ⟨hblank, -, hequals, -⟩ := isAttrChar_iff.mp (hw.char c hc)
  simp [isNameChar, hblank, hequals]

theorem Writable.holds_added : (Attribute.added name value).Holds value true := by
  obtain ⟨quote, hquote, lacks⟩ := hw.lacks
  exact Attribute.holds_added hquote lacks hw.isName

theorem Writable.holds_write {a : Attribute} {rest : Text} (h : (attr a).Reads rest) :
    ∃ ended, (a.write value).Holds value ended ∧
      (ended = false → (attr a).isOpen = true ∧ ¬(attr a).IsEnded) := by
  obtain ⟨quote, hquote, lacks⟩ := hw.lacks
  exact Attribute.holds_write hquote lacks h

theorem Writable.end_not_mem : '>' ∉ name :=
  fun hmem => (isAttrChar_iff.mp (hw.char _ hmem)).2.2.2.2.2 rfl

theorem Writable.endsAt_added (rest : Text) : (attr (.added name value)).endsAt rest = true :=
  (hw.holds_added.reads (by simp)).endsAt

theorem Writable.indented_added : Indented (Attribute.added name value).text := by
  obtain ⟨c, cs, rfl⟩ := List.exists_cons_of_ne_nil hw.ne_nil
  obtain ⟨hblank, hquote, -⟩ := isAttrChar_iff.mp (hw.char c List.mem_cons_self)
  refine ⟨[' '], c, cs ++ Attribute.assignmentText (Attribute.added (c :: cs) value).assignment,
    ?_, by simp, by simp [isBlank], hblank, hquote⟩
  simp [Attribute.added, Attribute.text]

theorem Writable.head?_dropWhile_added (parts : List HeadPart) :
    (((attr (.added name value) :: parts).flatMap text).dropWhile isBlank).head? = name.head? := by
  obtain ⟨c, cs, rfl⟩ := List.exists_cons_of_ne_nil hw.ne_nil
  obtain ⟨hblank, -⟩ := isAttrChar_iff.mp (hw.char c List.mem_cons_self)
  have hspace : isBlank ' ' = true := rfl
  simp [text, Attribute.added, Attribute.text, hspace, hblank]

theorem Writable.opensQuote_added (parts : List HeadPart) :
    opensQuote ((attr (.added name value) :: parts).flatMap text) = false := by
  rw [opensQuote, hw.head?_dropWhile_added]
  obtain ⟨c, cs, rfl⟩ := List.exists_cons_of_ne_nil hw.ne_nil
  exact (isAttrChar_iff.mp (hw.char c List.mem_cons_self)).2.1

/-- An attribute goes on with the one that is added behind it when it is open. -/
theorem Writable.endsAt_before_added {rest : Text} (hreads : (attr b).Reads rest) :
    (attr b).endsAt ((attr (.added name value) :: after).flatMap text) = true ↔
      (attr b).isOpen = false := by
  constructor
  · intro hends
    rw [← Bool.not_eq_true]
    intro hopen
    have hnil := eq_nil_of_endsAt hends hopen
    simp [text, Attribute.text, Attribute.added] at hnil
  · intro hclosed
    have hindented : Indented ((attr (.added name value) :: after).flatMap text) :=
      hw.indented_added.append _
    refine hreads.endsAt_indented hclosed hindented ?_
    rw [hw.head?_dropWhile_added]
    intro heq
    have hequals := hw.isName.2 '=' (List.mem_of_mem_head? heq)
    cases hequals

theorem Writable.apart_added_iff (hparts : readAll cs = before ++ attr b :: after) :
    apart (before ++ attr b :: attr (.added name value) :: after) = true ↔
      (attr b).isOpen = false := by
  have hreads := reads_of_readAll hparts
  have hall : apart (before ++ attr b :: after) = true := hparts ▸ apart_readAll cs
  rw [← hw.endsAt_before_added hreads]
  constructor
  · intro hapart
    exact (Bool.and_eq_true_iff.mp (apart_of_append hapart)).1
  · intro hends
    refine apart_append (sameStart_attr hreads.isName rfl rfl) hall ?_
    rw [apart, hends, apart, hw.endsAt_added, apart_after hparts]
    rfl

theorem Writable.noStray_added (hreads : (attr b).Reads (after.flatMap text))
    (hstray : hasStrayEquals (before ++ attr b :: after) = false) :
    hasStrayEquals (before ++ attr b :: attr (.added name value) :: after) = false := by
  obtain ⟨hb, hafter⟩ := Bool.or_eq_false_iff.mp (noStray_of_append hstray)
  refine noStray_append (sameStart_attr hreads.isName rfl rfl) hstray ?_
  rw [hasStrayEquals, hw.holds_added.noStray hafter, Bool.or_false]
  refine equalsBeforeQuote_mono (fun hopens => ?_) hb
  rw [hw.opensQuote_added] at hopens
  cases hopens

end Added

section Set

variable {name value cs : Text} {parts parts' : List HeadPart} (hw : Writable name value)
  (hset : SetsIn name value parts parts') (hparts : readAll cs = parts)

include hset hparts

/-- The parts begin as before, or with the blank of the attribute that is added. -/
theorem SetsIn.head?_cases : (parts'.flatMap text).head? = some ' ' ∨
    (parts'.flatMap text).head? = (parts.flatMap text).head? := by
  have hsame {before after after' : List HeadPart} {a b : Attribute}
      (hparts : readAll cs = before ++ attr a :: after) (hlead : b.lead = a.lead)
      (hname : b.name = a.name) : ((before ++ attr b :: after').flatMap text).head? =
        ((before ++ attr a :: after).flatMap text).head? := by
    have hstart : SameStart ((attr a :: after).flatMap text) ((attr b :: after').flatMap text) :=
      sameStart_attr (reads_of_readAll hparts).isName hlead hname
    rw [List.flatMap_append, List.flatMap_append]
    exact (hstart.append _).head.symm
  cases hset with
  | @written a before after hbefore ha =>
    exact .inr (hsame hparts (a.write_lead value) (a.write_name value))
  | first hnone => exact .inl rfl
  | added hbefore hnone => exact .inr (hsame hparts rfl rfl)

include hw

/-- The parts hold the value in the first attribute of the name. What comes after it is as it was,
and the value ends with its quote where all values did. -/
theorem SetsIn.exists_holds : ∃ front earlier a after ended,
    parts' = front ++ .attr a :: after ∧ parts = earlier ++ after ∧ a.name = name ∧
    (∀ part ∈ front, isNamed name part = false) ∧ a.Holds value ended ∧
    ((∀ part ∈ parts, part.IsEnded) → ended = true) := by
  have hadded := hw.holds_added
  cases hset with
  | @written a before after hbefore ha =>
    obtain ⟨ended, hholds, hopen⟩ := hw.holds_write (reads_of_readAll hparts)
    refine ⟨before, before ++ [.attr a], _, after, ended, rfl, List.append_cons .., ?_, hbefore,
      hholds, fun hended => ?_⟩
    · rw [Attribute.write_name, ha]
    · rw [← Bool.not_eq_false]
      exact fun heq => (hopen heq).2 (hended _ (by simp))
  | first hnone => exact ⟨[], [], _, parts, true, rfl, rfl, rfl, by simp, hadded, fun _ => rfl⟩
  | @added b before after hbefore hnone =>
    exact ⟨before ++ [.attr b], before ++ [.attr b], _, after, true, List.append_cons ..,
      List.append_cons .., rfl, hbefore, hadded, fun _ => rfl⟩

theorem SetsIn.valueIn_entries : valueIn name (entries parts') = value := by
  obtain ⟨front, -, a, after, ended, rfl, -, ha, hfront, hholds, -⟩ := hset.exists_holds hw hparts
  rw [valueIn_entries_append hfront ha, hholds.value?]
  rfl

theorem SetsIn.onParts_eq : (AttributeRevision.set name value).onParts parts' = parts' := by
  obtain ⟨front, -, a, after, ended, rfl, -, ha, hfront, hholds, -⟩ := hset.exists_holds hw hparts
  have hany : (front ++ .attr a :: after).any (isNamed name) = true := by simp [isNamed, ha]
  rw [AttributeRevision.onParts, if_pos hany, writeFirst_append hfront ha, hholds.write]

theorem SetsIn.legible : Legible parts' := by
  have hadded := hw.holds_added
  cases hset with
  | @written a before after hbefore ha =>
    obtain ⟨ended, hholds, hopen⟩ := hw.holds_write (reads_of_readAll hparts)
    have hafter : ended = false → after = [] :=
      fun hended => eq_nil_of_isOpen hparts (hopen hended).1
    exact legible_append (front_of_readAll hparts) (hholds.legible hafter (legible_after hparts))
  | first hnone =>
    have hall : Legible parts := hparts ▸ legible_readAll cs
    exact hadded.legible (by simp) hall
  | @added b before after hbefore hnone =>
    -- the attribute before it may be open, so that it can be read only apart from this one
    exact legible_append (front_of_readAll hparts) (.added (reads_of_readAll hparts)
      hw.indented_added (hadded.legible (by simp) (legible_after hparts)))

/-- The parts stay apart unless an attribute is added behind an open one. -/
theorem SetsIn.apart_iff : apart parts' = true ↔
    (∃ a, attr a ∈ parts ∧ a.name = name) ∨ ∀ a, attr a ∈ parts → (attr a).isOpen = false := by
  have hall : apart parts = true := hparts ▸ apart_readAll cs
  -- a written attribute may still be open, but nothing comes after it then
  cases hset with
  | @written a before after hbefore ha =>
    have hreads := reads_of_readAll hparts
    obtain ⟨ended, hholds, hopen⟩ := hw.holds_write hreads
    have hends : (attr (a.write value)).endsAt (after.flatMap text) = true := by
      refine (hholds.reads fun hended => ?_).endsAt
      rw [eq_nil_of_isOpen hparts (hopen hended).1, List.flatMap_nil]
    refine iff_of_true ?_ (.inl ⟨a, by simp, ha⟩)
    refine apart_append (sameStart_attr hreads.isName (a.write_lead value) (a.write_name value))
      hall ?_
    rw [apart, hends, apart_after hparts]
    rfl
  | first hnone =>
    refine iff_of_true ?_ (.inr fun a ha => absurd ha (attr_not_mem hnone a))
    rw [apart, hw.endsAt_added, hall]
    rfl
  | @added b before after hbefore hnone =>
    rw [or_iff_right (not_named_of_last hbefore hnone), ← isOpen_last_iff hparts hnone]
    exact hw.apart_added_iff hparts

theorem SetsIn.noStray (hstray : hasStrayEquals parts = false) :
    hasStrayEquals parts' = false := by
  cases hset with
  | @written a before after hbefore ha =>
    have hreads := reads_of_readAll hparts
    obtain ⟨ended, hholds, -⟩ := hw.holds_write hreads
    refine noStray_append (sameStart_attr hreads.isName (a.write_lead value) (a.write_name value))
      hstray (hholds.noStray ?_)
    rw [List.append_cons] at hstray
    exact noStray_of_append hstray
  | first hnone => exact hw.holds_added.noStray hstray
  | added hbefore hnone => exact hw.noStray_added (reads_of_readAll hparts) hstray

theorem SetsIn.clean (hclean : Clean parts) : Clean parts' := by
  refine ⟨?_, hset.noStray hw hparts hclean.noStray⟩
  have hsound := hw.holds_added.sound hw.end_not_mem
  have hparts' := hclean.sound
  cases hset with
  | @written a before after hbefore ha =>
    obtain ⟨hfront, ha', hafter⟩ : (∀ part ∈ before, part.Sound) ∧ (attr a).Sound ∧
        ∀ part ∈ after, part.Sound := by
      simpa [or_imp, forall_and] using hparts'
    obtain ⟨ended, hholds, hopen⟩ := hw.holds_write (reads_of_readAll hparts)
    obtain rfl : ended = true := by
      rw [← Bool.not_eq_false]
      exact fun hended => (hopen hended).2 ha'.ended
    have hend : '>' ∉ (a.write value).name := by
      rw [Attribute.write_name, ha]
      exact hw.end_not_mem
    simpa [or_imp, forall_and] using ⟨hfront, hholds.sound hend, hafter⟩
  | first hnone => simpa using ⟨hsound, hparts'⟩
  | @added b before after hbefore hnone =>
    obtain ⟨hfront, hb, hafter⟩ : (∀ part ∈ before, part.Sound) ∧ (attr b).Sound ∧
        ∀ part ∈ after, part.Sound := by
      simpa [or_imp, forall_and] using hparts'
    simpa [or_imp, forall_and] using ⟨hfront, hb, hsound, hafter⟩

theorem SetsIn.getLast?_ne (hclean : Clean parts)
    (hlast : (parts.flatMap text).getLast? ≠ some '/') :
    (parts'.flatMap text).getLast? ≠ some '/' := by
  obtain ⟨front, earlier, a, after, ended, rfl, rfl, -, -, hholds, hended⟩ :=
    hset.exists_holds hw hparts
  obtain rfl := hended fun part hpart => (hclean.sound part hpart).ended
  obtain ⟨q, ha, hq⟩ := hholds.getLast?
  rw [List.flatMap_append, List.getLast?_append] at hlast ⊢
  rw [List.flatMap_cons, List.getLast?_append, text, ha]
  cases hafter : (after.flatMap text).getLast? with
  | some c =>
    rw [hafter] at hlast
    exact hlast
  | none =>
    rintro heq
    obtain rfl : q = '/' := Option.some.inj heq
    cases hq

end Set

/-- An attribute without stray `=` is open only where its value is missing. -/
theorem isOpen_iff_of_isEnded {a : Attribute} (hended : (attr a).IsEnded) :
    (attr a).isOpen = true ↔ a.assignment.map (·.value) = some (.unquoted []) := by
  obtain ⟨lead, name, assignment⟩ := a
  cases assignment with
  | none => simp [isOpen]
  | some s =>
    obtain ⟨gap, value⟩ := s
    cases value with
    | unquoted t => simp [isOpen, Value.isOpen]
    | quoted quote t ended =>
      obtain rfl := hended _ gap quote t ended rfl rfl
      simp [isOpen, Value.isOpen]

/-- Set among clean parts, a value leaves them apart unless it is added behind a missing one. -/
theorem SetsIn.staysApart_iff {name value rest : Text} {tag : OpenTag} {parts' : List HeadPart}
    (hname : IsTagName tag.name)
    (hread : Lexeme.read? (tag.text ++ rest) = some (.opening tag, rest))
    (noStray : hasStrayEquals (readAll tag.inner) = false)
    (hset : SetsIn name value (readAll tag.inner) parts') (hw : Writable name value) :
    tag.StaysApart parts' ↔ (∃ a ∈ tag.attributes, a.name = name) ∨
      ∀ a ∈ tag.attributes, a.assignment.map (·.value) ≠ some (.unquoted []) := by
  obtain ⟨hhead, hpasses, hlast⟩ := (read?_openTag_iff hname).mp hread
  have hclean := clean_readAll hread hpasses noStray
  have hopen (a : Attribute) (ha : attr a ∈ readAll tag.inner) : (attr a).isOpen = false ↔
      a.assignment.map (·.value) ≠ some (.unquoted []) := by
    rw [← Bool.not_eq_true, not_iff_not]
    exact isOpen_iff_of_isEnded (hclean.sound _ ha).ended
  have hmem (a : Attribute) : a ∈ tag.attributes ↔ attr a ∈ readAll tag.inner :=
    mem_filterMap_attr?
  simp only [hmem, ← forall₂_congr hopen]
  rw [← hset.apart_iff hw rfl]
  refine ⟨fun h => h.apart, fun hapart => ⟨fun c hc => ?_, ?_, fun hself => ?_, hapart⟩⟩
  · obtain hfirst | hfirst := hset.head?_cases rfl
    · rw [hfirst] at hc
      obtain rfl := Option.some.inj hc
      rfl
    · rw [hfirst, flatMap_text_readAll] at hc
      exact hhead c hc
  · exact (hset.clean hw rfl hclean).passes
  · refine hset.getLast?_ne hw rfl hclean ?_
    rw [flatMap_text_readAll]
    exact hlast hself

end HeadPart

/-- The setting of a value succeeds wherever an element is located. Where the parts of its tag stay
apart with the attribute that was written or added, the value is read back and a second setting
changes nothing. In a tag without stray `=` they do, unless the attribute is added behind one whose
value is missing. -/
theorem Draft.setAttribute_readBack [Digest] {draft : Draft} {span : Span}
    (located : draft.locate = .ok span) {name value : Text} {quote : Char} (nonempty : name ≠ [])
    (nameChars : ∀ c ∈ name, isAttrChar c = true) (quoted : isQuote quote = true)
    (lacks : quote ∉ value) :
    ∃ revised, draft.setAttribute name value = .ok revised ∧
      (span.head.tag.StaysApart
          ((AttributeRevision.set name value).onParts (HeadPart.readAll span.head.tag.inner)) →
        (∀ selector ∈ draft.selector, selector.readsName = true) →
        TagsEndBefore draft.document span.head.start →
          revised.attributeValue name = .ok value ∧
          revised.setAttribute name value = .ok revised) ∧
      (hasStrayEquals (HeadPart.readAll span.head.tag.inner) = false →
        (span.head.tag.StaysApart
            ((AttributeRevision.set name value).onParts (HeadPart.readAll span.head.tag.inner)) ↔
          (∃ a ∈ span.head.tag.attributes, a.name = name) ∨
            ∀ a ∈ span.head.tag.attributes, a.assignment.map (·.value) ≠ some (.unquoted []))) := by
  obtain ⟨before, after, hdoc, hstart, hread⟩ := (located_of_draft located).opening
  have hrun := (AttributeRevision.set name value).run_of_locate located hdoc hstart
  have hset := HeadPart.setsIn_onParts name value (HeadPart.readAll span.head.tag.inner)
  have hw : HeadPart.Writable name value := ⟨nonempty, nameChars, quote, quoted, lacks⟩
  have hlegible := hset.legible hw rfl
  refine ⟨_, hrun, fun apart readsName ends => ?_, fun noStray => ?_⟩
  · obtain ⟨hvalue, hagain⟩ :=
      AttributeRevision.attributeValue_and_run located hrun rfl hlegible apart readsName ends
    refine ⟨?_, hagain (.set name value) ?_⟩
    · rw [hvalue, hset.valueIn_entries hw rfl]
    · exact hset.onParts_eq hw rfl
  · exact hset.staysApart_iff (Lexeme.isTagName_of_read? hread) hread noStray hw

/-- An attribute added to a nested tag that another one comes before. -/
theorem Draft.setAttribute_readBack_nested :
    let _ := Digest.multiplicative
    let doc := "<div><p x=1 b='>' c/></div>".toList
    ∃ revised, Draft.setAttribute ⟨doc, doc, some (.tag "p".toList)⟩ "a".toList "\"v\"".toList =
        .ok revised ∧
      revised.attributeValue "a".toList = .ok "\"v\"".toList ∧
      revised.setAttribute "a".toList "\"v\"".toList = .ok revised := by
  intro digest doc
  have located : Draft.locate ⟨doc, doc, some (.tag "p".toList)⟩ =
      .ok ⟨⟨5, ⟨"p".toList, " x=1 b='>' c".toList, true⟩⟩, none⟩ := by decide +kernel
  have nonempty : "a".toList ≠ [] := by decide
  have nameChars : ∀ c ∈ "a".toList, isAttrChar c = true := List.all_eq_true.mp rfl
  have lacks : '\'' ∉ "\"v\"".toList := by decide
  obtain ⟨revised, hrun, hback, hiff⟩ :=
    Draft.setAttribute_readBack located nonempty nameChars rfl lacks
  have ends : TagsEndBefore doc 5 := by
    let tag : OpenTag := ⟨"div".toList, [], false⟩
    have hdiv : EndsBefore "<p x=1 b='>' c/></div>".toList (tag.text ++ ([] ++ [])) :=
      .lexeme (l := .opening tag) (by decide +kernel) (by decide +kernel) .nil
    exact ⟨_, _, rfl, by decide, hdiv⟩
  have apart := (hiff (by decide +kernel)).mpr (.inr (by decide +kernel))
  obtain ⟨hvalue, hagain⟩ := hback apart (by simp [Selector.readsName]) ends
  exact ⟨revised, hrun, hvalue, hagain⟩

/-- Behind an attribute whose value is missing, the attribute that is added becomes that value. -/
theorem Draft.not_setAttribute_readBack_of_missing_value :
    let _ := Digest.multiplicative
    ¬∀ (draft : Draft) (name value : Text) (quote : Char),
      (∀ selector ∈ draft.selector, selector.readsName = true) → name ≠ [] →
      (∀ c ∈ name, isAttrChar c = true) → Text.isQuote quote = true → quote ∉ value →
      ∀ revised, draft.setAttribute name value = .ok revised →
        revised.attributeValue name = .ok value := by
  intro digest hall
  let doc := "<a b=></a>".toList
  have hrun : Draft.setAttribute ⟨doc, doc, some (.tag "a".toList)⟩ "n".toList "v".toList =
      .ok ⟨doc, "<a b= n=\"v\"></a>".toList, some (.tag "a".toList)⟩ := by decide +kernel
  have nameChars : ∀ c ∈ "n".toList, isAttrChar c = true := List.all_eq_true.mp rfl
  have hvalue := hall _ _ _ '"' (by simp [Selector.readsName]) (by decide) nameChars rfl
    (by decide) _ hrun
  revert hvalue
  decide +kernel

end Graft.Markup
