import Graft.Proofs.Rejoin

/-! Parts of a tag without stray `=`: those in which no `=` but that of a quoted value comes before
a quote. Such a tag ends at the first `>` outside its quoted values, and other parts can be put at
its end when they begin like the old ones. -/

namespace Graft.Markup

open Text

/-! ### The end of a tag without stray `=` -/

namespace HeadState

variable {s : HeadState} {t u : Text}

theorem clears_append (s : HeadState) (t u : Text) :
    s.clears (t ++ u) = (s.clears t && (t.foldl next s).clears u) := by
  induction t generalizing s with
  | nil => rfl
  | cons c cs ih => rw [List.cons_append, clears, clears, ih, List.foldl_cons, Bool.and_assoc]

theorem passes_append (s : HeadState) (t u : Text) :
    s.passes (t ++ u) = (s.clears t && (t.foldl next s).passes u) := by
  rw [passes, passes, clears_append, List.foldl_append, Bool.and_assoc]

/-- A text in which no run begins ends the head with its first `>`. -/
theorem clears_iff (hs : s.isQuoted = false) (h : s.opens t = false) :
    s.clears t = true ↔ '>' ∉ t := by
  induction t generalizing s with
  | nil => simp [clears]
  | cons c cs ih =>
    obtain ⟨hnext, hlater⟩ : (s.next c).isQuoted = false ∧ (s.next c).opens cs = false := by
      rwa [opens, Bool.or_eq_false_iff] at h
    have hends : s.ends c = decide (c = '>') := by
      obtain rfl | rfl := isQuoted_eq_false_iff.mp hs <;> rfl
    rw [clears, Bool.and_eq_true_iff, ih hnext hlater, hends, List.mem_cons, not_or,
      Bool.not_eq_true', decide_eq_false_iff_not, eq_comm]

/-- No `>` in a quoted value ends the head. -/
theorem clears_value {quote : Char} (hquote : isQuote quote = true) (h : quote ∉ t) :
    clears .afterEquals (Value.quoted quote t true).written = true := by
  have hquoted : clears (.quoted quote) t = true := by
    induction t with
    | nil => rfl
    | cons c cs ih =>
      rw [List.mem_cons, not_or] at h
      rw [clears, next, if_neg fun heq => h.1 heq.symm, ih h.2]
      rfl
  have hne : quote ≠ '>' := by
    rintro rfl
    cases hquote
  have hopen : next .afterEquals quote = .quoted quote := by rw [next, if_pos hquote]
  rw [Value.written, List.cons_append, clears, hopen, clears_append, hquoted, foldl_quoted h]
  simp [ends, hne, clears]

end HeadState

/-- The text of a part outside its quoted value. -/
def HeadPart.unquoted : HeadPart → Text
  | .filler text => text
  | .attr a => if a.quote?.isSome then a.lead ++ a.name else a.text

section Clean

variable {s : HeadState} {part : HeadPart} {rest t : Text}

/-- A part without a quoted value takes the head on when it holds no `>`. -/
theorem passes_loose (hs : s.isQuoted = false)
    (harmed : s.armed (part.text ++ t) = false) (hstray : equalsBeforeQuote t part.text = false) :
    ∃ s' : HeadState, s'.isQuoted = false ∧ s'.armed t = false ∧
      (s.passes (part.text ++ t) = true ↔ '>' ∉ part.text ∧ s'.passes t = true) := by
  have hstate := HeadState.opens_or_armed hs part.text t
  rw [harmed, hstray, Bool.or_false, Bool.or_eq_false_iff] at hstate
  obtain ⟨hopens, harmed'⟩ := hstate
  refine ⟨_, (quotedRuns_append (t := t) 0 0 hs hopens).2, harmed', ?_⟩
  rw [HeadState.passes_append, Bool.and_eq_true_iff, HeadState.clears_iff hs hopens]

/-- A part with a quoted value takes the head on when its name holds no `>`. -/
theorem passes_quoted {a : Attribute} {gap text : Text} {quote : Char}
    (ha : QuotedAttribute a rest gap text quote true) (hs : s.isQuoted = false)
    (harmed : s.armed (a.text ++ t) = false) :
    s.passes (a.text ++ t) = true ↔
      '>' ∉ a.lead ++ a.name ∧ HeadState.passes .outside t = true := by
  have htext : a.text ++ t = (a.lead ++ a.name) ++
      (gap ++ ((Value.quoted quote text true).written ++ t)) := by
    rw [Attribute.text_quoted ha, List.append_assoc, List.append_assoc gap]
  obtain ⟨before, after, hgap, hbefore, hafter⟩ := ha.gap_cut
  have hstate := HeadState.opens_or_armed hs (a.lead ++ a.name)
    (gap ++ ((Value.quoted quote text true).written ++ t))
  rw [← htext, harmed, equalsBeforeQuote_eq_false ha.no_equals, Bool.or_false,
    Bool.or_eq_false_iff] at hstate
  obtain ⟨hopens, -⟩ := hstate
  have hnamed := (quotedRuns_append (t := t) 0 0 hs hopens).2
  obtain ⟨hgapOpens, hgapState⟩ := HeadState.opens_gap hnamed hbefore hafter
  have hgapClears : '>' ∉ before ++ '=' :: after := by
    intro hmem
    rw [List.mem_append, List.mem_cons] at hmem
    obtain hmem | hmem | hmem := hmem
    · exact absurd (hbefore _ hmem) (by decide)
    · cases hmem
    · exact absurd (hafter _ hmem) (by decide)
  rw [htext, HeadState.passes_append, Bool.and_eq_true_iff, HeadState.clears_iff hs hopens, hgap,
    HeadState.passes_append, (HeadState.clears_iff hnamed hgapOpens).mpr hgapClears, hgapState,
    Bool.true_and, HeadState.passes_append, HeadState.clears_value ha.isQuote ha.not_mem,
    HeadState.foldl_value ha.isQuote ha.not_mem, Bool.true_and, if_pos rfl]

/-- A part that can be read, in which a quoted value has ended and no `>` stands outside it. -/
structure HeadPart.Sound (part : HeadPart) : Prop where
  reads : ∃ rest, part.Reads rest
  ended : part.IsEnded
  noEnd : '>' ∉ part.unquoted

theorem quotedAttribute_of_reads {a : Attribute} (h : (HeadPart.attr a).Reads rest)
    (hended : (HeadPart.attr a).IsEnded) (hquote : a.quote?.isSome = true) :
    ∃ gap text quote, QuotedAttribute a rest gap text quote true := by
  obtain ⟨gap, text, quote, ended, ha⟩ := quotedAttribute_of_read? h.read? hquote
  obtain rfl := hended a gap quote text ended rfl ha.assignment
  exact ⟨gap, text, quote, ha⟩

/-- Without stray `=`, a tag ends after its parts where they hold no `>` outside quoted values. -/
theorem passes_iff {parts : List HeadPart} (reads : ∀ part ∈ parts, ∃ rest, part.Reads rest)
    (ended : ∀ part ∈ parts, part.IsEnded) (noStray : hasStrayEquals parts = false)
    (hs : s.isQuoted = false) (harmed : s.armed (parts.flatMap HeadPart.text) = false) :
    s.passes (parts.flatMap HeadPart.text) = true ↔ ∀ part ∈ parts, '>' ∉ part.unquoted := by
  induction parts generalizing s with
  | nil => simp [HeadState.passes, HeadState.clears, hs]
  | cons part parts ih =>
    obtain ⟨⟨rest, hreads⟩, hreads'⟩ := List.forall_mem_cons.mp reads
    obtain ⟨hended, hended'⟩ := List.forall_mem_cons.mp ended
    obtain ⟨hstray, hstray'⟩ := Bool.or_eq_false_iff.mp noStray
    rw [List.flatMap_cons] at harmed ⊢
    rw [List.forall_mem_cons]
    have hloose (h : part.loose = part.text) (h' : part.unquoted = part.text) :
        s.passes (part.text ++ parts.flatMap HeadPart.text) = true ↔
          '>' ∉ part.unquoted ∧ ∀ part ∈ parts, '>' ∉ part.unquoted := by
      rw [h] at hstray
      obtain ⟨s', hs', harmed', hpasses⟩ := passes_loose hs harmed hstray
      rw [hpasses, h', ih hreads' hended' hstray' hs' harmed']
    -- a quoted value returns to the state outside, other parts take the state on
    cases part with
    | filler t => exact hloose rfl rfl
    | attr a =>
      cases hquote : a.quote?.isSome with
      | false =>
        have hnone : ¬a.quote?.isSome = true := by simp [hquote]
        exact hloose (if_neg hnone) (if_neg hnone)
      | true =>
        obtain ⟨gap, text, quote, ha⟩ := quotedAttribute_of_reads hreads hended hquote
        rw [HeadPart.text, passes_quoted ha hs harmed, HeadPart.unquoted, if_pos hquote,
          ih hreads' hended' hstray' rfl rfl]

end Clean

namespace HeadPart

/-- Parts that can be read, without stray `=`, in which quoted values have ended and no `>` stands
outside them. -/
structure Clean (parts : List HeadPart) : Prop where
  sound : ∀ part ∈ parts, part.Sound
  noStray : hasStrayEquals parts = false

/-! ### The parts of a tag -/

section ReadAll

variable {cs : Text} {before after : List HeadPart} {part : HeadPart}

theorem Reads.text_ne_nil {rest : Text} (h : part.Reads rest) : part.text ≠ [] :=
  (eq_append_of_read? h.read?).2

theorem Reads.isName {a : Attribute} {rest : Text} (h : (attr a).Reads rest) : IsName a.name := by
  cases h with
  | bare hlead hname hends => exact hname
  | assigned hlead hname hbefore hafter hvalue => exact hname

theorem Reads.endsAt_indented {a : Attribute} {rest : Text} (h : (attr a).Reads rest)
    (hopen : (attr a).isOpen = false) {t : Text} (ht : Indented t)
    (hequals : (t.dropWhile isBlank).head? ≠ some '=') : (attr a).endsAt t = true := by
  obtain ⟨blanks, c, cs, rfl, hne, hblanks, -⟩ := ht
  obtain ⟨d, ds, rfl⟩ := List.exists_cons_of_ne_nil hne
  have hblank : isBlank d = true := hblanks d List.mem_cons_self
  cases h with
  | bare hlead hname hends => simpa [HeadPart.endsAt, hblank] using hequals
  | assigned hlead hname hbefore hafter hvalue =>
    have hclosed : Value.isOpen _ = false := hopen
    simp [HeadPart.endsAt, Value.endsAt, hclosed, hblank]

/-- The last parts of a text are the parts of its end. -/
theorem readAll_suffix (h : readAll cs = before ++ after) :
    readAll (after.flatMap text) = after := by
  induction before generalizing cs with
  | nil => rw [← List.nil_append after, ← h, flatMap_text_readAll]
  | cons part before ih =>
    cases hread : HeadPart.read? cs with
    | none =>
      rw [eq_nil_of_read? hread, readAll_nil] at h
      cases h
    | some found =>
      obtain ⟨part', rest⟩ := found
      rw [readAll_of_read? hread, List.cons_append] at h
      exact ih (List.cons.inj h).2

theorem reads_of_readAll (h : readAll cs = before ++ part :: after) :
    part.Reads (after.flatMap text) := by
  have hall := readAll_suffix h
  cases hread : HeadPart.read? ((part :: after).flatMap text) with
  | none =>
    rw [eq_nil_of_read? hread, readAll_nil] at hall
    cases hall
  | some found =>
    obtain ⟨part', rest⟩ := found
    rw [readAll_of_read? hread] at hall
    obtain ⟨rfl, hafter⟩ := List.cons.inj hall
    rw [← hafter, flatMap_text_readAll]
    exact reads_of_read? hread

theorem exists_reads_of_mem (h : part ∈ readAll cs) : ∃ rest, part.Reads rest := by
  obtain ⟨before, after, hsplit⟩ := List.append_of_mem h
  exact ⟨_, reads_of_readAll hsplit⟩

theorem eq_nil_of_isOpen (h : readAll cs = before ++ part :: after) (hopen : part.isOpen = true) :
    after = [] := by
  cases after with
  | nil => rfl
  | cons next after =>
    have hnil := (reads_of_readAll h).eq_nil hopen
    rw [List.append_cons] at h
    rw [List.flatMap_cons, List.append_eq_nil_iff] at hnil
    exact absurd hnil.1 (reads_of_readAll h).text_ne_nil

theorem legible_after (h : readAll cs = before ++ part :: after) : Legible after := by
  rw [List.append_cons] at h
  rw [← readAll_suffix h]
  exact legible_readAll _

theorem apart_after (h : readAll cs = before ++ part :: after) : apart after = true := by
  rw [List.append_cons] at h
  rw [← readAll_suffix h]
  exact apart_readAll _

/-- The parts before another one can be read and are not open. -/
theorem front_of_readAll (h : readAll cs = before ++ part :: after) :
    ∀ p ∈ before, (∃ rest, p.Reads rest) ∧ p.isOpen = false := by
  intro p hp
  have hmem : p ∈ readAll cs := by
    rw [h]
    exact List.mem_append_left _ hp
  refine ⟨exists_reads_of_mem hmem, ?_⟩
  obtain ⟨first, second, rfl⟩ := List.append_of_mem hp
  rw [List.append_assoc, List.cons_append] at h
  rw [← Bool.not_eq_true]
  intro hopen
  have hnil := eq_nil_of_isOpen h hopen
  simp at hnil

end ReadAll

theorem clean_readAll {cs rest : Text} {tag : OpenTag}
    (hread : Lexeme.read? cs = some (.opening tag, rest))
    (hpasses : HeadState.passes .outside tag.inner = true)
    (noStray : hasStrayEquals (readAll tag.inner) = false) : Clean (readAll tag.inner) := by
  have hagree : Agree (quotedRuns 0 0 .outside tag.inner) _ _ _ :=
    agree_readAll tag.inner rfl (isQuoted_inner hread)
  have hended := hagree.2 noStray
  have hreads : ∀ part ∈ readAll tag.inner, ∃ rest, part.Reads rest :=
    fun part hpart => exists_reads_of_mem hpart
  rw [← flatMap_text_readAll tag.inner, passes_iff hreads hended noStray rfl rfl] at hpasses
  exact ⟨fun part hpart => ⟨hreads part hpart, hended part hpart, hpasses part hpart⟩, noStray⟩

theorem Clean.passes {parts : List HeadPart} (h : Clean parts) :
    HeadState.passes .outside (parts.flatMap text) = true :=
  (passes_iff (fun part hpart => (h.sound part hpart).reads)
    (fun part hpart => (h.sound part hpart).ended) h.noStray rfl rfl).mpr
    fun part hpart => (h.sound part hpart).noEnd

end HeadPart

/-! ### Texts that begin alike -/

/-- Texts that begin with the same character, and after their blanks with the same one. -/
structure SameStart (t u : Text) : Prop where
  head : t.head? = u.head?
  afterBlanks : (t.dropWhile isBlank).head? = (u.dropWhile isBlank).head?

namespace SameStart

variable {t u : Text}

theorem append (h : SameStart t u) (v : Text) : SameStart (v ++ t) (v ++ u) := by
  induction v with
  | nil => exact h
  | cons c v ih =>
    refine ⟨rfl, ?_⟩
    cases hc : isBlank c with
    | true => simpa [hc] using ih.afterBlanks
    | false => simp [hc]

theorem of_common {v : Text} (hv : ∃ c ∈ v, isBlank c = false) (t u : Text) :
    SameStart (v ++ t) (v ++ u) := by
  obtain ⟨c, hc, hblank⟩ := hv
  obtain ⟨before, after, rfl⟩ := List.append_of_mem hc
  have hsame : SameStart (c :: (after ++ t)) (c :: (after ++ u)) := ⟨rfl, by simp [hblank]⟩
  simpa using hsame.append before

theorem opensQuote_eq (h : SameStart t u) : opensQuote t = opensQuote u := by
  rw [opensQuote, opensQuote, h.afterBlanks]

theorem endsAt_eq (h : SameStart t u) (part : HeadPart) : part.endsAt t = part.endsAt u := by
  have hempty : t.isEmpty = u.isEmpty := by
    rw [Bool.eq_iff_iff, List.isEmpty_iff, List.isEmpty_iff, ← List.head?_eq_none_iff, h.head,
      List.head?_eq_none_iff]
  cases part with
  | filler text => rfl
  | attr a =>
    rw [HeadPart.endsAt, HeadPart.endsAt]
    split
    · rw [h.head, h.afterBlanks]
    · rw [Value.endsAt, Value.endsAt, h.head, hempty]

end SameStart

/-- What follows a text matters by whether it begins with a quote. -/
theorem equalsBeforeQuote_mono {t t' : Text} (h : opensQuote t' = true → opensQuote t = true)
    {u : Text} (hu : equalsBeforeQuote t u = false) : equalsBeforeQuote t' u = false := by
  have hopens (v : Text) : opensQuote (v ++ t') = true → opensQuote (v ++ t) = true := by
    intro hv
    induction v with
    | nil => exact h hv
    | cons c v ih =>
      cases hc : isBlank c with
      | true =>
        rw [List.cons_append, HeadState.opensQuote_blank hc] at hv ⊢
        exact ih hv
      | false => rwa [List.cons_append, HeadState.opensQuote_cons hc] at hv ⊢
  induction u with
  | nil => rfl
  | cons c u ih =>
    obtain ⟨hc, hu⟩ := Bool.or_eq_false_iff.mp hu
    rw [equalsBeforeQuote, ih hu, Bool.or_false, ← Bool.not_eq_true, Bool.and_eq_true_iff]
    rintro ⟨heq, hquote⟩
    rw [heq, hopens u hquote] at hc
    cases hc

/-! ### Other parts at the end -/

namespace HeadPart

section Ends

variable {before tail tail' : List HeadPart}
  (hsame : SameStart (tail.flatMap text) (tail'.flatMap text))

theorem legible_append (hbefore : ∀ part ∈ before, (∃ rest, part.Reads rest) ∧ part.isOpen = false)
    (h : Legible tail) : Legible (before ++ tail) := by
  induction before with
  | nil => exact h
  | cons part before ih =>
    obtain ⟨⟨⟨rest, hreads⟩, hopen⟩, hbefore'⟩ := List.forall_mem_cons.mp hbefore
    refine .cons hreads (fun hopen' => ?_) (ih hbefore')
    rw [hopen] at hopen'
    cases hopen'

theorem noStray_of_append (h : hasStrayEquals (before ++ tail) = false) :
    hasStrayEquals tail = false := by
  induction before with
  | nil => exact h
  | cons part before ih => exact ih (Bool.or_eq_false_iff.mp h).2

theorem apart_of_append (h : apart (before ++ tail) = true) : apart tail = true := by
  induction before with
  | nil => exact h
  | cons part before ih => exact ih (Bool.and_eq_true_iff.mp h).2

include hsame

theorem apart_append (h : apart (before ++ tail) = true) (h' : apart tail' = true) :
    apart (before ++ tail') = true := by
  induction before with
  | nil => exact h'
  | cons part before ih =>
    have hlater := (hsame.append (before.flatMap text)).endsAt_eq part
    rw [List.cons_append, apart, Bool.and_eq_true_iff, List.flatMap_append] at h ⊢
    rw [← hlater]
    exact ⟨h.1, ih h.2⟩

theorem noStray_append (h : hasStrayEquals (before ++ tail) = false)
    (h' : hasStrayEquals tail' = false) : hasStrayEquals (before ++ tail') = false := by
  induction before with
  | nil => exact h'
  | cons part before ih =>
    have hlater := (hsame.append (before.flatMap text)).opensQuote_eq
    rw [List.cons_append, hasStrayEquals, Bool.or_eq_false_iff, List.flatMap_append] at h ⊢
    exact ⟨equalsBeforeQuote_mono (fun hopens => hlater ▸ hopens) h.1, ih h.2⟩

end Ends

theorem sameStart_attr {a b : Attribute} {parts parts' : List HeadPart} (hname : IsName a.name)
    (hlead : b.lead = a.lead) (hname' : b.name = a.name) :
    SameStart ((attr a :: parts).flatMap text) ((attr b :: parts').flatMap text) := by
  have htext (c : Attribute) (parts : List HeadPart) : (attr c :: parts).flatMap text =
      (c.lead ++ c.name) ++ (Attribute.assignmentText c.assignment ++ parts.flatMap text) := by
    rw [List.flatMap_cons, text, Attribute.text, List.append_assoc]
  obtain ⟨hne, hchar⟩ := hname
  obtain ⟨c, cs, hcons⟩ := List.exists_cons_of_ne_nil hne
  have hblank : isBlank c = false := by
    have hc := hchar c (by simp [hcons])
    revert hc
    simp +contextual [isNameChar]
  rw [htext, htext, hlead, hname']
  exact SameStart.of_common ⟨c, by simp [hcons], hblank⟩ _ _

end HeadPart

end Graft.Markup
