import Graft.Proofs.AttributeList
import Graft.Proofs.Lexeme
import Mathlib.Data.List.Pairwise

/-! The two readings of a tag's quotes. The end of a tag is looked for past runs between quotes that
follow a `=`, and the attributes are read from what stands before that end. The two find the same
quoted values unless a `=` that begins no quoted value comes before a quote. -/

namespace Graft.Markup

open Text

/-! ### Runs between quotes -/

/-- A quoted value with its quotes, `[start, stop)`. -/
structure QuotedRun where
  start : Nat
  stop : Nat
  quote : Char
  deriving DecidableEq, Repr

def HeadState.isQuoted : HeadState → Bool
  | .quoted _ => true
  | _ => false

/-- The runs that the search for the end of a tag passes over in a text at offset `n`. In a run,
`opened` is where it began. -/
def quotedRuns (opened n : Nat) (s : HeadState) : Text → List QuotedRun
  | [] => []
  | c :: cs =>
    let later := quotedRuns (if s.isQuoted then opened else n) (n + c.utf8Size) (s.next c) cs
    match s with
    | .quoted quote => if c = quote then ⟨opened, n + c.utf8Size, quote⟩ :: later else later
    | _ => later

/-- The runs of a tag, which begin after its name. -/
def Head.quotedRuns (head : Head) : List QuotedRun :=
  Markup.quotedRuns head.nameEnd head.nameEnd .outside head.tag.inner

/-- The quoted value of an attribute. -/
def PlacedAttribute.quotedRun? (a : PlacedAttribute) : Option QuotedRun := do
  let assignment ← a.attr.assignment
  let quote ← assignment.value.quote?
  return ⟨a.writtenStart assignment, a.stop, quote⟩

/-- Whether a quote comes first in a text, after any blanks. -/
def opensQuote (t : Text) : Bool := (t.dropWhile isBlank).head?.any isQuote

/-- Whether a `=` of a text comes before a quote, in the text or in what follows it. -/
def equalsBeforeQuote (rest : Text) : Text → Bool
  | [] => false
  | c :: cs => c = '=' && opensQuote (cs ++ rest) || equalsBeforeQuote rest cs

/-- The text of a part in which no `=` begins a quoted value. -/
def HeadPart.loose : HeadPart → Text
  | .filler text => text
  | .attr a => if a.quote?.isSome then [] else a.text

/-- Whether a `=` that begins no quoted value comes before a quote. -/
def hasStrayEquals : List HeadPart → Bool
  | [] => false
  | part :: rest => equalsBeforeQuote (rest.flatMap HeadPart.text) part.loose || hasStrayEquals rest

/-! ### The state between runs -/

namespace HeadState

variable {s : HeadState} {c : Char} {t u : Text}

/-- Whether a run begins in a text. -/
def opens : HeadState → Text → Bool
  | _, [] => false
  | s, c :: cs => (s.next c).isQuoted || (s.next c).opens cs

/-- Whether a quote that comes first in a text begins a run. -/
def armed : HeadState → Text → Bool
  | .afterEquals, t => opensQuote t
  | _, _ => false

theorem isQuoted_eq_false_iff : s.isQuoted = false ↔ s = .outside ∨ s = .afterEquals := by
  cases s <;> simp [isQuoted]

theorem isBlank_eq_false_of_isQuote (h : isQuote c = true) : isBlank c = false := by
  obtain rfl | rfl := isQuote_iff.mp h <;> rfl

theorem opensQuote_cons (hc : isBlank c = false) (t : Text) : opensQuote (c :: t) = isQuote c := by
  simp [opensQuote, hc]

theorem opensQuote_blank (hc : isBlank c = true) (t : Text) :
    opensQuote (c :: t) = opensQuote t := by
  simp [opensQuote, hc]

/-- Before one more character and after it, a `=` in force meets the same quote. -/
theorem armed_next (hs : s.isQuoted = false) (c : Char) (t : Text) :
    ((s.next c).isQuoted || (s.next c).armed t) =
      (s.armed (c :: t) || (c = '=' && opensQuote t)) := by
  obtain rfl | rfl := isQuoted_eq_false_iff.mp hs
  · by_cases hc : c = '=' <;> simp [next, armed, isQuoted, hc]
  · by_cases hquote : isQuote c = true
    · have hopens := opensQuote_cons (isBlank_eq_false_of_isQuote hquote) t
      simp [next, armed, isQuoted, hquote, hopens]
    · by_cases hc : c = '='
      · subst hc
        have hopens : opensQuote ('=' :: t) = false := opensQuote_cons rfl t
        simp [next, armed, isQuoted, isQuote, hopens]
      · cases hblank : isBlank c with
        | false => simp [next, armed, isQuoted, hquote, hc, hblank, opensQuote_cons hblank]
        | true => simp [next, armed, isQuoted, hquote, hc, hblank, opensQuote_blank hblank]

/-- A run begins in a text, or at the first character after it and its blanks, where a `=` in force
before the text, or a `=` of the text, comes before a quote. -/
theorem opens_or_armed (hs : s.isQuoted = false) (u t : Text) :
    (s.opens u || (u.foldl next s).armed t) = (s.armed (u ++ t) || equalsBeforeQuote t u) := by
  induction u generalizing s with
  | nil => simp [opens, equalsBeforeQuote]
  | cons c cs ih =>
    have hstep := armed_next hs c (cs ++ t)
    rw [opens, List.foldl_cons, List.cons_append, equalsBeforeQuote, ← Bool.or_assoc, ← hstep]
    cases hquoted : (s.next c).isQuoted with
    | true => simp
    | false => rw [Bool.false_or, Bool.false_or, ih hquoted]

/-- Every run is between quotes. -/
theorem isQuote_of_foldl {quote : Char} (hs : ∀ q, s = .quoted q → isQuote q = true)
    (h : t.foldl next s = .quoted quote) : isQuote quote = true := by
  induction t generalizing s with
  | nil => exact hs quote h
  | cons c cs ih =>
    refine ih (fun q hq => ?_) h
    cases s with
    | outside =>
      rw [next] at hq
      split at hq <;> cases hq
    | afterEquals =>
      rw [next] at hq
      split at hq
      · next hc => exact HeadState.quoted.inj hq ▸ hc
      · split at hq <;> cases hq
    | quoted q' =>
      rw [next] at hq
      split at hq
      · cases hq
      · exact HeadState.quoted.inj hq ▸ hs q' rfl

end HeadState

/-- A tag does not end inside a run. -/
theorem isQuoted_of_readHead? {s : HeadState} {t head rest : Text}
    (h : readHead? s t = some (head, rest)) : (head.foldl HeadState.next s).isQuoted = false := by
  induction t generalizing s head with
  | nil => cases h
  | cons c cs ih =>
    rw [readHead?] at h
    split at h
    · next hend =>
      obtain ⟨rfl, -⟩ := Prod.mk.inj (Option.some.inj h)
      cases s with
      | outside => rfl
      | afterEquals => rfl
      | quoted quote => cases hend
    · obtain ⟨⟨inner, after⟩, hs, heq⟩ := Option.map_eq_some_iff.mp h
      obtain ⟨rfl, rfl⟩ := Prod.mk.inj heq
      rw [List.foldl_cons]
      exact ih hs

/-- What stands between the name and the end of a tag ends outside all runs. -/
theorem isQuoted_inner {cs rest : Text} {tag : OpenTag}
    (h : Lexeme.read? cs = some (.opening tag, rest)) :
    (tag.inner.foldl HeadState.next .outside).isQuoted = false := by
  obtain ⟨name, head, t, tail, -, hhead, rfl⟩ := Lexeme.exists_of_read?_opening h
  have hend := isQuoted_of_readHead? hhead
  rw [OpenTag.ofHead]
  split
  · next hlast =>
    -- the `/` before the `>` is no quote, so it ends no run
    obtain ⟨inner, rfl⟩ := List.getLast?_eq_some_iff.mp hlast
    rw [List.foldl_append, List.foldl_cons, List.foldl_nil] at hend
    rw [List.dropLast_concat]
    cases hstate : inner.foldl HeadState.next .outside with
    | outside => rfl
    | afterEquals => rfl
    | quoted quote =>
      have hquote := HeadState.isQuote_of_foldl (by simp) hstate
      have hne : '/' ≠ quote := by
        rintro rfl
        cases hquote
      rw [hstate, HeadState.next, if_neg hne] at hend
      cases hend
  · exact hend

/-! ### Runs of a text that is put together from parts -/

section Runs

variable {s : HeadState} {t u : Text} (opened n : Nat)

theorem quotedRuns_congr (hs : s.isQuoted = false) (opened' : Nat) :
    quotedRuns opened n s t = quotedRuns opened' n s t := by
  cases t with
  | nil => rfl
  | cons c cs => cases s <;> simp_all [quotedRuns, HeadState.isQuoted]

theorem quotedRuns_cons (hs : s.isQuoted = false) (c : Char) :
    quotedRuns opened n s (c :: t) = quotedRuns n (n + c.utf8Size) (s.next c) t := by
  cases s <;> simp_all [quotedRuns, HeadState.isQuoted]

/-- A run lasts to its quote. -/
theorem quotedRuns_quoted {quote : Char} (h : quote ∉ t) :
    quotedRuns opened n (.quoted quote) (t ++ quote :: u) =
      ⟨opened, n + t.size + quote.utf8Size, quote⟩ ::
        quotedRuns opened (n + t.size + quote.utf8Size) .outside u := by
  induction t generalizing n with
  | nil => simp [quotedRuns, HeadState.next, HeadState.isQuoted]
  | cons c cs ih =>
    have hc : c ≠ quote := by
      rintro rfl
      simp at h
    have hrest := ih (n + c.utf8Size) fun hmem => h (List.mem_cons_of_mem c hmem)
    rw [List.cons_append, quotedRuns, size_cons, ← Nat.add_assoc]
    simp only [HeadState.next, HeadState.isQuoted, if_true, if_neg hc]
    exact hrest

theorem exists_run_of_quoted {quote : Char}
    (h : (t.foldl HeadState.next (.quoted quote)).isQuoted = false) :
    ∃ run ∈ quotedRuns opened n (.quoted quote) t, run.start = opened := by
  induction t generalizing n with
  | nil => cases h
  | cons c cs ih =>
    rw [quotedRuns]
    simp only [HeadState.isQuoted, if_true]
    split
    · exact ⟨_, List.mem_cons_self, rfl⟩
    · next hc =>
      rw [List.foldl_cons, HeadState.next, if_neg hc] at h
      rw [HeadState.next, if_neg hc]
      exact ih (n + c.utf8Size) h

/-- A text in which no run begins takes the state on. -/
theorem quotedRuns_append (hs : s.isQuoted = false) (h : s.opens u = false) :
    quotedRuns opened n s (u ++ t) =
        quotedRuns opened (n + u.size) (u.foldl HeadState.next s) t ∧
      (u.foldl HeadState.next s).isQuoted = false := by
  induction u generalizing s opened n with
  | nil => exact ⟨rfl, hs⟩
  | cons c cs ih =>
    obtain ⟨hnext, hlater⟩ : (s.next c).isQuoted = false ∧ (s.next c).opens cs = false := by
      rwa [HeadState.opens, Bool.or_eq_false_iff] at h
    obtain ⟨hruns, hstate⟩ := ih n (n + c.utf8Size) hnext hlater
    rw [List.cons_append, quotedRuns_cons opened n hs, hruns, size_cons, ← Nat.add_assoc]
    exact ⟨quotedRuns_congr n _ hstate opened, hstate⟩

/-- A run that begins in a text is found there. -/
theorem exists_run_of_opens (hs : s.isQuoted = false) (h : s.opens u = true)
    (hend : ((u ++ t).foldl HeadState.next s).isQuoted = false) :
    ∃ run ∈ quotedRuns opened n s (u ++ t), run.start < n + u.size := by
  induction u generalizing s opened n with
  | nil => cases h
  | cons c cs ih =>
    have := c.utf8Size_pos
    rw [List.cons_append, quotedRuns_cons opened n hs]
    rw [List.cons_append, List.foldl_cons] at hend
    cases hquoted : s.next c with
    | quoted quote =>
      rw [hquoted] at hend
      obtain ⟨run, hrun, hstart⟩ := exists_run_of_quoted n (n + c.utf8Size) hend
      exact ⟨run, hrun, by rw [hstart, size_cons]; omega⟩
    | outside =>
      rw [hquoted] at hend
      rw [HeadState.opens, hquoted] at h
      obtain ⟨run, hrun, hstart⟩ := ih n (n + c.utf8Size) rfl h hend
      exact ⟨run, hrun, by rw [size_cons]; omega⟩
    | afterEquals =>
      rw [hquoted] at hend
      rw [HeadState.opens, hquoted] at h
      obtain ⟨run, hrun, hstart⟩ := ih n (n + c.utf8Size) rfl h hend
      exact ⟨run, hrun, by rw [size_cons]; omega⟩

end Runs

/-! ### Attributes with quoted values -/

theorem not_mem_of_breakOn?_single {c : Char} {t before rest : Text}
    (h : breakOn? [c] t = some (before, rest)) : c ∉ before := by
  intro hmem
  obtain ⟨front, back, rfl⟩ := List.append_of_mem hmem
  exact not_infix_of_breakOn? (List.cons_ne_nil c []) h ⟨front, back, by simp⟩

theorem not_mem_of_breakOn?_eq_none {c : Char} {t : Text} (h : breakOn? [c] t = none) : c ∉ t := by
  intro hmem
  obtain ⟨before, after, rfl⟩ := List.append_of_mem hmem
  induction before with
  | nil => simp [breakOn?] at h
  | cons d ds ih =>
    rw [List.cons_append, breakOn?] at h
    split at h
    · cases h
    · exact ih (Option.map_eq_none_iff.mp h) (by simp)

/-- How an attribute with a quoted value is read: no `=` comes before the one that begins its
value, and the value lasts to its quote or else to the end of the text. -/
structure QuotedAttribute (a : Attribute) (rest gap text : Text) (quote : Char) (ended : Bool) :
    Prop where
  assignment : a.assignment = some ⟨gap, .quoted quote text ended⟩
  no_equals : '=' ∉ a.lead ++ a.name
  gap_cut : ∃ before after, gap = before ++ '=' :: after ∧ (∀ c ∈ before, isBlank c = true) ∧
    ∀ c ∈ after, isBlank c = true
  isQuote : isQuote quote = true
  not_mem : quote ∉ text
  rest_nil : ended = false → rest = []

theorem Value.read_quoted {cs rest text : Text} {quote : Char} {ended : Bool}
    (h : read cs = (.quoted quote text ended, rest)) :
    Text.isQuote quote = true ∧ quote ∉ text ∧ (ended = false → rest = []) := by
  unfold read at h
  split at h
  · split at h
    · next c tail hquote =>
      split at h
      · next hbreak =>
        obtain ⟨hvalue, -⟩ := Prod.mk.inj h
        obtain ⟨rfl, rfl, rfl⟩ := Value.quoted.inj hvalue
        exact ⟨hquote, not_mem_of_breakOn?_single hbreak, by simp⟩
      · next hbreak =>
        obtain ⟨hvalue, rfl⟩ := Prod.mk.inj h
        obtain ⟨rfl, rfl, rfl⟩ := Value.quoted.inj hvalue
        exact ⟨hquote, not_mem_of_breakOn?_eq_none hbreak, fun _ => rfl⟩
    · cases (Prod.mk.inj h).1
  · cases (Prod.mk.inj h).1

theorem Assignment.exists_of_read? {cs rest : Text} {assignment : Assignment}
    (h : read? cs = some (assignment, rest)) :
    (∃ before after, assignment.gap = before ++ '=' :: after ∧
      (∀ c ∈ before, isBlank c = true) ∧ ∀ c ∈ after, isBlank c = true) ∧
    ∃ t, Value.read t = (assignment.value, rest) := by
  unfold read? at h
  split at h
  · next tail _ =>
    obtain ⟨hassignment, hrest⟩ := Prod.mk.inj (Option.some.inj h)
    rw [← hassignment, ← hrest]
    exact ⟨⟨_, _, rfl, fun c hc => List.mem_takeWhile_imp hc,
      fun c hc => List.mem_takeWhile_imp hc⟩, tail.dropWhile isBlank, rfl⟩
  · cases h

theorem quotedAttribute_of_read? {cs rest : Text} {a : Attribute}
    (h : HeadPart.read? cs = some (.attr a, rest)) (hquote : a.quote?.isSome = true) :
    ∃ gap text quote ended, QuotedAttribute a rest gap text quote ended := by
  unfold HeadPart.read? at h
  split at h
  · split at h <;> cases h
  · cases h
  · next c tail hc _ =>
    have hlead : '=' ∉ cs.takeWhile isBlank := fun hmem =>
      absurd (List.mem_takeWhile_imp hmem) (by decide)
    have hname : '=' ∉ c :: tail.takeWhile HeadPart.isNameChar := by
      rw [List.mem_cons, not_or]
      exact ⟨fun heq => hc heq.symm, fun hmem => absurd (List.mem_takeWhile_imp hmem) (by decide)⟩
    split at h
    · next assignment after hread =>
      obtain ⟨ha, rfl⟩ := Prod.mk.inj (Option.some.inj h)
      obtain rfl := HeadPart.attr.inj ha
      obtain ⟨hgap, t, hvalue⟩ := Assignment.exists_of_read? hread
      obtain ⟨gap, value⟩ := assignment
      cases value with
      | quoted quote text ended =>
        obtain ⟨hisQuote, hnot, hrest⟩ := Value.read_quoted hvalue
        exact ⟨gap, text, quote, ended, {
          assignment := rfl
          no_equals := fun hmem => (List.mem_append.mp hmem).elim hlead hname
          gap_cut := hgap
          isQuote := hisQuote
          not_mem := hnot
          rest_nil := hrest }⟩
      | unquoted text => cases hquote
    · obtain ⟨ha, -⟩ := Prod.mk.inj (Option.some.inj h)
      obtain rfl := HeadPart.attr.inj ha
      cases hquote

/-! ### The two readings -/

theorem equalsBeforeQuote_eq_false {u : Text} (h : '=' ∉ u) (t : Text) :
    equalsBeforeQuote t u = false := by
  induction u with
  | nil => rfl
  | cons c cs ih =>
    rw [List.mem_cons, not_or] at h
    have hc : c ≠ '=' := fun heq => h.1 heq.symm
    simp [equalsBeforeQuote, hc, ih h.2]

/-- The quoted values of the attributes among the parts, the first of which is at offset `n`. -/
def parsedRuns (n : Nat) (parts : List HeadPart) : List QuotedRun :=
  (HeadPart.place n parts).filterMap PlacedAttribute.quotedRun?

theorem PlacedAttribute.quotedRun?_eq_some {a : PlacedAttribute} {run : QuotedRun}
    (h : a.quotedRun? = some run) : a.nameEnd ≤ run.start ∧ run.stop = a.stop := by
  simp only [quotedRun?, Option.bind_eq_bind, Option.bind_eq_some_iff] at h
  obtain ⟨assignment, -, quote, -, heq⟩ := h
  obtain rfl := Option.some.inj heq
  exact ⟨Nat.le_add_right _ _, rfl⟩

theorem le_start_of_mem_parsedRuns {n : Nat} {parts : List HeadPart} {run : QuotedRun}
    (h : run ∈ parsedRuns n parts) : n ≤ run.start := by
  obtain ⟨a, ha, hrun⟩ := List.mem_filterMap.mp h
  obtain ⟨before, after, -, hstart⟩ := HeadPart.split_of_mem_place ha
  have := (PlacedAttribute.quotedRun?_eq_some hrun).1
  rw [PlacedAttribute.nameEnd, PlacedAttribute.nameStart] at this
  omega

/-- A part without a quoted value is passed over. -/
theorem parsedRuns_loose {part : HeadPart} (h : part.loose = part.text) (hne : part.text ≠ [])
    (n : Nat) (parts : List HeadPart) :
    parsedRuns n (part :: parts) = parsedRuns (n + part.text.size) parts := by
  cases part with
  | filler text => rfl
  | attr a =>
    have hquote : a.quote? = none := by
      by_contra hsome
      rw [HeadPart.loose, if_pos (Option.isSome_iff_ne_none.mpr hsome)] at h
      exact hne h.symm
    have hrun : PlacedAttribute.quotedRun? ⟨n, a⟩ = none := by
      rw [Attribute.quote?] at hquote
      cases ha : a.assignment with
      | none => simp [PlacedAttribute.quotedRun?, ha]
      | some assignment =>
        rw [ha, Option.bind_some] at hquote
        simp [PlacedAttribute.quotedRun?, ha, hquote]
    rw [parsedRuns, HeadPart.place, List.filterMap_cons_none hrun]
    rfl

/-- Whether the value of a part, if it is quoted, ends with its quote. -/
def HeadPart.IsEnded (part : HeadPart) : Prop :=
  ∀ a gap quote text ended, part = .attr a →
    a.assignment = some ⟨gap, .quoted quote text ended⟩ → ended = true

theorem HeadPart.isEnded_of_loose {part : HeadPart} (h : part.loose = part.text)
    (hne : part.text ≠ []) : part.IsEnded := by
  rintro a gap quote text ended rfl ha
  have hquote : a.quote?.isSome = true := by
    rw [Attribute.quote?, ha]
    rfl
  rw [loose, if_pos hquote] at h
  exact absurd h.symm hne

/-- The runs are the quoted values exactly where there is no stray `=`, and there the values have
ended. -/
def Agree (runs parsed : List QuotedRun) (stray : Bool) (ended : Prop) : Prop :=
  (runs = parsed ↔ stray = false) ∧ (stray = false → ended)

theorem Agree.imp {runs parsed : List QuotedRun} {stray : Bool} {ended ended' : Prop}
    (h : Agree runs parsed stray ended) (himp : ended → ended') :
    Agree runs parsed stray ended' :=
  ⟨h.1, fun hstray => himp (h.2 hstray)⟩

section Agreement

variable {s : HeadState} {opened n : Nat} {t u : Text}

/-- Where both readings agree on what follows a text without quoted values, they agree on the whole
unless a run begins in the text. -/
theorem agree_loose {parsed : List QuotedRun} {stray : Bool} {ended : Prop}
    (hs : s.isQuoted = false) (hend : ((u ++ t).foldl HeadState.next s).isQuoted = false)
    (hstart : ∀ run ∈ parsed, n + u.size ≤ run.start)
    (hrest : ∀ s' : HeadState, s'.isQuoted = false → (t.foldl HeadState.next s').isQuoted = false →
      Agree (quotedRuns opened (n + u.size) s' t) parsed (s'.armed t || stray) ended) :
    Agree (quotedRuns opened n s (u ++ t)) parsed
      (s.armed (u ++ t) || (equalsBeforeQuote t u || stray)) ended := by
  rw [← Bool.or_assoc, ← HeadState.opens_or_armed hs u t]
  cases hopens : s.opens u with
  | true =>
    obtain ⟨run, hrun, hbefore⟩ := exists_run_of_opens opened n hs hopens hend
    refine ⟨⟨fun heq => ?_, by simp⟩, by simp⟩
    rw [heq] at hrun
    exact absurd (hstart run hrun) (Nat.not_le.mpr hbefore)
  | false =>
    obtain ⟨hruns, hstate⟩ := quotedRuns_append opened n (t := t) hs hopens
    rw [List.foldl_append] at hend
    rw [hruns, Bool.false_or]
    exact hrest _ hstate hend

theorem HeadState.opens_append (s : HeadState) (t u : Text) :
    s.opens (t ++ u) = (s.opens t || (t.foldl next s).opens u) := by
  induction t generalizing s with
  | nil => rfl
  | cons c cs ih => rw [List.cons_append, opens, opens, ih, List.foldl_cons, Bool.or_assoc]

theorem HeadState.opens_blank (hs : s.isQuoted = false) (h : ∀ c ∈ t, isBlank c = true) :
    s.opens t = false ∧ t.foldl next s = s := by
  induction t with
  | nil => exact ⟨rfl, rfl⟩
  | cons c cs ih =>
    have hblank : isBlank c = true := h c List.mem_cons_self
    have hquote : isQuote c = false := by
      rw [← Bool.not_eq_true]
      intro hquote
      rw [isBlank_eq_false_of_isQuote hquote] at hblank
      cases hblank
    have hnext : s.next c = s := by
      obtain rfl | rfl := isQuoted_eq_false_iff.mp hs
      · rw [next, if_neg (ne_of_isBlank hblank).1]
      · simp [next, hquote, hblank]
    rw [opens, List.foldl_cons, hnext, hs, Bool.false_or]
    exact ih fun d hd => h d (List.mem_cons_of_mem c hd)

/-- Between a name and its quoted value, a `=` comes into force. -/
theorem HeadState.opens_gap {before after : Text} (hs : s.isQuoted = false)
    (hbefore : ∀ c ∈ before, isBlank c = true) (hafter : ∀ c ∈ after, isBlank c = true) :
    s.opens (before ++ '=' :: after) = false ∧
      (before ++ '=' :: after).foldl next s = .afterEquals := by
  have hequals : s.next '=' = .afterEquals := by
    obtain rfl | rfl := isQuoted_eq_false_iff.mp hs <;> rfl
  obtain ⟨hquiet, hstate⟩ := opens_blank hs hbefore
  obtain ⟨hquiet', hstate'⟩ := opens_blank (s := .afterEquals) rfl hafter
  rw [opens_append, List.foldl_append, hquiet, hstate, opens, List.foldl_cons, hequals, hquiet',
    hstate']
  exact ⟨rfl, rfl⟩

theorem HeadState.armed_gap {before after : Text} (hbefore : ∀ c ∈ before, isBlank c = true) :
    s.armed (before ++ '=' :: after) = false := by
  have hopens : opensQuote (before ++ '=' :: after) = false := by
    rw [opensQuote, List.dropWhile_append_of_pos hbefore]
    rfl
  cases s with
  | outside => rfl
  | afterEquals => exact hopens
  | quoted quote => rfl

theorem HeadState.foldl_quoted {quote : Char} (h : quote ∉ t) :
    t.foldl next (.quoted quote) = .quoted quote := by
  induction t with
  | nil => rfl
  | cons c cs ih =>
    rw [List.mem_cons, not_or] at h
    rw [List.foldl_cons, next, if_neg fun heq => h.1 heq.symm]
    exact ih h.2

theorem Attribute.text_quoted {a : Attribute} {rest gap text : Text} {quote : Char} {ended : Bool}
    (ha : QuotedAttribute a rest gap text quote ended) :
    a.text = a.lead ++ a.name ++ (gap ++ (Value.quoted quote text ended).written) := by
  rw [Attribute.text, ha.assignment]
  rfl

/-- An attribute with a quoted value that has ended is that value and the attributes after it. -/
theorem parsedRuns_quoted {a : Attribute} {rest gap text : Text} {quote : Char} {ended : Bool}
    (ha : QuotedAttribute a rest gap text quote ended) (parts : List HeadPart) :
    parsedRuns n (.attr a :: parts) =
      ⟨n + (a.lead ++ a.name).size + gap.size, n + a.text.size, quote⟩ ::
        parsedRuns (n + a.text.size) parts := by
  have hrun : PlacedAttribute.quotedRun? ⟨n, a⟩ =
      some ⟨n + (a.lead ++ a.name).size + gap.size, n + a.text.size, quote⟩ := by
    simp only [PlacedAttribute.quotedRun?, ha.assignment, PlacedAttribute.writtenStart,
      PlacedAttribute.nameEnd, PlacedAttribute.nameStart, size_append, Nat.add_assoc]
    rfl
  rw [parsedRuns, HeadPart.place, List.filterMap_cons_some hrun]
  rfl

/-- A quoted value after a `=` in force is one run. -/
theorem quotedRuns_value {quote : Char} {text : Text} (hquote : isQuote quote = true)
    (h : quote ∉ text) :
    quotedRuns opened n .afterEquals ((Value.quoted quote text true).written ++ t) =
      ⟨n, n + (Value.quoted quote text true).written.size, quote⟩ ::
        quotedRuns n (n + (Value.quoted quote text true).written.size) .outside t := by
  have hsize : n + (Value.quoted quote text true).written.size =
      n + quote.utf8Size + text.size + quote.utf8Size := by
    simp [Value.written, Nat.add_assoc]
  have hwritten : (Value.quoted quote text true).written ++ t =
      quote :: (text ++ quote :: t) := by
    simp [Value.written]
  rw [hwritten, hsize, quotedRuns_cons opened n rfl, HeadState.next, if_pos hquote,
    quotedRuns_quoted n (n + quote.utf8Size) h]

theorem HeadState.foldl_value {quote : Char} {text : Text} (hquote : isQuote quote = true)
    (h : quote ∉ text) (ended : Bool) :
    (Value.quoted quote text ended).written.foldl next .afterEquals =
      if ended then .outside else .quoted quote := by
  have hopen : afterEquals.next quote = .quoted quote := by rw [next, if_pos hquote]
  rw [Value.written, List.cons_append, List.foldl_cons, hopen, List.foldl_append, foldl_quoted h]
  cases ended with
  | false => rfl
  | true => exact if_pos rfl

theorem HeadPart.isEnded_quoted {a : Attribute} {rest gap text : Text} {quote : Char}
    (ha : QuotedAttribute a rest gap text quote true) : HeadPart.IsEnded (.attr a) := by
  rintro b gap' quote' text' ended' hb hb'
  obtain rfl := HeadPart.attr.inj hb
  rw [ha.assignment] at hb'
  cases hb'
  rfl

section Quoted

variable {a : Attribute} {gap text : Text} {quote : Char} {ended : Bool} {parts : List HeadPart}
  (ha : QuotedAttribute a t gap text quote ended)
  (hs : s.isQuoted = false)
  (hrest : (t.foldl HeadState.next .outside).isQuoted = false → ∀ opened,
    Agree (quotedRuns opened (n + a.text.size) .outside t) (parsedRuns (n + a.text.size) parts)
      (hasStrayEquals parts) (∀ part ∈ parts, part.IsEnded))

include ha hs hrest

/-- From the end of an attribute's name on, both readings take its quoted value for the same run. -/
theorem agree_gap
    (hend : ((gap ++ ((Value.quoted quote text ended).written ++ t)).foldl
      HeadState.next s).isQuoted = false) :
    Agree (quotedRuns opened (n + (a.lead ++ a.name).size) s
        (gap ++ ((Value.quoted quote text ended).written ++ t)))
      (parsedRuns n (.attr a :: parts))
      (s.armed (gap ++ ((Value.quoted quote text ended).written ++ t)) || hasStrayEquals parts)
      (∀ part ∈ .attr a :: parts, part.IsEnded) := by
  obtain ⟨before, after, rfl, hbefore, hafter⟩ := ha.gap_cut
  obtain ⟨hquiet, hstate⟩ := HeadState.opens_gap hs hbefore hafter
  have harmed : s.armed (before ++ '=' :: after ++
      ((Value.quoted quote text ended).written ++ t)) = false := by
    rw [List.append_assoc, List.cons_append]
    exact HeadState.armed_gap hbefore
  obtain ⟨hruns, -⟩ := quotedRuns_append opened (n + (a.lead ++ a.name).size)
    (t := (Value.quoted quote text ended).written ++ t) hs hquiet
  rw [List.foldl_append, hstate, List.foldl_append,
    HeadState.foldl_value ha.isQuote ha.not_mem] at hend
  rw [hruns, hstate, harmed, Bool.false_or]
  cases ended with
  | false =>
    -- the tag would end inside the value
    obtain rfl := ha.rest_nil rfl
    cases hend
  | true =>
    have hstop : n + (a.lead ++ a.name).size + (before ++ '=' :: after).size +
        (Value.quoted quote text true).written.size = n + a.text.size := by
      rw [Attribute.text_quoted ha, size_append _ (_ ++ Value.written _),
        size_append _ (Value.written _)]
      omega
    rw [quotedRuns_value ha.isQuote ha.not_mem, hstop, parsedRuns_quoted ha]
    obtain ⟨hsame, hended⟩ := hrest hend (n + (a.lead ++ a.name).size +
      (before ++ '=' :: after).size)
    refine ⟨?_, fun hstray part hpart => ?_⟩
    · rw [← hsame, List.cons.injEq, and_iff_right rfl]
    · obtain rfl | hpart := List.mem_cons.mp hpart
      · exact HeadPart.isEnded_quoted ha
      · exact hended hstray part hpart

/-- Both readings take a quoted value for the same run. -/
theorem agree_quoted (hend : ((a.text ++ t).foldl HeadState.next s).isQuoted = false) :
    Agree (quotedRuns opened n s (a.text ++ t)) (parsedRuns n (.attr a :: parts))
      (s.armed (a.text ++ t) || hasStrayEquals parts)
      (∀ part ∈ .attr a :: parts, part.IsEnded) := by
  have htext := Attribute.text_quoted ha
  have hstart : ∀ run ∈ parsedRuns n (.attr a :: parts),
      n + (a.lead ++ a.name).size ≤ run.start := by
    intro run hrun
    rw [parsedRuns_quoted ha, List.mem_cons] at hrun
    obtain rfl | hrun := hrun
    · exact Nat.le_add_right _ _
    · have hlater := le_start_of_mem_parsedRuns hrun
      rw [htext, size_append] at hlater
      omega
  rw [htext, List.append_assoc, List.append_assoc gap] at hend ⊢
  have hloose : Agree (quotedRuns opened n s (a.lead ++ a.name ++
      (gap ++ ((Value.quoted quote text ended).written ++ t)))) _ _ _ :=
    agree_loose hs hend hstart fun s' hs' hend' => agree_gap ha hs' hrest hend'
  rwa [equalsBeforeQuote_eq_false ha.no_equals, Bool.false_or] at hloose

end Quoted

/-- The runs that are passed over in a text between a tag's name and its end are the quoted values
that are read from it, unless a stray `=` comes before a quote. -/
theorem agree_readAll (cs : Text) (hs : s.isQuoted = false)
    (hend : (cs.foldl HeadState.next s).isQuoted = false) :
    Agree (quotedRuns opened n s cs) (parsedRuns n (HeadPart.readAll cs))
      (s.armed cs || hasStrayEquals (HeadPart.readAll cs))
      (∀ part ∈ HeadPart.readAll cs, part.IsEnded) := by
  induction cs using HeadPart.readAll.induct generalizing s opened n with
  | case1 cs part rest hread ih =>
    obtain ⟨rfl, hne⟩ := HeadPart.eq_append_of_read? hread
    rw [HeadPart.readAll_of_read? hread, hasStrayEquals, HeadPart.flatMap_text_readAll]
    by_cases hloose : part.loose = part.text
    · rw [hloose, parsedRuns_loose hloose hne]
      refine (agree_loose hs hend (fun run hrun => le_start_of_mem_parsedRuns hrun)
        fun s' hs' hend' => ih hs' hend').imp fun hended later hlater => ?_
      obtain rfl | hlater := List.mem_cons.mp hlater
      · exact HeadPart.isEnded_of_loose hloose hne
      · exact hended later hlater
    · cases part with
      | filler text => exact absurd rfl hloose
      | attr a =>
        rw [HeadPart.loose] at hloose
        have hquote : a.quote?.isSome = true := by
          by_contra hnone
          exact hloose (if_neg hnone)
        obtain ⟨gap, text, quote, ended, ha⟩ := quotedAttribute_of_read? hread hquote
        rw [HeadPart.loose, if_pos hquote, equalsBeforeQuote, Bool.false_or]
        exact agree_quoted ha hs (fun hend' opened => ih rfl hend') hend
  | case2 cs hread =>
    obtain rfl := HeadPart.eq_nil_of_read? hread
    have harmed : s.armed [] = false := by cases s <;> rfl
    rw [HeadPart.readAll_nil, harmed]
    exact ⟨⟨fun _ => rfl, fun _ => rfl⟩, fun _ part hpart => by cases hpart⟩

end Agreement

/-! ### The tags of a document -/

theorem HeadPart.pairwise_place (n : Nat) (parts : List HeadPart) :
    (place n parts).Pairwise fun a b => a.stop ≤ b.start := by
  induction parts generalizing n with
  | nil => exact List.Pairwise.nil
  | cons part parts ih =>
    cases part with
    | filler text => exact ih _
    | attr a =>
      refine List.Pairwise.cons (fun b hb => ?_) (ih _)
      obtain ⟨before, after, -, hstart⟩ := split_of_mem_place hb
      rw [hstart]
      exact Nat.le_add_right _ _

theorem Head.eq_or_apart {head : Head} {a b : PlacedAttribute} (ha : a ∈ head.attributes)
    (hb : b ∈ head.attributes) : a = b ∨ a.stop ≤ b.start ∨ b.stop ≤ a.start := by
  have hsymm : Std.Symm fun a b : PlacedAttribute => a.stop ≤ b.start ∨ b.stop ≤ a.start :=
    ⟨fun _ _ => Or.symm⟩
  have hpairs : head.attributes.Pairwise fun a b => a.stop ≤ b.start ∨ b.stop ≤ a.start :=
    (HeadPart.pairwise_place _ _).imp Or.inl
  exact or_iff_not_imp_left.mpr (hpairs.forall ha hb)

/-- A quoted value lies in its own attribute, after the name, and outside all other attributes. -/
theorem Head.outside_of_quotedRun? {head : Head} {a b : PlacedAttribute} {run : QuotedRun}
    (ha : a ∈ head.attributes) (hb : b ∈ head.attributes) (hrun : b.quotedRun? = some run) :
    run.stop ≤ a.start ∨ a.stop ≤ run.start ∨
      a.quotedRun? = some run ∧ a.nameEnd ≤ run.start ∧ run.stop = a.stop := by
  obtain ⟨hstart, hstop⟩ := PlacedAttribute.quotedRun?_eq_some hrun
  have hname : b.start ≤ b.nameEnd := by
    rw [PlacedAttribute.nameEnd, PlacedAttribute.nameStart]
    omega
  obtain rfl | hapart := eq_or_apart ha hb
  · exact .inr (.inr ⟨hrun, hstart, hstop⟩)
  · omega

theorem read?_of_headAt? {doc : Text} {start : Nat} {head : Head}
    (h : headAt? doc start = some head) :
    ∃ cs rest, Lexeme.read? cs = some (.opening head.tag, rest) := by
  obtain ⟨before, rest, after, -, -, hread⟩ := reads_of_headAt? h
  exact ⟨rest, after, hread⟩

/-- The quotes of a tag are read in two ways. The runs that the search for its end passes over are
the quoted values of its attributes exactly where no `=` that begins no quoted value comes before a
quote. There every quoted value ends with its own quote, and a run touches no attribute but the
one whose value it is. -/
theorem quotedRuns_eq_iff {doc : Text} {start : Nat} {head : Head}
    (h : headAt? doc start = some head) :
    (head.quotedRuns = head.attributes.filterMap PlacedAttribute.quotedRun? ↔
      hasStrayEquals (HeadPart.readAll head.tag.inner) = false) ∧
    (hasStrayEquals (HeadPart.readAll head.tag.inner) = false →
      (∀ a ∈ head.attributes, ∀ assignment ∈ a.attr.assignment,
        ∀ quote ∈ assignment.value.quote?,
          assignment.value.written = quote :: assignment.value.text ++ [quote]) ∧
      ∀ run ∈ head.quotedRuns, ∀ a ∈ head.attributes, run.stop ≤ a.start ∨ a.stop ≤ run.start ∨
        a.quotedRun? = some run ∧ a.nameEnd ≤ run.start ∧ run.stop = a.stop) := by
  obtain ⟨cs, rest, hread⟩ := read?_of_headAt? h
  obtain ⟨hiff, hended⟩ : Agree head.quotedRuns
      (head.attributes.filterMap PlacedAttribute.quotedRun?)
      (hasStrayEquals (HeadPart.readAll head.tag.inner))
      (∀ part ∈ HeadPart.readAll head.tag.inner, part.IsEnded) :=
    agree_readAll head.tag.inner rfl (isQuoted_inner hread)
  refine ⟨hiff, fun hstray => ⟨fun a ha assignment hassignment quote hquote => ?_,
    fun run hrun a ha => ?_⟩⟩
  · obtain ⟨before, after, hparts, -⟩ := HeadPart.split_of_mem_place ha
    have hpart : .attr a.attr ∈ HeadPart.readAll head.tag.inner := by simp [hparts]
    obtain ⟨gap, value⟩ := assignment
    cases value with
    | quoted quote' text ended =>
      obtain rfl : quote' = quote := Option.some.inj hquote
      obtain rfl := hended hstray _ hpart a.attr gap quote' text ended rfl hassignment
      rfl
    | unquoted text => cases hquote
  · rw [hiff.mpr hstray] at hrun
    obtain ⟨b, hb, hrun⟩ := List.mem_filterMap.mp hrun
    exact Head.outside_of_quotedRun? ha hb hrun

/-- Blanks around a `=`, and a `>` and the other quote in a value. -/
theorem quotedRuns_eq_iff_spaced :
    Head.quotedRuns ⟨0, ⟨['p'], " a = 'x>\"' b".toList, false⟩⟩ = [⟨7, 12, '\''⟩] := by
  have hhead : headAt? "<p a = 'x>\"' b>".toList 0 =
      some ⟨0, ⟨['p'], " a = 'x>\"' b".toList, false⟩⟩ := by
    decide +kernel
  have hstray : hasStrayEquals (HeadPart.readAll " a = 'x>\"' b".toList) = false := by
    decide +kernel
  rw [(quotedRuns_eq_iff hhead).1.mpr hstray]
  decide +kernel

/-- A second `=` makes the quote that comes next a part of a value without quotes. -/
theorem not_quotedRuns_eq_of_two_equals :
    ¬∀ doc start head, headAt? doc start = some head →
      head.quotedRuns = head.attributes.filterMap PlacedAttribute.quotedRun? := by
  intro h
  have hhead : headAt? "<a b==\"x y\">".toList 0 =
      some ⟨0, ⟨['a'], " b==\"x y\"".toList, false⟩⟩ := by
    decide +kernel
  exact absurd (h _ _ _ hhead) (by decide +kernel)

end Graft.Markup
