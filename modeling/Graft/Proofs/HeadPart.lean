import Graft.Proofs.Quoting

/-! The parts that are read from a text between the name and the end of a tag, and the reading of
parts that are put together anew: a part is read back unless what then follows goes on with it. -/

namespace Graft.Markup

open Text

/-! ### The parts that are read -/

/-- The values that are read before a text. -/
inductive Value.Reads : Value → Text → Prop
  | quoted {quote : Char} {text rest : Text} : isQuote quote = true → quote ∉ text →
      Reads (.quoted quote text true) rest
  | unended {quote : Char} {text : Text} : isQuote quote = true → quote ∉ text →
      Reads (.quoted quote text false) []
  | unquoted {c : Char} {text rest : Text} : isQuote c = false →
      (∀ d ∈ c :: text, isBlank d = false) → (∀ d ∈ rest.head?, isBlank d = true) →
      Reads (.unquoted (c :: text)) rest
  | missing : Reads (.unquoted []) []

theorem Value.reads_of_read {cs rest : Text} {v : Value}
    (hcs : ∀ c ∈ cs.head?, isBlank c = false) (h : read cs = (v, rest)) : v.Reads rest := by
  cases cs with
  | nil =>
    obtain ⟨rfl, rfl⟩ := Prod.mk.inj h
    exact .missing
  | cons c cs =>
    rw [read] at h
    split at h
    · next hquote =>
      split at h
      · next hbreak =>
        obtain ⟨rfl, rfl⟩ := Prod.mk.inj h
        exact .quoted hquote (not_mem_of_breakOn?_single hbreak)
      · next hbreak =>
        obtain ⟨rfl, rfl⟩ := Prod.mk.inj h
        exact .unended hquote (not_mem_of_breakOn?_eq_none hbreak)
    · next hquote =>
      have hc : (!isBlank c) = true := by rw [hcs c rfl]; rfl
      rw [List.takeWhile_cons_of_pos (p := (!isBlank ·)) hc,
        List.dropWhile_cons_of_pos (p := (!isBlank ·)) hc] at h
      obtain ⟨rfl, rfl⟩ := Prod.mk.inj h
      refine .unquoted (by simpa using hquote) (fun d hd => ?_) fun d hd => ?_
      · obtain rfl | hd := List.mem_cons.mp hd
        · exact hcs _ rfl
        · simpa using List.mem_takeWhile_imp hd
      · have hhead := List.head?_dropWhile_not (fun c => !isBlank c) cs
        rw [Option.mem_def.mp hd] at hhead
        simpa using hhead

theorem Value.read_unquoted {c : Char} {text : Text} (hquote : isQuote c = false)
    (htext : ∀ d ∈ c :: text, isBlank d = false) (cs : Text) :
    read (c :: text ++ cs) =
      (.unquoted (c :: text ++ cs.takeWhile (!isBlank ·)), cs.dropWhile (!isBlank ·)) := by
  have hword : ∀ d ∈ c :: text, (!isBlank d) = true := fun d hd => by simp [htext d hd]
  have htake : (c :: text ++ cs).takeWhile (!isBlank ·) = c :: text ++ cs.takeWhile (!isBlank ·) :=
    List.takeWhile_append_of_pos hword
  have hdrop : (c :: text ++ cs).dropWhile (!isBlank ·) = cs.dropWhile (!isBlank ·) :=
    List.dropWhile_append_of_pos hword
  rw [List.cons_append] at htake hdrop ⊢
  rw [read, if_neg (by simp [hquote]), htake, hdrop]

theorem Value.Reads.read {v : Value} {rest : Text} (h : v.Reads rest) :
    Value.read (v.written ++ rest) = (v, rest) := by
  cases h with
  | quoted hquote htext => simp [written, Value.read, hquote, breakOn?_single_append htext]
  | @unended quote text hquote htext =>
    have hbreak : breakOn? [quote] text = none := by
      cases hbreak : breakOn? [quote] text with
      | none => rfl
      | some parts =>
        obtain ⟨rfl, hneedle⟩ := eq_append_of_breakOn? (s := parts.1) (r := parts.2) hbreak
        exact absurd (List.mem_append_right _ (hneedle.subset (by simp))) htext
    simp [written, Value.read, hquote, hbreak]
  | @unquoted c text rest hquote htext hrest =>
    obtain ⟨htake, hdrop⟩ := takeWhile_append_stop (p := (!isBlank ·)) (s := []) (t := rest)
      (by simp) (fun d hd => by simp [hrest d hd])
    rw [List.nil_append] at htake hdrop
    rw [written, read_unquoted hquote htext, htake, hdrop, List.append_nil]
  | missing => rfl

theorem Value.Reads.head_not_blank {v : Value} {rest : Text} (h : v.Reads rest) :
    ∀ c ∈ (v.written ++ rest).head?, isBlank c = false := by
  intro c hc
  cases h with
  | @quoted quote text rest hquote htext =>
    obtain rfl : quote = c := by simpa [written] using hc
    exact HeadState.isBlank_eq_false_of_isQuote hquote
  | @unended quote text hquote htext =>
    obtain rfl : quote = c := by simpa [written] using hc
    exact HeadState.isBlank_eq_false_of_isQuote hquote
  | @unquoted d text rest hquote htext hrest =>
    obtain rfl : d = c := by simpa [written] using hc
    exact htext d List.mem_cons_self
  | missing => cases hc

theorem Assignment.read?_gap {before after cs : Text} (hbefore : ∀ c ∈ before, isBlank c = true)
    (hafter : ∀ c ∈ after, isBlank c = true) (hcs : ∀ c ∈ cs.head?, isBlank c = false) :
    read? (before ++ '=' :: (after ++ cs)) =
      some (⟨before ++ '=' :: after, (Value.read cs).1⟩, (Value.read cs).2) := by
  obtain ⟨htake, hdrop⟩ := takeWhile_append_stop (t := '=' :: (after ++ cs)) hbefore
    (by simp [isBlank])
  obtain ⟨htake', hdrop'⟩ := takeWhile_append_stop hafter hcs
  rw [read?, hdrop]
  simp only [htake, htake', hdrop']

theorem Assignment.reads_of_read? {cs rest : Text} {assignment : Assignment}
    (h : read? cs = some (assignment, rest)) :
    ∃ before after, assignment.gap = before ++ '=' :: after ∧ (∀ c ∈ before, isBlank c = true) ∧
      (∀ c ∈ after, isBlank c = true) ∧ assignment.value.Reads rest := by
  unfold read? at h
  split at h
  · next tail _ =>
    obtain ⟨rfl, rfl⟩ := Prod.mk.inj (Option.some.inj h)
    refine ⟨_, _, rfl, fun c hc => List.mem_takeWhile_imp hc, fun c hc => List.mem_takeWhile_imp hc,
      Value.reads_of_read (fun c hc => ?_) rfl⟩
    have hhead := List.head?_dropWhile_not isBlank tail
    rw [Option.mem_def.mp hc] at hhead
    simpa using hhead
  · cases h

/-- A text that an attribute's name can be read with. -/
def HeadPart.IsName (name : Text) : Prop := name ≠ [] ∧ ∀ c ∈ name, isNameChar c = true

/-- The parts that are read before a text. -/
inductive HeadPart.Reads : HeadPart → Text → Prop
  | blanks {t : Text} : t ≠ [] → (∀ c ∈ t, isBlank c = true) → Reads (.filler t) []
  | equals {t rest : Text} : (∀ c ∈ t, isBlank c = true) → Reads (.filler (t ++ ['='])) rest
  | bare {lead name rest : Text} : (∀ c ∈ lead, isBlank c = true) → IsName name →
      EndsAttribute rest → Reads (.attr ⟨lead, name, none⟩) rest
  | assigned {lead name before after rest : Text} {value : Value} :
      (∀ c ∈ lead, isBlank c = true) → IsName name → (∀ c ∈ before, isBlank c = true) →
      (∀ c ∈ after, isBlank c = true) → value.Reads rest →
      Reads (.attr ⟨lead, name, some ⟨before ++ '=' :: after, value⟩⟩) rest

namespace HeadPart

/-- What a name without an assignment comes before. -/
theorem endsAttribute_of_read? {t : Text} (h : Assignment.read? (t.dropWhile isNameChar) = none) :
    EndsAttribute (t.dropWhile isNameChar) := by
  have hstop := List.head?_dropWhile_not isNameChar t
  generalize t.dropWhile isNameChar = rest at h hstop
  have hequals : ∀ c ∈ (rest.dropWhile isBlank).head?, c ≠ '=' := by
    rintro c hc rfl
    obtain ⟨tail, htail⟩ : ∃ tail, rest.dropWhile isBlank = '=' :: tail := by
      cases hdrop : rest.dropWhile isBlank with
      | nil => simp [hdrop] at hc
      | cons d tail => exact ⟨tail, by simpa [hdrop] using hc⟩
    simp [Assignment.read?, htail] at h
  refine ⟨fun c hc => ?_, hequals⟩
  cases hblank : isBlank c with
  | true => rfl
  | false =>
    rw [Option.mem_def.mp hc] at hstop
    have hc' : c ∈ (rest.dropWhile isBlank).head? := by
      cases rest with
      | nil => cases hc
      | cons d tail =>
        obtain rfl : d = c := by simpa using hc
        simp [hblank]
    simp [isNameChar, hblank, hequals c hc'] at hstop

theorem reads_of_read? {cs rest : Text} {part : HeadPart} (h : read? cs = some (part, rest)) :
    part.Reads rest := by
  have hblank : ∀ c ∈ cs.takeWhile isBlank, isBlank c = true :=
    fun c hc => List.mem_takeWhile_imp hc
  have hstop := List.head?_dropWhile_not isBlank cs
  unfold read? at h
  split at h
  · next hdrop =>
    split at h
    · cases h
    · next hne =>
      obtain ⟨rfl, rfl⟩ := Prod.mk.inj (Option.some.inj h)
      exact .blanks (by simpa using hne) (List.dropWhile_eq_nil_iff.mp hdrop)
  · obtain ⟨rfl, rfl⟩ := Prod.mk.inj (Option.some.inj h)
    exact .equals hblank
  · next c tail hne hdrop =>
    rw [hdrop] at hstop
    have hname : IsName (c :: tail.takeWhile isNameChar) := by
      refine ⟨by simp, fun d hd => ?_⟩
      obtain rfl | hd := List.mem_cons.mp hd
      · have hdne : d ≠ '=' := fun heq => hne heq
        simpa [isNameChar, hdne] using hstop
      · exact List.mem_takeWhile_imp hd
    split at h
    · next assignment after hread =>
      obtain ⟨rfl, rfl⟩ := Prod.mk.inj (Option.some.inj h)
      obtain ⟨before, after, hgap, hbefore, hafter, hvalue⟩ := Assignment.reads_of_read? hread
      obtain ⟨gap, value⟩ := assignment
      obtain rfl : gap = before ++ '=' :: after := hgap
      exact .assigned hblank hname hbefore hafter hvalue
    · next hnone =>
      obtain ⟨rfl, rfl⟩ := Prod.mk.inj (Option.some.inj h)
      exact .bare hblank hname (endsAttribute_of_read? hnone)

/-- The reading of an attribute whose name begins a text after its blanks. -/
theorem read?_name {lead name : Text} (hlead : ∀ c ∈ lead, isBlank c = true) (hname : IsName name)
    (tail : Text) :
    HeadPart.read? (lead ++ (name ++ tail)) =
      match Assignment.read? (tail.dropWhile isNameChar) with
      | some (s, after) => some (.attr ⟨lead, name ++ tail.takeWhile isNameChar, some s⟩, after)
      | none => some (.attr ⟨lead, name ++ tail.takeWhile isNameChar, none⟩,
          tail.dropWhile isNameChar) := by
  obtain ⟨hne, hchar⟩ := hname
  obtain ⟨c, cs, rfl⟩ := List.exists_cons_of_ne_nil hne
  obtain ⟨hblank, hequals⟩ : isBlank c = false ∧ c ≠ '=' := by
    simpa [isNameChar] using hchar c List.mem_cons_self
  obtain ⟨htake, hdrop⟩ :=
    takeWhile_append_stop (t := c :: (cs ++ tail)) hlead (by simpa using hblank)
  have hcs : ∀ d ∈ cs, isNameChar d = true := fun d hd => hchar d (List.mem_cons_of_mem c hd)
  rw [List.cons_append, HeadPart.read?, hdrop]
  simp only [htake, List.takeWhile_append_of_pos hcs, List.dropWhile_append_of_pos hcs]
  rfl

theorem read?_assigned {lead name before after cs : Text} (hlead : ∀ c ∈ lead, isBlank c = true)
    (hname : IsName name) (hbefore : ∀ c ∈ before, isBlank c = true)
    (hafter : ∀ c ∈ after, isBlank c = true) (hcs : ∀ c ∈ cs.head?, isBlank c = false) :
    HeadPart.read? (lead ++ (name ++ (before ++ '=' :: (after ++ cs)))) =
      some (.attr ⟨lead, name, some ⟨before ++ '=' :: after, (Value.read cs).1⟩⟩,
        (Value.read cs).2) := by
  have hstop : ∀ c ∈ (before ++ '=' :: (after ++ cs)).head?, isNameChar c = false := by
    intro c hc
    cases before with
    | nil =>
      obtain rfl : '=' = c := by simpa using hc
      rfl
    | cons d before =>
      obtain rfl : d = c := by simpa using hc
      simp [isNameChar, hbefore d List.mem_cons_self]
  obtain ⟨htake, hdrop⟩ := takeWhile_append_stop (p := isNameChar) (s := []) (by simp) hstop
  rw [List.nil_append] at htake hdrop
  rw [read?_name hlead hname, htake, hdrop, Assignment.read?_gap hbefore hafter hcs,
    List.append_nil]

theorem Reads.read? {part : HeadPart} {rest : Text} (h : part.Reads rest) :
    HeadPart.read? (part.text ++ rest) = some (part, rest) := by
  cases h with
  | @blanks t hne hblank =>
    have hdrop : t.dropWhile isBlank = [] := List.dropWhile_eq_nil_iff.mpr hblank
    simp [text, HeadPart.read?, hdrop, hne]
  | @equals t rest hblank =>
    obtain ⟨htake, hdrop⟩ := takeWhile_append_stop (t := '=' :: rest) hblank (by simp [isBlank])
    simp [text, HeadPart.read?, hdrop, htake]
  | @bare lead name rest hlead hname hends =>
    obtain ⟨htake, hdrop⟩ := takeWhile_append_stop (p := isNameChar) (s := []) (t := rest)
      (by simp) fun c hc => by simp [isNameChar, hends.blank c hc]
    rw [List.nil_append] at htake hdrop
    have hnone : Assignment.read? rest = none := by
      rw [Assignment.read?]
      split
      · next tail htail => exact absurd rfl (hends.noEquals '=' (by simp [htail]))
      · rfl
    have hread := read?_name hlead hname rest
    rw [htake, hdrop, hnone, List.append_nil] at hread
    simpa [text, Attribute.text, Attribute.assignmentText] using hread
  | assigned hlead hname hbefore hafter hvalue =>
    have hread := read?_assigned hlead hname hbefore hafter hvalue.head_not_blank
    rw [hvalue.read] at hread
    simpa [text, Attribute.text, Attribute.assignmentText, Assignment.text] using hread

/-! ### What may follow a part -/

end HeadPart

/-- Whether a value lasts to the end of the text: its last quote is missing, or the whole value. -/
def Value.isOpen : Value → Bool
  | .quoted _ _ ended => !ended
  | .unquoted text => text.isEmpty

/-- Whether a text does not go on with the value before it. -/
def Value.endsAt (rest : Text) (v : Value) : Bool :=
  (!v.isOpen || rest.isEmpty) && (v.quote?.isSome || rest.head?.all isBlank)

namespace HeadPart

def isOpen : HeadPart → Bool
  | .filler text => text.all isBlank
  | .attr a => a.assignment.any (·.value.isOpen)

/-- Whether a text does not go on with the part before it. After a name without a value, it is not
to begin with more of the name, nor with a `=` after blanks. -/
def endsAt (rest : Text) : HeadPart → Bool
  | .filler _ => true
  | .attr a =>
    match a.assignment with
    | none => rest.head?.all isBlank && (rest.dropWhile isBlank).head? != some '='
    | some s => s.value.endsAt rest

end HeadPart

section Follow

variable {v : Value} {part : HeadPart} {rest rest' : Text}

theorem Value.Reads.eq_nil (h : v.Reads rest) (hopen : v.isOpen = true) : rest = [] := by
  cases h with
  | quoted hquote htext => cases hopen
  | unended hquote htext => rfl
  | unquoted hquote htext hrest => cases hopen
  | missing => rfl

theorem Value.Reads.endsAt (h : v.Reads rest) : v.endsAt rest = true := by
  cases h with
  | quoted hquote htext => rfl
  | unended hquote htext => rfl
  | unquoted hquote htext hrest => exact (Option.all_eq_true _ _).mpr hrest
  | missing => rfl

/-- A value is read before any text that does not go on with it. -/
theorem Value.Reads.replace (h : v.Reads rest) (hends : v.endsAt rest' = true) :
    v.Reads rest' := by
  obtain ⟨hopen, hblank⟩ := Bool.and_eq_true_iff.mp hends
  cases h with
  | quoted hquote htext => exact .quoted hquote htext
  | unended hquote htext =>
    obtain rfl : rest' = [] := List.isEmpty_iff.mp hopen
    exact .unended hquote htext
  | unquoted hquote htext => exact .unquoted hquote htext ((Option.all_eq_true _ _).mp hblank)
  | missing =>
    obtain rfl : rest' = [] := List.isEmpty_iff.mp hopen
    exact .missing

/-- Before a text that goes on with it, a value is read with more characters. -/
theorem Value.Reads.text_read_ne (h : v.Reads rest) (hne : v ≠ .unquoted [])
    (hopen : v.isOpen = true → ∀ c ∈ rest'.head?, isBlank c = true)
    (hends : v.endsAt rest' = false) : (Value.read (v.written ++ rest')).1.text ≠ v.text := by
  cases h with
  | quoted hquote htext => cases hends
  | @unended quote text hquote htext =>
    have hrest : rest' ≠ [] := by
      rintro rfl
      cases hends
    intro heq
    cases hbreak : breakOn? [quote] (text ++ rest') with
    | none =>
      have hread : Value.read ((Value.quoted quote text false).written ++ rest') =
          (.quoted quote (text ++ rest') false, []) := by
        simp [Value.written, Value.read, hquote, hbreak]
      rw [hread] at heq
      exact hrest (by simpa [Value.text] using heq)
    | some parts =>
      have hread : Value.read ((Value.quoted quote text false).written ++ rest') =
          (.quoted quote parts.1 true, parts.2.drop 1) := by
        simp [Value.written, Value.read, hquote, hbreak]
      rw [hread] at heq
      obtain ⟨hcut, hneedle⟩ := eq_append_of_breakOn? (s := parts.1) (r := parts.2) hbreak
      obtain rfl : parts.1 = text := heq
      rw [← List.append_cancel_left hcut] at hneedle
      obtain ⟨t, rfl⟩ := hneedle
      have hblank := hopen rfl quote rfl
      rw [HeadState.isBlank_eq_false_of_isQuote hquote] at hblank
      cases hblank
  | @unquoted c text rest hquote htext =>
    obtain ⟨d, tail, rfl, hd⟩ : ∃ d tail, rest' = d :: tail ∧ isBlank d = false := by
      cases rest' with
      | nil => cases hends
      | cons d tail => exact ⟨d, tail, rfl, by simpa [Value.endsAt, isOpen, quote?] using hends⟩
    rw [written, Value.read_unquoted hquote htext,
      List.takeWhile_cons_of_pos (p := (!isBlank ·)) (by simp [hd])]
    simp [Value.text]
  | missing => exact absurd rfl hne

namespace HeadPart

theorem endsAt_bare_iff {lead name : Text} :
    endsAt rest (.attr ⟨lead, name, none⟩) = true ↔ EndsAttribute rest := by
  constructor
  · intro h
    obtain ⟨hblank, hequals⟩ := Bool.and_eq_true_iff.mp h
    refine ⟨fun c hc => ?_, fun c hc heq => ?_⟩
    · simpa [Option.mem_def.mp hc] using hblank
    · simp [Option.mem_def.mp hc, heq] at hequals
  · intro h
    refine Bool.and_eq_true_iff.mpr ⟨?_, ?_⟩
    · exact (Option.all_eq_true _ _).mpr h.blank
    · simpa using fun heq => h.noEquals '=' heq rfl

theorem Reads.eq_nil (h : part.Reads rest) (hopen : part.isOpen = true) : rest = [] := by
  cases h with
  | blanks hne hblank => rfl
  | equals hblank => simp [isOpen, isBlank] at hopen
  | bare hlead hname hends => cases hopen
  | assigned hlead hname hbefore hafter hvalue => exact hvalue.eq_nil hopen

theorem Reads.endsAt (h : part.Reads rest) : part.endsAt rest = true := by
  cases h with
  | blanks hne hblank => rfl
  | equals hblank => rfl
  | bare hlead hname hends => exact endsAt_bare_iff.mpr hends
  | assigned hlead hname hbefore hafter hvalue => exact hvalue.endsAt

theorem Reads.replace (h : part.Reads rest) (hopen : part.isOpen = true → rest' = [])
    (hends : part.endsAt rest' = true) : part.Reads rest' := by
  cases h with
  | blanks hne hblank =>
    obtain rfl := hopen (List.all_eq_true.mpr hblank)
    exact .blanks hne hblank
  | equals hblank => exact .equals hblank
  | bare hlead hname => exact .bare hlead hname (endsAt_bare_iff.mp hends)
  | assigned hlead hname hbefore hafter hvalue =>
    exact .assigned hlead hname hbefore hafter (hvalue.replace hends)

/-- A text whose first character after some blanks is no quote. -/
def Indented (t : Text) : Prop :=
  ∃ blanks c cs, t = blanks ++ c :: cs ∧ blanks ≠ [] ∧ (∀ d ∈ blanks, isBlank d = true) ∧
    isBlank c = false ∧ isQuote c = false

theorem Indented.append {t : Text} (h : Indented t) (u : Text) : Indented (t ++ u) := by
  obtain ⟨blanks, c, cs, rfl, hne, hblanks, hc, hquote⟩ := h
  exact ⟨blanks, c, cs ++ u, by rw [List.append_assoc, List.cons_append], hne, hblanks, hc, hquote⟩

/-- A name without a value goes on, or it is given a value. -/
theorem exists_entry_ne_bare {lead name : Text} (hlead : ∀ c ∈ lead, isBlank c = true)
    (hname : IsName name) (hends : (attr ⟨lead, name, none⟩).endsAt rest' = false) :
    ∃ a' after, HeadPart.read? ((attr ⟨lead, name, none⟩).text ++ rest') =
      some (.attr a', after) ∧ a'.entry ≠ (name, none) := by
  have hread := read?_name hlead hname rest'
  rw [← List.append_assoc] at hread
  have htext : (attr ⟨lead, name, none⟩).text = lead ++ name := by
    simp [text, Attribute.text, Attribute.assignmentText]
  rw [htext]
  cases htake : rest'.takeWhile isNameChar with
  | cons d more =>
    rw [htake] at hread
    have hne : name ++ d :: more ≠ name := by simp
    split at hread
    · exact ⟨_, _, hread, fun heq => hne (congrArg Prod.fst heq)⟩
    · exact ⟨_, _, hread, fun heq => hne (congrArg Prod.fst heq)⟩
  | nil =>
    rw [htake, List.append_nil] at hread
    cases hassigned : Assignment.read? (rest'.dropWhile isNameChar) with
    | some parts =>
      rw [hassigned] at hread
      exact ⟨_, _, hread, fun heq => by cases congrArg Prod.snd heq⟩
    | none =>
      have hattr := endsAttribute_of_read? hassigned
      have hdrop := List.takeWhile_append_dropWhile (p := isNameChar) (l := rest')
      rw [htake, List.nil_append] at hdrop
      rw [hdrop] at hattr
      rw [endsAt_bare_iff.mpr hattr] at hends
      cases hends

/-- A value goes on, and one that is missing is found after the blanks. -/
theorem exists_text_read_ne {after : Text} (hafter : ∀ c ∈ after, isBlank c = true)
    (h : v.Reads rest) (hopen : v.isOpen = true → Indented rest')
    (hends : v.endsAt rest' = false) :
    ∃ blanks cs, (∀ c ∈ after ++ blanks, isBlank c = true) ∧
      (∀ c ∈ cs.head?, isBlank c = false) ∧ v.written ++ rest' = blanks ++ cs ∧
      (Value.read cs).1.text ≠ v.text := by
  by_cases hmissing : v = .unquoted []
  · obtain rfl := hmissing
    obtain ⟨blanks, c, cs, rfl, -, hblanks, hc, hquote⟩ := hopen rfl
    refine ⟨blanks, c :: cs, by simpa [or_imp, forall_and] using ⟨hafter, hblanks⟩,
      by simpa using hc, rfl, ?_⟩
    simp [Value.read, hquote, hc, Value.text]
  · refine ⟨[], v.written ++ rest', by simpa using hafter, ?_, rfl, ?_⟩
    · have hwritten : v.written ≠ [] := by
        cases v with
        | quoted quote text ended => simp [Value.written]
        | unquoted text => simpa [Value.written] using hmissing
      rw [head?_append_of_ne_nil hwritten, ← head?_append_of_ne_nil (t := rest) hwritten]
      exact h.head_not_blank
    · refine h.text_read_ne hmissing (fun hopen' c hc => ?_) hends
      obtain ⟨blanks, d, ds, rfl, hne, hblank, -⟩ := hopen hopen'
      rw [head?_append_of_ne_nil hne] at hc
      exact hblank c (List.mem_of_mem_head? hc)

/-- Before a text that goes on with it, an attribute is read with another name or value. -/
theorem Reads.exists_entry_ne {a : Attribute} (h : (attr a).Reads rest)
    (hopen : (attr a).isOpen = true → Indented rest') (hends : (attr a).endsAt rest' = false) :
    ∃ a' after, HeadPart.read? ((attr a).text ++ rest') = some (.attr a', after) ∧
      a'.entry ≠ a.entry := by
  cases h with
  | bare hlead hname _ => exact exists_entry_ne_bare hlead hname hends
  | @assigned lead name before after rest v hlead hname hbefore hafter hvalue =>
    obtain ⟨blanks, cs, hgap, hhead, hcut, hne⟩ := exists_text_read_ne hafter hvalue hopen hends
    have hread := read?_assigned hlead hname hbefore hgap hhead
    have htext : (attr ⟨lead, name, some ⟨before ++ '=' :: after, v⟩⟩).text ++ rest' =
        lead ++ (name ++ (before ++ '=' :: (after ++ (v.written ++ rest')))) := by
      simp [text, Attribute.text, Attribute.assignmentText, Assignment.text]
    rw [List.append_assoc] at hread
    rw [htext, hcut]
    exact ⟨_, _, hread, fun heq => hne (Option.some.inj (congrArg Prod.snd heq))⟩

end HeadPart

end Follow

/-! ### Parts put together -/

namespace HeadPart

/-- Parts each of which can be read. None comes after an open one but an attribute that is set off
from it. -/
inductive Legible : List HeadPart → Prop
  | nil : Legible []
  | cons {part : HeadPart} {rest : Text} {parts : List HeadPart} : part.Reads rest →
      (part.isOpen = true → parts = []) → Legible parts → Legible (part :: parts)
  | added {a b : Attribute} {rest : Text} {parts : List HeadPart} : (attr a).Reads rest →
      Indented b.text → Legible (.attr b :: parts) → Legible (.attr a :: .attr b :: parts)

theorem legible_readAll (cs : Text) : Legible (readAll cs) := by
  induction cs using readAll.induct with
  | case1 cs part rest hread ih =>
    have hreads := reads_of_read? hread
    rw [readAll_of_read? hread]
    refine .cons hreads (fun hopen => ?_) ih
    rw [hreads.eq_nil hopen, readAll_nil]
  | case2 cs hread =>
    rw [eq_nil_of_read? hread, readAll_nil]
    exact .nil

theorem legible_filter_readAll (p : HeadPart → Bool) (cs : Text) :
    Legible ((readAll cs).filter p) := by
  induction cs using readAll.induct with
  | case1 cs part rest hread ih =>
    have hreads := reads_of_read? hread
    rw [readAll_of_read? hread, List.filter_cons]
    split
    · refine .cons hreads (fun hopen => ?_) ih
      rw [hreads.eq_nil hopen, readAll_nil, List.filter_nil]
    · exact ih
  | case2 cs hread =>
    rw [eq_nil_of_read? hread, readAll_nil]
    exact .nil

/-- Whether no part goes on with the part before it. -/
def apart : List HeadPart → Bool
  | [] => true
  | part :: parts => part.endsAt (parts.flatMap text) && apart parts

theorem apart_readAll (cs : Text) : apart (readAll cs) = true := by
  induction cs using readAll.induct with
  | case1 cs part rest hread ih =>
    rw [readAll_of_read? hread, apart, flatMap_text_readAll, (reads_of_read? hread).endsAt, ih]
    rfl
  | case2 cs hread =>
    rw [eq_nil_of_read? hread, readAll_nil]
    rfl

/-- A text does not go on with an open attribute only when there is no text. -/
theorem eq_nil_of_endsAt {a : Attribute} {rest : Text} (hends : (attr a).endsAt rest = true)
    (hopen : (attr a).isOpen = true) : rest = [] := by
  obtain ⟨lead, name, assignment⟩ := a
  cases assignment with
  | none => cases hopen
  | some s =>
    have hopen : s.value.isOpen = true := hopen
    have hends : s.value.endsAt rest = true := hends
    rw [Value.endsAt, hopen, Bool.not_true, Bool.false_or] at hends
    exact List.isEmpty_iff.mp (Bool.and_eq_true_iff.mp hends).1

theorem readAll_flatMap {parts : List HeadPart} (h : Legible parts) (hapart : apart parts = true) :
    readAll (parts.flatMap text) = parts := by
  induction h with
  | nil => exact readAll_nil
  | @cons part rest parts hreads hopen _ ih =>
    obtain ⟨hends, hparts⟩ := Bool.and_eq_true_iff.mp hapart
    have hreads' : part.Reads (parts.flatMap text) :=
      hreads.replace (fun hopen' => by rw [hopen hopen', List.flatMap_nil]) hends
    rw [List.flatMap_cons, readAll_of_read? hreads'.read?, ih hparts]
  | @added a b rest parts hreads _ _ ih =>
    obtain ⟨hends, hparts⟩ := Bool.and_eq_true_iff.mp hapart
    have hreads' := hreads.replace (eq_nil_of_endsAt hends) hends
    rw [List.flatMap_cons, readAll_of_read? hreads'.read?, ih hparts]

def attr? : HeadPart → Option Attribute
  | .attr a => some a
  | .filler _ => none

theorem mem_filterMap_attr? {parts : List HeadPart} {a : Attribute} :
    a ∈ parts.filterMap attr? ↔ attr a ∈ parts := by
  rw [List.mem_filterMap]
  constructor
  · rintro ⟨part, hpart, heq⟩
    cases part with
    | filler t => cases heq
    | attr b =>
      obtain rfl := Option.some.inj heq
      exact hpart
  · intro h
    exact ⟨attr a, h, rfl⟩

def entries (parts : List HeadPart) : List (Text × Option Text) :=
  (parts.filterMap attr?).map Attribute.entry

theorem endsAt_nil (part : HeadPart) : part.endsAt [] = true := by
  cases part with
  | filler t => rfl
  | attr a =>
    rw [endsAt]
    split
    · rfl
    · simp [Value.endsAt]

/-- An attribute is read back before a text only where the text does not go on with it. -/
theorem endsAt_of_entries {a : Attribute} {rest rest' : Text} {later : List (Text × Option Text)}
    (h : (attr a).Reads rest) (hopen : (attr a).isOpen = true → rest' = [] ∨ Indented rest')
    (hentries : entries (readAll ((attr a).text ++ rest')) = a.entry :: later) :
    (attr a).endsAt rest' = true ∧ entries (readAll rest') = later := by
  cases hends : (attr a).endsAt rest' with
  | true =>
    rw [readAll_of_read? (h.replace (eq_nil_of_endsAt hends) hends).read?] at hentries
    exact ⟨rfl, (List.cons.inj hentries).2⟩
  | false =>
    have hne : rest' ≠ [] := by
      rintro rfl
      rw [endsAt_nil] at hends
      cases hends
    obtain ⟨a', after, hread, hentry⟩ :=
      h.exists_entry_ne (fun hopen' => (hopen hopen').resolve_left hne) hends
    rw [readAll_of_read? hread] at hentries
    exact absurd (List.cons.inj hentries).1 hentry

/-- The attributes of parts that are put together are read back where the parts stay apart, and
nowhere else. -/
theorem entries_readAll_iff {parts : List HeadPart} (h : Legible parts) :
    entries (readAll (parts.flatMap text)) = entries parts ↔ apart parts = true := by
  refine ⟨fun hentries => ?_, fun hapart => by rw [readAll_flatMap h hapart]⟩
  -- the first entry decides where the first part ends, so that the others are read from the rest
  induction h with
  | nil => rfl
  | @cons part rest parts hreads hopen _ ih =>
    have hopen' : part.isOpen = true → parts.flatMap text = [] :=
      fun hopen' => by rw [hopen hopen', List.flatMap_nil]
    rw [List.flatMap_cons] at hentries
    cases part with
    | filler t =>
      rw [readAll_of_read? (hreads.replace hopen' rfl).read?] at hentries
      exact ih hentries
    | attr a =>
      obtain ⟨hends, hlater⟩ :=
        endsAt_of_entries hreads (fun hopen => .inl (hopen' hopen)) hentries
      rw [apart, hends, ih hlater]
      rfl
  | @added a b rest parts hreads hindented _ ih =>
    have hindented' : Indented ((attr b :: parts).flatMap text) := hindented.append _
    obtain ⟨hends, hlater⟩ := endsAt_of_entries hreads (fun _ => .inr hindented') hentries
    rw [apart, hends, ih hlater]
    rfl

/-! ### Ends of tags among the parts -/

/-- The characters of a name and its value. -/
def letters (entry : Text × Option Text) : Text := entry.1 ++ entry.2.getD []

theorem count_blank {t : Text} (h : ∀ c ∈ t, isBlank c = true) : t.count '>' = 0 :=
  List.count_eq_zero.mpr fun hmem => (ne_of_isBlank (h _ hmem)).2.1 rfl

theorem count_written {v : Value} {rest : Text} (h : v.Reads rest) :
    v.written.count '>' = v.text.count '>' := by
  have hquoted {quote : Char} (hquote : isQuote quote = true) : quote ≠ '>' := by
    rintro rfl
    cases hquote
  cases h with
  | quoted hquote htext => simp [Value.written, Value.text, hquoted hquote]
  | unended hquote htext => simp [Value.written, Value.text, hquoted hquote]
  | unquoted hquote htext hrest => rfl
  | missing => rfl

theorem count_text_read {part : HeadPart} {rest : Text} (h : part.Reads rest) :
    part.text.count '>' = ((entries [part]).flatMap letters).count '>' := by
  cases h with
  | blanks hne hblank => exact count_blank hblank
  | equals hblank =>
    rw [text, List.count_append, count_blank hblank]
    rfl
  | bare hlead hname hends =>
    simp [text, Attribute.text, Attribute.assignmentText, entries, attr?, Attribute.entry,
      Attribute.value?, letters, count_blank hlead]
  | assigned hlead hname hbefore hafter hvalue =>
    simp [text, Attribute.text, Attribute.assignmentText, Assignment.text, entries, attr?,
      Attribute.entry, Attribute.value?, letters, count_blank hlead, count_blank hbefore,
      count_blank hafter, count_written hvalue]

/-- A `>` among the parts stands in the name or the value of an attribute. -/
theorem count_flatMap_text {parts : List HeadPart} (h : Legible parts) :
    (parts.flatMap text).count '>' = ((entries parts).flatMap letters).count '>' := by
  have hcons {part : HeadPart} {rest : Text} {parts : List HeadPart} (hreads : part.Reads rest)
      (ih : (parts.flatMap text).count '>' = ((entries parts).flatMap letters).count '>') :
      ((part :: parts).flatMap text).count '>' =
        ((entries (part :: parts)).flatMap letters).count '>' := by
    have hentries : entries (part :: parts) = entries [part] ++ entries parts := by
      cases part <;> rfl
    rw [hentries, List.flatMap_cons, List.flatMap_append, List.count_append, List.count_append,
      ← count_text_read hreads, ih]
  induction h with
  | nil => rfl
  | cons hreads _ _ ih => exact hcons hreads ih
  | added hreads _ _ ih => exact hcons hreads ih

end HeadPart

end Graft.Markup
