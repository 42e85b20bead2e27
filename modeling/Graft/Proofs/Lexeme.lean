import Graft.Proofs.Forest

/-! The lexeme at the front of a text, and the text after it: a lexeme that was ended is read the
same whatever comes after it, and one that was not lasts to the end of the text. -/

namespace Graft.Text

/-- An occurrence that was found first is found first whatever text comes after it. -/
theorem breakOn?_replace {needle s r t : Text} (hr : needle <+: r)
    (h : breakOn? needle (s ++ (r ++ t)) = some (s, r ++ t)) (t' : Text) :
    breakOn? needle (s ++ (r ++ t')) = some (s, r ++ t') := by
  induction s with
  | nil =>
    refine breakOn?_append (s := []) (hr.trans (List.prefix_append r t')) fun u hu hsuf => ?_
    exact absurd (List.suffix_nil.mp hsuf) hu
  | cons c s ih =>
    simp only [List.cons_append, breakOn?] at h ⊢
    split at h
    · cases (Prod.mk.inj (Option.some.inj h)).1
    · next hno =>
      obtain ⟨⟨before, rest⟩, hs, heq⟩ := Option.map_eq_some_iff.mp h
      obtain ⟨hbefore, rfl⟩ := Prod.mk.inj heq
      obtain rfl : before = s := (List.cons.inj hbefore).2
      -- an occurrence that begins before `r` lies in `s ++ r`, since `r` begins with one
      have hno' : ¬needle.isPrefixOf (c :: (before ++ (r ++ t'))) = true := by
        rw [List.isPrefixOf_iff_prefix] at hno ⊢
        intro hpre
        have hlength : needle.length ≤ (c :: (before ++ r)).length := by
          have := hr.length_le
          simp only [List.length_cons, List.length_append]
          omega
        have hin : needle <+: c :: (before ++ r) := by
          refine List.prefix_of_prefix_length_le hpre ?_ hlength
          rw [← List.append_assoc, ← List.cons_append]
          exact List.prefix_append _ _
        apply hno
        rw [← List.append_assoc, ← List.cons_append]
        exact hin.trans (List.prefix_append _ _)
      rw [if_neg hno', ih hs]
      rfl

theorem head?_append_cons (s : Text) (c : Char) (t t' : Text) :
    (s ++ c :: t').head? = (s ++ c :: t).head? := by
  cases s <;> rfl

end Graft.Text

namespace Graft.Markup

open Text

/-! ### Lexemes and the text after them -/

theorem isTagName_of_readName? {t name rest : Text} (h : readName? t = some (name, rest)) :
    IsTagName name ∧ ∀ c ∈ rest.head?, isNameChar c = false := by
  cases t with
  | nil => simp [readName?] at h
  | cons c cs =>
    simp only [readName?] at h
    split at h
    · next hc =>
      obtain ⟨rfl, rfl⟩ := Prod.mk.inj (Option.some.inj h)
      refine ⟨⟨c, _, rfl, hc, fun d hd => List.mem_takeWhile_imp hd⟩, fun d hd => ?_⟩
      have hhead := List.head?_dropWhile_not isNameChar cs
      rw [Option.mem_def.mp hd] at hhead
      simpa using hhead
    · cases h

theorem readName?_replace {name rest rest' : Text}
    (h : readName? (name ++ rest) = some (name, rest)) (hhead : rest'.head? = rest.head?) :
    readName? (name ++ rest') = some (name, rest') := by
  obtain ⟨hname, hstop⟩ := isTagName_of_readName? h
  exact readName?_append hname (by rwa [hhead])

theorem readHead?_replace {s : HeadState} {head rest : Text}
    (h : readHead? s (head ++ '>' :: rest) = some (head, rest)) (rest' : Text) :
    readHead? s (head ++ '>' :: rest') = some (head, rest') := by
  induction head generalizing s with
  | nil =>
    simp only [List.nil_append, readHead?] at h ⊢
    split at h
    · next hend => rw [if_pos hend]
    · obtain ⟨parts, -, heq⟩ := Option.map_eq_some_iff.mp h
      cases (Prod.mk.inj heq).1
  | cons c cs ih =>
    simp only [List.cons_append, readHead?] at h ⊢
    split at h
    · cases (Prod.mk.inj (Option.some.inj h)).1
    · next hend =>
      obtain ⟨⟨inner, after⟩, hs, heq⟩ := Option.map_eq_some_iff.mp h
      obtain ⟨hinner, rfl⟩ := Prod.mk.inj heq
      obtain rfl := (List.cons.inj hinner).2
      rw [if_neg hend, ih hs]
      rfl

namespace Lexeme

/-- Whether the end of a comment or declaration was found. A tag always ends. -/
def isEnded : Lexeme → Bool
  | .opening _ | .closing _ => true
  | .comment _ ended | .declaration _ ended => ended

variable {cs rest : Text} {l : Lexeme}

/-- How a lexeme comes to be read. -/
theorem read?_cases (h : read? cs = some (l, rest)) :
    (∃ tail, cs = '<' :: '/' :: tail ∧ readClosing? tail = some (l, rest)) ∨
    (∃ tail, cs = '<' :: '!' :: '-' :: '-' :: tail ∧ readComment tail = (l, rest)) ∨
    (∃ mark tail, cs = '<' :: mark :: tail ∧ (mark = '!' ∧ ¬['-', '-'] <+: tail ∨ mark = '?') ∧
      readDeclaration (mark :: tail) = (l, rest)) ∨
    ∃ tail, cs = '<' :: tail ∧ readOpening? tail = some (l, rest) := by
  unfold read? at h
  split at h
  · next tail => exact .inl ⟨tail, rfl, h⟩
  · next tail => exact .inr (.inl ⟨tail, rfl, Option.some.inj h⟩)
  · next tail hno =>
    refine .inr (.inr (.inl ⟨'!', tail, rfl, .inl ⟨rfl, ?_⟩, Option.some.inj h⟩))
    rintro ⟨after, rfl⟩
    exact hno after rfl
  · next tail => exact .inr (.inr (.inl ⟨'?', tail, rfl, .inr rfl, Option.some.inj h⟩))
  · next tail _ _ _ _ => exact .inr (.inr (.inr ⟨tail, rfl, h⟩))
  · cases h

theorem readClosing?_replace (h : readClosing? cs = some (l, rest)) :
    ∃ inner, l.text = '<' :: '/' :: inner ∧
      ∀ rest', readClosing? (inner ++ rest') = some (l, rest') := by
  simp only [readClosing?, Option.bind_eq_bind, Option.bind_eq_some_iff] at h
  obtain ⟨⟨name, tail⟩, hname, ⟨junk, after⟩, hbreak, heq⟩ := h
  obtain ⟨rfl, rfl⟩ := Prod.mk.inj (Option.some.inj heq)
  obtain ⟨rfl, -⟩ := eq_append_of_readName? hname
  obtain ⟨htail, after, rfl⟩ := eq_append_of_breakOn? hbreak
  obtain rfl : tail = junk ++ (['>'] ++ after) := htail
  refine ⟨name ++ (junk ++ ['>']), by simp [text, CloseTag.text], fun rest' => ?_⟩
  have hname' : readName? (name ++ (junk ++ (['>'] ++ rest'))) =
      some (name, junk ++ (['>'] ++ rest')) :=
    readName?_replace hname (head?_append_cons junk '>' after rest')
  have hbreak' := breakOn?_replace List.prefix_rfl hbreak rest'
  rw [List.append_assoc, List.append_assoc]
  simp only [readClosing?, Option.bind_eq_bind, hname', hbreak', Option.bind_some]
  rfl

theorem readOpening?_replace (h : readOpening? cs = some (l, rest)) :
    ∃ c inner, l.text = '<' :: c :: inner ∧ c.isAlpha = true ∧
      ∀ rest', readOpening? (c :: inner ++ rest') = some (l, rest') := by
  simp only [readOpening?, Option.bind_eq_bind, Option.bind_eq_some_iff] at h
  obtain ⟨⟨name, tail⟩, hname, ⟨head, after⟩, hhead, heq⟩ := h
  obtain ⟨rfl, rfl⟩ := Prod.mk.inj (Option.some.inj heq)
  obtain rfl : tail = head ++ '>' :: after := eq_append_of_readHead? hhead
  obtain ⟨rfl, -⟩ := eq_append_of_readName? hname
  obtain ⟨⟨c, letters, rfl, hc, -⟩, -⟩ := isTagName_of_readName? hname
  refine ⟨c, letters ++ (head ++ ['>']), by simp [text, OpenTag.text_ofHead], hc, fun rest' => ?_⟩
  have hname' : readName? (c :: letters ++ (head ++ '>' :: rest')) =
      some (c :: letters, head ++ '>' :: rest') :=
    readName?_replace hname (head?_append_cons head '>' after rest')
  have htext : c :: (letters ++ (head ++ ['>'])) ++ rest' =
      c :: letters ++ (head ++ '>' :: rest') := by
    simp
  rw [htext]
  simp only [readOpening?, Option.bind_eq_bind, hname', readHead?_replace hhead rest',
    Option.bind_some]
  rfl

theorem readComment_replace (h : readComment cs = (l, rest)) (hended : l.isEnded = true) :
    ∃ inner, l.text = '<' :: '!' :: '-' :: '-' :: inner ∧
      ∀ rest', readComment (inner ++ rest') = (l, rest') := by
  rw [readComment] at h
  split at h
  · next body after hbreak =>
    obtain ⟨rfl, rfl⟩ := Prod.mk.inj h
    obtain ⟨rfl, after, rfl⟩ := eq_append_of_breakOn? hbreak
    refine ⟨body ++ ['-', '-', '>'], by simp [text], fun rest' => ?_⟩
    rw [List.append_assoc, readComment, breakOn?_replace List.prefix_rfl hbreak rest']
    rfl
  · obtain ⟨rfl, -⟩ := Prod.mk.inj h
    cases hended

/-- A declaration's text ends with a `>`, so what comes after it cannot make a comment of it. -/
theorem readDeclaration_replace {mark : Char} (hmark : mark ≠ '>')
    (h : readDeclaration (mark :: cs) = (l, rest)) (hended : l.isEnded = true) :
    ∃ body, l.text = '<' :: mark :: (body ++ ['>']) ∧ cs = body ++ '>' :: rest ∧
      ∀ rest', readDeclaration (mark :: (body ++ '>' :: rest')) = (l, rest') := by
  rw [readDeclaration] at h
  split at h
  · next body after hbreak =>
    obtain ⟨rfl, rfl⟩ := Prod.mk.inj h
    obtain ⟨hcs, after, rfl⟩ := eq_append_of_breakOn? hbreak
    cases body with
    | nil => exact absurd (List.cons.inj hcs).1 hmark
    | cons c body =>
      obtain ⟨rfl, rfl⟩ := List.cons.inj hcs
      refine ⟨body, by simp [text], rfl, fun rest' => ?_⟩
      have hbreak' := breakOn?_replace (s := mark :: body) List.prefix_rfl hbreak rest'
      change breakOn? ['>'] (mark :: (body ++ '>' :: rest')) = _ at hbreak'
      rw [readDeclaration, hbreak']
      rfl
  · obtain ⟨rfl, -⟩ := Prod.mk.inj h
    cases hended

/-- A lexeme that was ended is read back from its text, whatever follows. -/
theorem read?_replace (h : read? cs = some (l, rest)) (hended : l.isEnded = true)
    (rest' : Text) : read? (l.text ++ rest') = some (l, rest') := by
  obtain ⟨tail, -, hread⟩ | ⟨tail, -, hread⟩ | ⟨mark, tail, -, hmark, hread⟩ | ⟨tail, -, hread⟩ :=
    read?_cases h
  · obtain ⟨inner, htext, hinner⟩ := readClosing?_replace hread
    rw [htext]
    exact hinner rest'
  · obtain ⟨inner, htext, hinner⟩ := readComment_replace hread hended
    rw [htext]
    exact congrArg some (hinner rest')
  · have hne : mark ≠ '>' := by
      rintro rfl
      simp at hmark
    obtain ⟨body, htext, rfl, hbody⟩ := readDeclaration_replace hne hread hended
    have hcs : l.text ++ rest' = '<' :: mark :: (body ++ '>' :: rest') := by
      rw [htext]
      simp
    rw [hcs]
    obtain ⟨rfl, hdash⟩ | rfl := hmark
    · have hdash' : ¬['-', '-'] <+: body ++ '>' :: rest' := by
        match body with
        | [] => simp
        | [c] => simp
        | c :: d :: body => simpa using hdash
      exact (read?_bang hdash').trans (congrArg some (hbody rest'))
    · exact congrArg some (hbody rest')
  · obtain ⟨c, inner, htext, hc, hinner⟩ := readOpening?_replace hread
    rw [htext]
    exact (read?_letter hc (inner ++ rest')).trans (hinner rest')

theorem isEnded_of_readClosing? (h : readClosing? cs = some (l, rest)) : l.isEnded = true := by
  simp only [readClosing?, Option.bind_eq_bind, Option.bind_eq_some_iff] at h
  obtain ⟨_, -, _, -, heq⟩ := h
  obtain ⟨rfl, -⟩ := Prod.mk.inj (Option.some.inj heq)
  rfl

theorem isEnded_of_readOpening? (h : readOpening? cs = some (l, rest)) : l.isEnded = true := by
  simp only [readOpening?, Option.bind_eq_bind, Option.bind_eq_some_iff] at h
  obtain ⟨_, -, _, -, heq⟩ := h
  obtain ⟨rfl, -⟩ := Prod.mk.inj (Option.some.inj heq)
  rfl

/-- An opening tag has the name and the head that are read after its `<`. -/
theorem exists_of_read?_opening {tag : OpenTag} (h : read? cs = some (.opening tag, rest)) :
    ∃ name head t tail, readName? t = some (name, tail) ∧
      readHead? .outside tail = some (head, rest) ∧ tag = .ofHead name head := by
  obtain ⟨tail, -, hread⟩ | ⟨tail, -, hread⟩ | ⟨mark, tail, -, -, hread⟩ | ⟨tail, -, hread⟩ :=
    read?_cases h
  · simp only [readClosing?, Option.bind_eq_bind, Option.bind_eq_some_iff] at hread
    obtain ⟨_, -, _, -, heq⟩ := hread
    cases (Prod.mk.inj (Option.some.inj heq)).1
  · rw [readComment] at hread
    split at hread <;> cases (Prod.mk.inj hread).1
  · rw [readDeclaration] at hread
    split at hread <;> cases (Prod.mk.inj hread).1
  · simp only [readOpening?, Option.bind_eq_bind, Option.bind_eq_some_iff] at hread
    obtain ⟨⟨name, after⟩, hname, ⟨head, rest'⟩, hhead, heq⟩ := hread
    obtain ⟨htag, rfl⟩ := Prod.mk.inj (Option.some.inj heq)
    exact ⟨name, head, tail, after, hname, hhead, (Lexeme.opening.inj htag).symm⟩

theorem isTagName_of_read? {tag : OpenTag} (h : read? cs = some (.opening tag, rest)) :
    IsTagName tag.name := by
  obtain ⟨name, head, t, tail, hname, -, rfl⟩ := exists_of_read?_opening h
  have hsame : (OpenTag.ofHead name head).name = name := by
    rw [OpenTag.ofHead]
    split <;> rfl
  rw [hsame]
  exact (isTagName_of_readName? hname).1

/-- A closing tag has the name that is read after its `</`, and ends with the first `>` after it. -/
theorem exists_of_read?_closing {tag : CloseTag} (h : read? cs = some (.closing tag, rest)) :
    ∃ tail after, cs = '<' :: '/' :: tail ∧ readName? tail = some (tag.name, after) ∧
      breakOn? ['>'] after = some (tag.junk, '>' :: rest) := by
  obtain ⟨tail, rfl, hread⟩ | ⟨tail, -, hread⟩ | ⟨mark, tail, -, -, hread⟩ | ⟨tail, -, hread⟩ :=
    read?_cases h
  · simp only [readClosing?, Option.bind_eq_bind, Option.bind_eq_some_iff] at hread
    obtain ⟨⟨name, after⟩, hname, ⟨junk, later⟩, hbreak, heq⟩ := hread
    obtain ⟨htag, rfl⟩ := Prod.mk.inj (Option.some.inj heq)
    obtain rfl := Lexeme.closing.inj htag
    obtain ⟨-, later, rfl⟩ := eq_append_of_breakOn? hbreak
    exact ⟨tail, after, rfl, hname, hbreak⟩
  · rw [readComment] at hread
    split at hread <;> cases (Prod.mk.inj hread).1
  · rw [readDeclaration] at hread
    split at hread <;> cases (Prod.mk.inj hread).1
  · simp only [readOpening?, Option.bind_eq_bind, Option.bind_eq_some_iff] at hread
    obtain ⟨_, -, _, -, heq⟩ := hread
    cases (Prod.mk.inj (Option.some.inj heq)).1

theorem isTagName_of_read?_closing {tag : CloseTag} (h : read? cs = some (.closing tag, rest)) :
    IsTagName tag.name := by
  obtain ⟨tail, after, -, hname, -⟩ := exists_of_read?_closing h
  exact (isTagName_of_readName? hname).1

/-- What is never ended lasts to the end of the text. -/
theorem rest_eq_nil_of_not_isEnded (h : read? cs = some (l, rest)) (hended : l.isEnded = false) :
    rest = [] := by
  obtain ⟨tail, -, hread⟩ | ⟨tail, -, hread⟩ | ⟨mark, tail, -, -, hread⟩ | ⟨tail, -, hread⟩ :=
    read?_cases h
  · rw [isEnded_of_readClosing? hread] at hended
    cases hended
  · rw [readComment] at hread
    split at hread <;> obtain ⟨rfl, rfl⟩ := Prod.mk.inj hread
    · cases hended
    · rfl
  · rw [readDeclaration] at hread
    split at hread <;> obtain ⟨rfl, rfl⟩ := Prod.mk.inj hread
    · cases hended
    · rfl
  · rw [isEnded_of_readOpening? hread] at hended
    cases hended

/-- Where a lexeme begins in a text, one begins in every longer text. -/
theorem isSome_read?_append (h : read? cs = some (l, rest)) (t : Text) :
    (read? (cs ++ t)).isSome = true := by
  have hended : l.isEnded = true → (read? (cs ++ t)).isSome = true := by
    intro hended
    rw [eq_append_of_read? h, List.append_assoc, read?_replace h hended]
    rfl
  obtain ⟨tail, -, hread⟩ | ⟨tail, rfl, -⟩ | ⟨mark, tail, rfl, hmark, -⟩ | ⟨tail, -, hread⟩ :=
    read?_cases h
  · exact hended (isEnded_of_readClosing? hread)
  · rfl
  · obtain ⟨rfl, -⟩ | rfl := hmark
    · by_cases hdash : ['-', '-'] <+: tail ++ t
      · obtain ⟨after, hafter⟩ := hdash
        rw [List.cons_append, List.cons_append, ← hafter]
        rfl
      · rw [List.cons_append, List.cons_append, read?_bang hdash]
        rfl
    · rfl
  · exact hended (isEnded_of_readOpening? hread)

theorem read?_eq_none_of_append {s t : Text} (h : read? (s ++ t) = none) : read? s = none := by
  cases hs : read? s with
  | none => rfl
  | some parts =>
    obtain ⟨l, rest⟩ := parts
    have hsome := isSome_read?_append hs t
    rw [h] at hsome
    cases hsome

end Lexeme

end Graft.Markup
