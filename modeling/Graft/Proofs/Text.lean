import Graft.Text

/-! Runs, first occurrences and cuts of a text that is put together from parts. -/

namespace Graft.Text

/-- A run of characters that a predicate admits, before a character that it does not admit. -/
theorem takeWhile_append_stop {p : Char → Bool} {s t : Text} (hs : ∀ c ∈ s, p c = true)
    (ht : ∀ c ∈ t.head?, p c = false) : (s ++ t).takeWhile p = s ∧ (s ++ t).dropWhile p = t := by
  rw [List.takeWhile_append_of_pos hs, List.dropWhile_append_of_pos hs]
  cases t with
  | nil => simp
  | cons c cs =>
    have hc : p c = false := ht c rfl
    simp [hc]

theorem head?_append_of_ne_nil {s t : Text} (hs : s ≠ []) : (s ++ t).head? = s.head? := by
  cases s with
  | nil => exact absurd rfl hs
  | cons c cs => rfl

theorem getLast?_append_of_ne_nil {s t : Text} (ht : t ≠ []) :
    (s ++ t).getLast? = t.getLast? := by
  rw [List.getLast?_append, List.getLast?_eq_some_getLast ht, Option.some_or]

/-- The first occurrence is at the end of a text in which none begins earlier. -/
theorem breakOn?_append {needle s r : Text} (hr : needle <+: r)
    (hs : ∀ t, t ≠ [] → t <:+ s → ¬needle <+: t ++ r) : breakOn? needle (s ++ r) = some (s, r) := by
  induction s with
  | nil =>
    cases r with
    | nil => simp [breakOn?, List.prefix_nil.mp hr]
    | cons c cs => simp [breakOn?, hr]
  | cons c cs ih =>
    have hfirst : ¬needle <+: c :: (cs ++ r) := hs (c :: cs) (by simp) List.suffix_rfl
    have hrest := ih fun t ht hsuf => hs t ht (hsuf.trans (List.suffix_cons c cs))
    simp [breakOn?, hfirst, hrest]

theorem breakOn?_single_append {c : Char} {s rest : Text} (h : c ∉ s) :
    breakOn? [c] (s ++ c :: rest) = some (s, c :: rest) := by
  refine breakOn?_append (by simp) fun t ht hsuf hpre => ?_
  obtain ⟨d, ds, rfl⟩ := List.exists_cons_of_ne_nil ht
  obtain rfl : c = d := by simpa using hpre
  exact h (hsuf.subset (by simp))

/-- Before the first occurrence there is none. -/
theorem not_infix_of_breakOn? {needle t s r : Text} (hneedle : needle ≠ [])
    (h : breakOn? needle t = some (s, r)) : ¬needle <:+: s := by
  induction t generalizing s with
  | nil =>
    rw [breakOn?, if_neg (by simpa using hneedle)] at h
    cases h
  | cons c cs ih =>
    rw [breakOn?] at h
    split at h
    · obtain ⟨rfl, -⟩ := Prod.mk.inj (Option.some.inj h)
      simpa using hneedle
    · next hno =>
      obtain ⟨⟨s', r'⟩, hlater, heq⟩ := Option.map_eq_some_iff.mp h
      obtain ⟨rfl, rfl⟩ := Prod.mk.inj heq
      have hcs := (eq_append_of_breakOn? hlater).1
      rw [List.infix_cons_iff, not_or]
      refine ⟨fun hpre => hno ?_, ih hlater⟩
      rw [List.isPrefixOf_iff_prefix, hcs, ← List.cons_append]
      exact hpre.trans (List.prefix_append _ _)

/-- Nothing is lost around the last occurrence. -/
theorem eq_append_of_breakOnLast? {needle t s r : Text} (h : breakOnLast? needle t = some (s, r)) :
    t = s ++ r ∧ needle <+: r := by
  induction t generalizing s with
  | nil =>
    simp only [breakOnLast?, List.isEmpty_iff] at h
    split at h <;> simp_all
  | cons c cs ih =>
    simp only [breakOnLast?] at h
    split at h
    · next s' r' hlater =>
      obtain ⟨rfl, rfl⟩ := Prod.mk.inj (Option.some.inj h)
      obtain ⟨rfl, hr⟩ := ih hlater
      exact ⟨rfl, hr⟩
    · split at h
      · next hp =>
        obtain ⟨rfl, rfl⟩ := Prod.mk.inj (Option.some.inj h)
        exact ⟨rfl, List.isPrefixOf_iff_prefix.mp hp⟩
      · cases h

/-! ### Cuts -/

theorem size_pos {t : Text} (h : t ≠ []) : 0 < t.size := by
  cases t with
  | nil => exact absurd rfl h
  | cons c cs =>
    have := c.utf8Size_pos
    rw [size_cons]
    omega

/-- Two beginnings of a text that a character follows are the same when they hold the character
equally often. -/
theorem eq_of_append_cons {c : Char} {s r s' r' : Text} (h : s ++ c :: r = s' ++ c :: r')
    (hcount : s.count c = s'.count c) : s = s' := by
  have hnil (m r r' : Text) (h : c :: r = m ++ c :: r') (hcount : m.count c = 0) : m = [] := by
    cases m with
    | nil => rfl
    | cons d m =>
      obtain rfl : c = d := by simpa using congrArg List.head? h
      simp at hcount
  rcases List.append_eq_append_iff.mp h with ⟨m, rfl, hm⟩ | ⟨m, rfl, hm⟩
  · rw [List.count_append] at hcount
    rw [hnil m r r' hm (by omega), List.append_nil]
  · rw [List.count_append] at hcount
    rw [hnil m r' r hm (by omega), List.append_nil]

/-- A text has one cut at an offset. -/
theorem eq_of_append_of_size {s r s' r' : Text} (h : s ++ r = s' ++ r') (hsize : s.size = s'.size) :
    s = s' ∧ r = r' := by
  have hsplit := splitAt?_append s r
  rw [h, hsize, splitAt?_append] at hsplit
  obtain ⟨rfl, rfl⟩ := Prod.mk.inj (Option.some.inj hsplit)
  exact ⟨rfl, rfl⟩

/-- A text of characters of one byte each has a character at every offset. -/
theorem exists_char_of_lt_size {t : Text} {n : Nat} (ht : ∀ c ∈ t, c.utf8Size = 1)
    (hn : n < t.size) : ∃ before c after, t = before ++ c :: after ∧ size before = n := by
  induction t generalizing n with
  | nil => cases hn
  | cons c cs ih =>
    obtain ⟨hc, hcs⟩ := List.forall_mem_cons.mp ht
    cases n with
    | zero => exact ⟨[], c, cs, rfl, rfl⟩
    | succ n =>
      rw [size_cons, hc] at hn
      obtain ⟨before, d, after, rfl, hsize⟩ := ih hcs (n := n) (by omega)
      refine ⟨c :: before, d, after, rfl, ?_⟩
      rw [size_cons, hc, hsize, Nat.add_comm]

/-- A piece of a text is the slice between the offsets of its ends. -/
theorem slice?_append (before piece after : Text) :
    slice? (before ++ (piece ++ after)) before.size (before.size + piece.size) = some piece := by
  simp [slice?]

theorem slice?_of_eq {t before piece after : Text} {start stop : Nat}
    (ht : t = before ++ (piece ++ after)) (hstart : start = before.size)
    (hstop : stop = before.size + piece.size) : t.slice? start stop = some piece := by
  rw [ht, hstart, hstop, slice?_append]

theorem slice_of_eq {t before piece after : Text} {start stop : Nat}
    (ht : t = before ++ (piece ++ after)) (hstart : start = before.size)
    (hstop : stop = before.size + piece.size) : t.slice start stop = piece := by
  rw [slice, slice?_of_eq ht hstart hstop, Option.getD_some]

/-- The pieces of a text that begins at offset `n`, cut at offsets in ascending order, each of
which is a boundary between characters. -/
def cut? (t : Text) (n : Nat) : List Nat → Option (List Text)
  | [] => some [t]
  | offset :: offsets =>
    if n ≤ offset then do
      let (piece, rest) ← splitAt? (offset - n) t
      let pieces ← cut? rest offset offsets
      return piece :: pieces
    else none

theorem cut?_nil (t : Text) (n : Nat) : cut? t n [] = some [t] := rfl

/-- The first piece of a cut, and the pieces of the rest. -/
theorem cut?_cons {t piece rest : Text} {pieces : List Text} {n offset : Nat} {offsets : List Nat}
    (ht : t = piece ++ rest) (hoffset : offset = n + piece.size)
    (hrest : cut? rest offset offsets = some pieces) :
    cut? t n (offset :: offsets) = some (piece :: pieces) := by
  rw [hoffset] at hrest
  rw [ht, hoffset, cut?, if_pos (Nat.le_add_right n _), Nat.add_sub_cancel_left, splitAt?_append]
  simp [hrest]

end Graft.Text
