import Graft.Proofs.CleanHead
import Graft.Proofs.Revision
import Graft.Proofs.TokenOrder

/-! The attributes of an opening tag tile the text between its name and its end. They come one after
the other, each with its offsets in order, and a byte outside of them is a blank or a `=`. -/

namespace Graft.Markup

open Text

/-- A character that may stand outside the attributes of a tag. -/
def HeadPart.IsFiller (c : Char) : Prop := isBlank c = true ∨ c = '='

/-- The offsets of an attribute: where it, its name and the text of its value begin and end. -/
def PlacedAttribute.offsets (a : PlacedAttribute) : List Nat :=
  [a.start, a.nameStart, a.nameEnd] ++
    (a.attr.assignment.elim [] fun s => [a.valueStart s, a.valueEnd s]) ++ [a.stop]

/-- The offsets of an attribute come in order: blanks, then the name, then a `=` and the value. They
lie between characters, and the name and the value are the texts that stand there. -/
structure PlacedAttribute.InOrder (doc : Text) (a : PlacedAttribute) : Prop where
  start_le_nameStart : a.start ≤ a.nameStart
  nameStart_lt_nameEnd : a.nameStart < a.nameEnd
  nameEnd_le_stop : a.nameEnd ≤ a.stop
  value : ∀ s, a.attr.assignment = some s →
    a.nameEnd < a.valueStart s ∧ a.valueStart s ≤ a.valueEnd s ∧ a.valueEnd s ≤ a.stop
  name : ∀ c ∈ a.attr.name, isBlank c = false ∧ c ≠ '='
  aligned : a.Aligned doc
  isBoundary : ∀ n ∈ a.offsets, doc.isBoundary n = true

/-- The attributes of a tag tile the text between its name and its end. This text is read in at most
as many parts as it has characters. The attributes among these come one after the other, each as it
is read before the text that follows it. Each byte is in one of them, or it is in none and is a
blank or a `=`. A further attribute goes after the last one, or after the name. -/
structure Head.Tiled (doc : Text) (head : Head) : Prop where
  inner : doc.slice? head.nameEnd head.delimiterStart = some head.tag.inner
  length_le : (HeadPart.readAll head.tag.inner).length ≤ head.tag.inner.length
  apart : head.attributes.Pairwise fun a b => a.stop ≤ b.start
  within : ∀ a ∈ head.attributes, head.nameEnd ≤ a.start ∧ a.stop ≤ head.delimiterStart
  inOrder : ∀ a ∈ head.attributes, a.InOrder doc
  reads : ∀ a ∈ head.attributes, ∃ rest, doc.slice? a.stop head.delimiterStart = some rest ∧
    (HeadPart.attr a.attr).Reads rest
  once : ∀ n, head.nameEnd ≤ n → n < head.delimiterStart →
    (∃! a, a ∈ head.attributes ∧ a.start ≤ n ∧ n < a.stop) ∨
    (∀ a ∈ head.attributes, n < a.start ∨ a.stop ≤ n) ∧
      ∃ c, doc.slice? n (n + 1) = some [c] ∧ HeadPart.IsFiller c
  insertAt : head.attributes = [] ∧ head.insertAt = head.nameEnd ∨
    ∃ front last, head.attributes = front ++ [last] ∧ head.insertAt = last.stop
  trailing : ∃ t, doc.slice? head.insertAt head.delimiterStart = some t ∧
    ∀ c ∈ t, HeadPart.IsFiller c

/-! ### One attribute -/

namespace PlacedAttribute

variable {a : PlacedAttribute} {doc rest : Text}

theorem stop_eq : a.stop = a.nameEnd + (Attribute.assignmentText a.attr.assignment).size := by
  simp only [stop, nameEnd, nameStart, Attribute.text, size_append]
  omega

/-- The text of a value comes after the `=`, and before the quote that ends it. -/
theorem value_inOrder {s : Assignment} (h : (HeadPart.attr a.attr).Reads rest)
    (hs : a.attr.assignment = some s) :
    a.nameEnd < a.valueStart s ∧ a.valueStart s ≤ a.valueEnd s ∧ a.valueEnd s ≤ a.stop := by
  have hgap : 0 < s.gap.size := by
    obtain ⟨start, attr⟩ := a
    cases h with
    | bare hlead hname hends => cases hs
    | assigned hlead hname hbefore hafter hvalue =>
      obtain rfl := Option.some.inj hs
      exact size_pos (by simp)
  obtain ⟨opening, closing, hwritten, hquote⟩ := s.value.exists_written
  have hstop : a.stop = a.valueEnd s + closing.size := by
    rw [stop_eq, hs, Attribute.assignmentText, Assignment.text, hwritten, valueEnd, valueStart,
      writtenStart, ← hquote]
    simp only [size_append]
    omega
  refine ⟨?_, Nat.le_add_right _ _, ?_⟩
  · rw [valueStart, writtenStart]
    omega
  · rw [hstop]
    exact Nat.le_add_right _ _

theorem Aligned.isBoundary (h : a.Aligned doc) : ∀ n ∈ a.offsets, doc.isBoundary n = true := by
  obtain ⟨hstart, hstop⟩ := isBoundary_of_slice? h.text
  obtain ⟨hnameStart, hnameEnd⟩ := isBoundary_of_slice? h.name
  have hvalue : ∀ n ∈ a.attr.assignment.elim [] fun s => [a.valueStart s, a.valueEnd s],
      doc.isBoundary n = true := by
    cases hs : a.attr.assignment with
    | none => simp
    | some s =>
      obtain ⟨hvalueStart, hvalueEnd⟩ := isBoundary_of_slice? (h.value s hs)
      simp [hvalueStart, hvalueEnd]
  simp only [offsets, List.forall_mem_append, List.forall_mem_cons]
  exact ⟨⟨⟨hstart, hnameStart, hnameEnd, by simp⟩, hvalue⟩, hstop, by simp⟩

theorem inOrder_of_reads (h : (HeadPart.attr a.attr).Reads rest) (haligned : a.Aligned doc) :
    a.InOrder doc := by
  obtain ⟨hne, hchar⟩ := h.isName
  constructor
  case start_le_nameStart => exact Nat.le_add_right a.start _
  case nameStart_lt_nameEnd =>
    have := size_pos hne
    rw [nameEnd]
    omega
  case nameEnd_le_stop =>
    rw [stop_eq]
    exact Nat.le_add_right a.nameEnd _
  case value => exact fun s hs => value_inOrder h hs
  case name => exact fun c hc => by simpa [HeadPart.isNameChar] using hchar c hc
  case aligned => exact haligned
  case isBoundary => exact haligned.isBoundary

end PlacedAttribute

/-! ### The parts of a head -/

namespace HeadPart

variable {cs : Text} {n m : Nat}

theorem IsFiller.utf8Size {c : Char} (h : IsFiller c) : c.utf8Size = 1 := by
  obtain h | rfl := h
  · simp only [isBlank, Bool.or_eq_true, decide_eq_true_eq] at h
    obtain (((rfl | rfl) | rfl) | rfl) | rfl := h <;> rfl
  · rfl

theorem Reads.isFiller {t rest : Text} (h : (filler t).Reads rest) : ∀ c ∈ t, IsFiller c := by
  cases h with
  | blanks hne hblank => exact fun c hc => .inl (hblank c hc)
  | equals hblank =>
    intro c hc
    obtain hc | hc := List.mem_append.mp hc
    · exact .inl (hblank c hc)
    · exact .inr (List.mem_singleton.mp hc)

/-- Each part takes up characters of the text. -/
theorem length_readAll_le (cs : Text) : (readAll cs).length ≤ cs.length := by
  induction cs using readAll.induct with
  | case1 cs part rest hread ih =>
    have hlt := length_lt_of_read? hread
    rw [readAll_of_read? hread, List.length_cons]
    omega
  | case2 cs hread =>
    rw [eq_nil_of_read? hread, readAll_nil]
    exact Nat.le_refl 0

theorem place_cons (n : Nat) (part : HeadPart) (parts : List HeadPart) :
    place n (part :: parts) = place n [part] ++ place (n + part.text.size) parts := by
  cases part <;> rfl

/-- A part with an offset at which there is no attribute has a blank or a `=` there. -/
theorem Reads.exists_filler {part : HeadPart} {rest : Text} (h : part.Reads rest) (hn : n ≤ m)
    (hm : m < n + part.text.size) (houtside : ∀ a ∈ place n [part], m < a.start ∨ a.stop ≤ m) :
    ∃ before c after, part.text = before ++ c :: after ∧ m = n + size before ∧ IsFiller c := by
  cases part with
  | filler t =>
    have hfiller : ∀ c ∈ t, IsFiller c := h.isFiller
    have hlt : m < n + t.size := hm
    obtain ⟨before, c, after, rfl, hsize⟩ := exists_char_of_lt_size (n := m - n)
      (fun c hc => (hfiller c hc).utf8Size) (by omega)
    exact ⟨before, c, after, rfl, by omega, hfiller c (by simp)⟩
  | attr a =>
    have hfirst := houtside ⟨n, a⟩ List.mem_cons_self
    have hstart : PlacedAttribute.start ⟨n, a⟩ ≤ m := hn
    have hstop : m < PlacedAttribute.stop ⟨n, a⟩ := hm
    omega

/-- A text has a blank or a `=` at each offset outside its attributes. -/
theorem exists_filler (hn : n ≤ m) (hm : m < n + cs.size)
    (houtside : ∀ a ∈ place n (readAll cs), m < a.start ∨ a.stop ≤ m) :
    ∃ before c after, cs = before ++ c :: after ∧ m = n + size before ∧ IsFiller c := by
  induction cs using readAll.induct generalizing n with
  | case1 cs part rest hread ih =>
    have hcs : cs = part.text ++ rest := (eq_append_of_read? hread).1
    rw [readAll_of_read? hread, place_cons, List.forall_mem_append] at houtside
    obtain ⟨hfirst, hlater⟩ := houtside
    rw [hcs, size_append] at hm
    -- the offset lies in the part that is read first, or in the text after it
    by_cases hpart : m < n + part.text.size
    · obtain ⟨before, c, after, htext, hsize, hfiller⟩ :=
        (reads_of_read? hread).exists_filler hn hpart hfirst
      exact ⟨before, c, after ++ rest, by simp [hcs, htext], hsize, hfiller⟩
    · obtain ⟨before, c, after, rfl, hsize, hfiller⟩ := ih (by omega) (by omega) hlater
      refine ⟨part.text ++ before, c, after, by simp [hcs], ?_, hfiller⟩
      rw [hsize, size_append, Nat.add_assoc]
  | case2 cs hread =>
    rw [eq_nil_of_read? hread, size_nil] at hm
    omega

/-- After all attributes there are blanks and `=` only. -/
theorem isFiller_after {before after : Text} (hcs : cs = before ++ after)
    (hlast : ∀ a ∈ place n (readAll cs), a.stop ≤ n + before.size) :
    ∀ c ∈ after, IsFiller c := by
  intro c hc
  -- the offset of the character is outside all attributes, and one character only stands there
  obtain ⟨front, later, rfl⟩ := List.append_of_mem hc
  have hsize : cs.size = before.size + (size front + (c.utf8Size + size later)) := by
    rw [hcs, size_append, size_append, size_cons]
  have hpos := c.utf8Size_pos
  have houtside : ∀ a ∈ place n (readAll cs),
      n + (before ++ front).size < a.start ∨ a.stop ≤ n + (before ++ front).size := by
    intro a ha
    refine .inr ((hlast a ha).trans ?_)
    rw [size_append]
    omega
  have hlt : n + (before ++ front).size < n + cs.size := by
    rw [hsize, size_append]
    omega
  obtain ⟨before', d, later', hcs', hstart, hfiller⟩ :=
    exists_filler (Nat.le_add_right n _) hlt houtside
  rw [hcs, ← List.append_assoc] at hcs'
  obtain ⟨-, htail⟩ := eq_of_append_of_size hcs' (Nat.add_left_cancel hstart)
  obtain ⟨rfl, -⟩ := List.cons.inj htail
  exact hfiller

end HeadPart

/-! ### The tags of a document -/

namespace Head

variable {doc : Text} {head : Head}

theorem insertAt_eq (head : Head) : head.attributes = [] ∧ head.insertAt = head.nameEnd ∨
    ∃ front last, head.attributes = front ++ [last] ∧ head.insertAt = last.stop := by
  obtain hnil | ⟨front, last, hlast⟩ := List.eq_nil_or_concat' head.attributes
  · exact .inl ⟨hnil, by rw [insertAt, hnil]; rfl⟩
  · exact .inr ⟨front, last, hlast, by simp [insertAt, hlast]⟩

/-- An attribute of a tag, cut out of what stands between the tag's name and its end. -/
theorem exists_inner_of_mem {a : PlacedAttribute} (h : a ∈ head.attributes) :
    ∃ earlier later, head.tag.inner = earlier ++ (a.attr.text ++ later) ∧
      a.start = head.nameEnd + earlier.size ∧ (HeadPart.attr a.attr).Reads later := by
  obtain ⟨earlier, later, hparts, hstart⟩ := HeadPart.split_of_mem_place h
  refine ⟨_, _, ?_, hstart, HeadPart.reads_of_readAll hparts⟩
  have hinner := HeadPart.flatMap_text_readAll head.tag.inner
  rw [hparts, List.flatMap_append, List.flatMap_cons] at hinner
  exact hinner.symm

theorem within_of_mem {a : PlacedAttribute} (h : a ∈ head.attributes) :
    head.nameEnd ≤ a.start ∧ a.stop ≤ head.delimiterStart := by
  obtain ⟨earlier, later, hinner, hstart, -⟩ := exists_inner_of_mem h
  rw [PlacedAttribute.stop, delimiterStart, hinner, hstart, size_append, size_append]
  omega

/-- No attribute ends after the place for a further one. -/
theorem stop_le_insertAt {a : PlacedAttribute} (h : a ∈ head.attributes) :
    a.stop ≤ head.insertAt := by
  have hapart : head.attributes.Pairwise fun a b => a.stop ≤ b.start :=
    HeadPart.pairwise_place _ _
  obtain ⟨hnil, -⟩ | ⟨front, last, hlast, hinsert⟩ := head.insertAt_eq
  · rw [hnil] at h
    cases h
  · rw [hlast] at h hapart
    rw [hinsert]
    obtain h | h := List.mem_append.mp h
    · have hle := (List.pairwise_append.mp hapart).2.2 a h last List.mem_cons_self
      exact hle.trans (Nat.le_add_right _ _)
    · rw [List.mem_singleton.mp h]

theorem exists_inner_insertAt (head : Head) :
    ∃ before after, head.tag.inner = before ++ after ∧
      head.insertAt = head.nameEnd + size before := by
  obtain ⟨-, hinsert⟩ | ⟨front, last, hlast, hinsert⟩ := head.insertAt_eq
  · exact ⟨[], head.tag.inner, rfl, hinsert⟩
  · have hmem : last ∈ head.attributes := by simp [hlast]
    obtain ⟨earlier, later, hinner, hstart, -⟩ := exists_inner_of_mem hmem
    refine ⟨earlier ++ last.attr.text, later, by rw [hinner, List.append_assoc], ?_⟩
    rw [hinsert, PlacedAttribute.stop, hstart, size_append, Nat.add_assoc]

/-- A piece of what stands between the name and the end of a tag, cut out of the document. -/
theorem slice?_inner (h : Reads 0 doc ⟨head.start, .opening head.tag⟩) {s t u : Text}
    (hinner : head.tag.inner = s ++ (t ++ u)) {n m : Nat} (hn : n = head.nameEnd + s.size)
    (hm : m = n + t.size) : doc.slice? n m = some t := by
  obtain ⟨before, rest, after, hdoc, hstart, hread⟩ := h
  have hstart : head.start = before.size := by simpa using hstart
  have hrest : rest = head.tag.text ++ after := Lexeme.eq_append_of_read? hread
  have hcut : doc = before ++ '<' :: head.tag.name ++ s ++
      (t ++ (u ++ (head.tag.delimiter ++ after))) := by
    rw [hdoc, hrest, OpenTag.append_text, hinner]
    simp
  have hsize : n = (before ++ '<' :: head.tag.name ++ s).size := by
    rw [hn, head.nameEnd_eq hstart, size_append _ s]
  exact slice?_of_eq hcut hsize (by rw [hm, hsize])

/-- Each byte between the name and the end of a tag is in one attribute, or it is a blank or a `=`
and in none. -/
theorem once_of_reads (h : Reads 0 doc ⟨head.start, .opening head.tag⟩) {n : Nat}
    (hn : head.nameEnd ≤ n) (hlt : n < head.delimiterStart) :
    (∃! a, a ∈ head.attributes ∧ a.start ≤ n ∧ n < a.stop) ∨
    (∀ a ∈ head.attributes, n < a.start ∨ a.stop ≤ n) ∧
      ∃ c, doc.slice? n (n + 1) = some [c] ∧ HeadPart.IsFiller c := by
  by_cases hin : ∃ a ∈ head.attributes, a.start ≤ n ∧ n < a.stop
  · obtain ⟨a, ha, hna⟩ := hin
    refine .inl ⟨a, ⟨ha, hna⟩, fun b ⟨hb, hnb⟩ => ?_⟩
    obtain rfl | hapart := eq_or_apart hb ha
    · rfl
    · omega
  · have houtside : ∀ a ∈ head.attributes, n < a.start ∨ a.stop ≤ n := by
      intro a ha
      have hout : ¬(a.start ≤ n ∧ n < a.stop) := fun hna => hin ⟨a, ha, hna⟩
      omega
    obtain ⟨before, c, after, hinner, hsize, hfiller⟩ :=
      HeadPart.exists_filler hn hlt houtside
    refine .inr ⟨houtside, c, slice?_inner h (t := [c]) hinner hsize ?_, hfiller⟩
    rw [size_cons, hfiller.utf8Size, size_nil]

end Head

/-- Whatever the document, each of its opening tags is tiled by its attributes. -/
theorem tiled_of_headAt? {doc : Text} {start : Nat} {head : Head}
    (h : headAt? doc start = some head) : head.Tiled doc := by
  have hreads := reads_of_headAt? h
  constructor
  case inner => exact Head.slice?_inner hreads (s := []) (u := []) (by simp) rfl rfl
  case length_le => exact HeadPart.length_readAll_le _
  case apart => exact HeadPart.pairwise_place _ _
  case within => exact fun a ha => Head.within_of_mem ha
  case inOrder =>
    intro a ha
    obtain ⟨-, later, -, -, hlater⟩ := Head.exists_inner_of_mem ha
    exact PlacedAttribute.inOrder_of_reads hlater ((aligned_of_reads hreads).attributes a ha)
  case reads =>
    intro a ha
    obtain ⟨earlier, later, hinner, hstart, hlater⟩ := Head.exists_inner_of_mem ha
    refine ⟨later, Head.slice?_inner hreads (s := earlier ++ a.attr.text) (u := []) ?_ ?_ ?_,
      hlater⟩
    · simp [hinner]
    · rw [PlacedAttribute.stop, hstart, size_append, Nat.add_assoc]
    · rw [Head.delimiterStart, hinner, PlacedAttribute.stop, hstart]
      simp only [size_append]
      omega
  case once => exact fun n hn hlt => Head.once_of_reads hreads hn hlt
  case insertAt => exact head.insertAt_eq
  case trailing =>
    obtain ⟨before, after, hinner, hinsert⟩ := head.exists_inner_insertAt
    have hlast : ∀ a ∈ head.attributes, a.stop ≤ head.nameEnd + size before := by
      intro a ha
      rw [← hinsert]
      exact Head.stop_le_insertAt ha
    refine ⟨after, Head.slice?_inner hreads (u := []) (by simpa using hinner) hinsert ?_,
      HeadPart.isFiller_after hinner hlast⟩
    rw [Head.delimiterStart, hinner, hinsert, size_append, Nat.add_assoc]

/-- A `=` without a name, a value that begins with one, and a value whose quote never ends. -/
theorem tiled_of_headAt?_unended :
    let doc := "é<a = b ==\"ü\tc\n= \"/>".toList
    ∃ head, headAt? doc 2 = some head ∧
      head.attributes.map PlacedAttribute.offsets =
        [[6, 7, 8, 10, 14, 14], [14, 15, 16, 20, 20, 20]] ∧
      head.insertAt = 20 ∧ head.Tiled doc := by
  intro doc
  have hhead : headAt? doc 2 = some ⟨2, ⟨['a'], " = b ==\"ü\tc\n= \"".toList, true⟩⟩ := by
    decide +kernel
  exact ⟨_, hhead, by decide +kernel, by decide +kernel, tiled_of_headAt? hhead⟩

end Graft.Markup
