import Graft.Text
import Mathlib.Data.Char
import Mathlib.Data.List.Lex

/-! The order of texts by their characters is the order by the bytes of their UTF-8 forms, and the
same holds of lists of texts that are compared text by text. -/

namespace Graft.Text

/-- The bytes of the UTF-8 form. -/
def utf8 (t : Text) : List UInt8 := t.flatMap String.utf8EncodeChar

/-! ### One character -/

theorem cons_ofNat_lt_iff {m n : Nat} (hm : m < 256) (hn : n < 256) {s t : List UInt8} :
    UInt8.ofNat m :: s < UInt8.ofNat n :: t ↔ m < n ∨ m = n ∧ s < t := by
  rw [List.cons_lt_cons_iff, UInt8.lt_iff_toNat_lt, ← UInt8.toNat_inj, UInt8.toNat_ofNat_of_lt' hm,
    UInt8.toNat_ofNat_of_lt' hn]

/-- The bytes of a character come before those of every greater one, whatever follows them. -/
theorem utf8EncodeChar_append_lt {c d : Char} (h : c < d) (s t : List UInt8) :
    String.utf8EncodeChar c ++ s < String.utf8EncodeChar d ++ t := by
  have hlt : c.val.toNat < d.val.toNat := h
  have hd : d.val.toNat < 1114112 := by
    obtain h | ⟨-, h⟩ := d.valid
    · exact Nat.lt_trans h (by decide)
    · exact h
  unfold String.utf8EncodeChar
  dsimp only
  generalize c.val.toNat = m at *
  generalize d.val.toNat = n at *
  -- each byte but the first is a digit to the base 64
  have hdigits (k : Nat) : k / 4096 = k / 64 / 64 ∧ k / 262144 = k / 64 / 64 / 64 := by omega
  rw [(hdigits m).1, (hdigits m).2, (hdigits n).1, (hdigits n).2]
  repeat' split
  all_goals
    simp (disch := omega) only [List.cons_append, cons_ofNat_lt_iff]
    omega

/-! ### Texts and lists of texts -/

theorem utf8_lt_utf8 {s t : Text} (h : s < t) : s.utf8 < t.utf8 := by
  induction s generalizing t with
  | nil =>
    cases t with
    | nil => exact absurd h (lt_irrefl _)
    | cons d ds =>
      obtain ⟨b, bs, hbytes⟩ := List.exists_cons_of_ne_nil (String.utf8EncodeChar_ne_nil (c := d))
      rw [utf8, utf8, List.flatMap_nil, List.flatMap_cons, hbytes, List.cons_append]
      exact List.nil_lt_cons b _
  | cons c cs ih =>
    cases t with
    | nil => exact absurd h (List.not_lt_nil _)
    | cons d ds =>
      rw [utf8, utf8, List.flatMap_cons, List.flatMap_cons]
      obtain hlt | ⟨rfl, hlt⟩ := List.cons_lt_cons_iff.mp h
      · exact utf8EncodeChar_append_lt hlt _ _
      · exact List.append_left_lt (ih hlt)

/-- The characters of texts order them as the bytes of their UTF-8 forms do. -/
theorem utf8_lt_utf8_iff {s t : Text} : s.utf8 < t.utf8 ↔ s < t := by
  refine ⟨fun h => ?_, utf8_lt_utf8⟩
  obtain hlt | rfl | hlt := lt_trichotomy s t
  · exact hlt
  · exact absurd h (List.lt_irrefl _)
  · exact absurd h (List.lt_asymm (utf8_lt_utf8 hlt))

theorem utf8_inj {s t : Text} : s.utf8 = t.utf8 ↔ s = t := by
  refine ⟨fun h => ?_, congrArg utf8⟩
  obtain hlt | rfl | hlt := lt_trichotomy s t
  · exact absurd (h ▸ utf8_lt_utf8 hlt) (List.lt_irrefl _)
  · rfl
  · exact absurd (h ▸ utf8_lt_utf8 hlt) (List.lt_irrefl _)

/-- Lists of texts, compared text by text, are ordered as the lists of the bytes of each are. -/
theorem map_utf8_lt_iff {ss ts : List Text} : ss.map utf8 < ts.map utf8 ↔ ss < ts := by
  induction ss generalizing ts with
  | nil =>
    cases ts with
    | nil => exact iff_of_false (List.not_lt_nil _) (List.not_lt_nil _)
    | cons t ts => exact iff_of_true (List.nil_lt_cons _ _) (List.nil_lt_cons _ _)
  | cons s ss ih =>
    cases ts with
    | nil => exact iff_of_false (List.not_lt_nil _) (List.not_lt_nil _)
    | cons t ts =>
      rw [List.map_cons, List.map_cons, List.cons_lt_cons_iff, List.cons_lt_cons_iff,
        utf8_lt_utf8_iff, utf8_inj, ih]

end Graft.Text
