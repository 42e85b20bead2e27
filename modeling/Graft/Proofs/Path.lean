import Graft.Path
import Mathlib.Data.List.Basic
import Mathlib.Data.List.TakeWhile

/-! Paths and their pieces: what joining two paths does to the pieces and to the components, and the
pieces of the path that leads to a path's last one. -/

namespace Graft

open Text

namespace Text

theorem splitOn_ne_nil (sep : Char) (t : Text) : splitOn sep t ≠ [] := by
  cases t with
  | nil => simp [splitOn]
  | cons c cs =>
    rw [splitOn]
    split
    · simp
    · split <;> simp

/-- A separator ends one piece and starts the next. -/
theorem splitOn_append (sep : Char) (s t : Text) :
    splitOn sep (s ++ sep :: t) = splitOn sep s ++ splitOn sep t := by
  induction s with
  | nil => simp [splitOn]
  | cons c cs ih =>
    rw [List.cons_append, splitOn, splitOn, ih]
    split
    · rfl
    · cases h : splitOn sep cs with
      | nil => exact absurd h (splitOn_ne_nil sep cs)
      | cons piece pieces => rfl

theorem splitOn_of_not_mem {sep : Char} {t : Text} (h : sep ∉ t) : splitOn sep t = [t] := by
  induction t with
  | nil => rfl
  | cons c cs ih =>
    obtain ⟨hc, hcs⟩ : sep ≠ c ∧ sep ∉ cs := by simpa using h
    rw [splitOn, if_neg (Ne.symm hc), ih hcs]

theorem not_mem_of_mem_splitOn {sep : Char} {t piece : Text} (h : piece ∈ splitOn sep t) :
    sep ∉ piece := by
  induction t generalizing piece with
  | nil =>
    obtain rfl : piece = [] := by simpa [splitOn] using h
    simp
  | cons c cs ih =>
    rw [splitOn] at h
    split at h
    · rcases List.mem_cons.mp h with rfl | h
      · simp
      · exact ih h
    · next hc =>
      split at h
      · obtain rfl : piece = [c] := by simpa using h
        simpa using Ne.symm hc
      · next first rest hsplit =>
        rcases List.mem_cons.mp h with rfl | h
        · have hfirst : sep ∉ first := ih (by simp [hsplit])
          simpa [Ne.symm hc] using hfirst
        · exact ih (by simp [hsplit, h])

theorem joinWith_nil (sep : Text) : joinWith sep [] = [] := rfl

theorem joinWith_singleton (sep piece : Text) : joinWith sep [piece] = piece := by
  simp [joinWith]

theorem joinWith_cons (sep piece : Text) {pieces : List Text} (h : pieces ≠ []) :
    joinWith sep (piece :: pieces) = piece ++ (sep ++ joinWith sep pieces) := by
  obtain ⟨next, rest, rfl⟩ := List.exists_cons_of_ne_nil h
  simp [joinWith, List.intersperse]

theorem splitOn_joinWith {sep : Char} {pieces : List Text} (hne : pieces ≠ [])
    (h : ∀ piece ∈ pieces, sep ∉ piece) : splitOn sep (joinWith [sep] pieces) = pieces := by
  induction pieces with
  | nil => exact absurd rfl hne
  | cons piece pieces ih =>
    have hpiece := splitOn_of_not_mem (h piece (by simp))
    by_cases hnil : pieces = []
    · rw [hnil, joinWith_singleton, hpiece]
    · rw [joinWith_cons _ _ hnil, List.singleton_append, splitOn_append, hpiece,
        ih hnil fun p hp => h p (by simp [hp])]
      rfl

theorem joinWith_splitOn (sep : Char) (t : Text) : joinWith [sep] (splitOn sep t) = t := by
  induction t with
  | nil => rfl
  | cons c cs ih =>
    rw [splitOn]
    split
    · next hc => rw [joinWith_cons _ _ (splitOn_ne_nil sep cs), ih, hc]; rfl
    · split
      · next hnil => exact absurd hnil (splitOn_ne_nil sep cs)
      · next first rest hsplit =>
        rw [hsplit] at ih
        by_cases hnil : rest = []
        · subst hnil
          rw [joinWith_singleton] at *
          rw [ih]
        · rw [joinWith_cons _ _ hnil] at *
          rw [← ih]
          rfl

/-- The first pieces of a text are those of the text before a separator. -/
theorem joinWith_append (sep : Text) {front back : List Text} (hfront : front ≠ [])
    (hback : back ≠ []) :
    joinWith sep (front ++ back) = joinWith sep front ++ (sep ++ joinWith sep back) := by
  induction front with
  | nil => exact absurd rfl hfront
  | cons piece front ih =>
    by_cases hnil : front = []
    · rw [hnil, List.singleton_append, joinWith_cons _ _ hback, joinWith_singleton]
    · rw [List.cons_append, joinWith_cons _ _ (by simp [hnil]), joinWith_cons _ _ hnil, ih hnil]
      simp

end Text

namespace Path

theorem pieces_ne_nil (p : Path) : p.pieces ≠ [] := splitOn_ne_nil '/' p.text

theorem slash_not_mem {p : Path} {piece : Text} (h : piece ∈ p.pieces) : '/' ∉ piece :=
  not_mem_of_mem_splitOn h

theorem pieces_ofText {t : Text} (h : '/' ∉ t) : Path.pieces ⟨t⟩ = [t] := splitOn_of_not_mem h

theorem pieces_ofNames {names : List Name} (hne : names ≠ []) (h : ∀ name ∈ names, '/' ∉ name) :
    (ofNames names).pieces = names := splitOn_joinWith hne h

theorem isAbsolute_iff {p : Path} : p.isAbsolute = true ↔ ∃ t, p.text = '/' :: t := by
  cases h : p.text <;> simp [isAbsolute, h]

/-- A path that is not empty and not absolute begins with its first piece. -/
theorem isAbsolute_of_pieces {p : Path} {first : Text} {rest : List Text}
    (h : p.pieces = first :: rest) : p.isAbsolute = true ↔ first = [] ∧ rest ≠ [] := by
  have htext : p.text = joinWith ['/'] (first :: rest) := by
    rw [← h]
    exact (joinWith_splitOn '/' p.text).symm
  have hfirst : '/' ∉ first := not_mem_of_mem_splitOn (t := p.text) (by
    rw [show splitOn '/' p.text = _ from h]
    simp)
  rw [isAbsolute_iff, htext]
  by_cases hrest : rest = []
  · rw [hrest, joinWith_singleton]
    refine iff_of_false ?_ (by simp)
    rintro ⟨t, rfl⟩
    simp at hfirst
  · rw [joinWith_cons _ _ hrest]
    cases first with
    | nil => simp [hrest]
    | cons c cs =>
      have hc : c ≠ '/' := by rintro rfl; simp at hfirst
      simp [hc]

/-! ### Joined paths -/

variable {base p : Path}

/-- The pieces of a joined path are those of its parts, of which the first loses an empty last
piece. -/
theorem pieces_join (base : Path) (h : p.isAbsolute = false) :
    (base.join p).pieces = base.pieces ++ p.pieces ∨
      ∃ init, base.pieces = init ++ [[]] ∧ (base.join p).pieces = init ++ p.pieces := by
  rw [join, if_neg (by simp [h])]
  by_cases hbase : base.text = []
  · rw [if_pos (.inl hbase)]
    exact .inr ⟨[], by simp [pieces, hbase, splitOn], by simp [pieces, hbase]⟩
  · by_cases hslash : base.text.getLast? = some '/'
    · obtain ⟨init, hinit⟩ := List.getLast?_eq_some_iff.mp hslash
      rw [if_pos (.inr hslash)]
      refine .inr ⟨splitOn '/' init, ?_, ?_⟩
      · rw [pieces, hinit, splitOn_append]
        rfl
      · rw [pieces, hinit, List.append_assoc, List.singleton_append, splitOn_append]
        rfl
    · rw [if_neg (by simp [hbase, hslash])]
      exact .inl (splitOn_append '/' base.text p.text)

theorem isAbsolute_join (base : Path) (h : p.isAbsolute = false) :
    (base.join p).isAbsolute = base.isAbsolute := by
  rw [join, if_neg (by simp [h])]
  cases hbase : base.text with
  | nil => simpa [isAbsolute, hbase] using h
  | cons c cs => split <;> simp [isAbsolute, hbase]

theorem text_join_ne_nil (h : base.text ≠ []) : (base.join p).text ≠ [] := by
  rw [join]
  split
  · next habs =>
    obtain ⟨t, ht⟩ := isAbsolute_iff.mp habs
    simp [ht]
  · split <;> simp [h]

theorem components_of_pieces {first : Text} {rest : List Text} (h : p.pieces = first :: rest) :
    p.components = (if p.isAbsolute then some Component.root
      else if first = ['.'] then some .current else componentOf? first).toList ++
        rest.filterMap componentOf? := by
  rw [components, h]

/-- The components of a joined path are those of its parts, where the second is no longer the
first to come. -/
theorem components_join (hbase : base.text ≠ []) (h : p.isAbsolute = false) :
    (base.join p).components = base.components ++ p.pieces.filterMap componentOf? := by
  obtain ⟨first, rest, hfirst⟩ := List.exists_cons_of_ne_nil base.pieces_ne_nil
  have habs := isAbsolute_join base h
  rcases pieces_join base h with hjoin | ⟨init, hinit, hjoin⟩
  · rw [hfirst, List.cons_append] at hjoin
    rw [components_of_pieces hjoin, components_of_pieces hfirst, habs, List.filterMap_append,
      List.append_assoc]
  · cases init with
    | nil =>
      -- only the empty path has a single empty piece
      have htext : base.text = [] := by
        have := joinWith_splitOn '/' base.text
        rw [show splitOn '/' base.text = [[]] from hinit, joinWith_singleton] at this
        exact this.symm
      exact absurd htext hbase
    | cons first' init =>
      rw [List.cons_append] at hinit hjoin
      rw [components_of_pieces hjoin, components_of_pieces hinit, habs, List.filterMap_append,
        List.filterMap_append]
      simp [componentOf?]

/-! ### Paths that stay below where they start -/

/-- Whether a piece is passed over. -/
def isPassed (piece : Text) : Bool := piece = [] ∨ piece = ['.']

/-- The names among the pieces of a path. -/
def names (p : Path) : List Name := p.pieces.filter fun piece => !isPassed piece

/-- A relative path without `..`. -/
structure Inner (p : Path) : Prop where
  relative : p.isAbsolute = false
  noParent : ['.', '.'] ∉ p.pieces

instance (p : Path) : Decidable p.Inner :=
  decidable_of_iff (p.isAbsolute = false ∧ ['.', '.'] ∉ p.pieces)
    ⟨fun h => ⟨h.1, h.2⟩, fun h => ⟨h.1, h.2⟩⟩

theorem componentOf?_eq_none_iff {piece : Text} :
    componentOf? piece = none ↔ isPassed piece = true := by
  simp only [componentOf?, isPassed, decide_eq_true_eq]
  split
  · simp [*]
  · split <;> simp [*]

/-- The component of a piece that is not passed over. -/
def part (piece : Text) : Component := if piece = ['.', '.'] then .parent else .normal piece

theorem componentOf?_eq_part {piece : Text} (h : isPassed piece = false) :
    componentOf? piece = some (part piece) := by
  simp only [isPassed, decide_eq_false_iff_not] at h
  rw [componentOf?, if_neg h, part]
  split <;> rfl

theorem map_part {pieces : List Text} (h : ['.', '.'] ∉ pieces) :
    pieces.map part = pieces.map .normal := by
  refine List.map_congr_left fun piece hpiece => if_neg ?_
  rintro rfl
  exact h hpiece

theorem filterMap_componentOf?_eq_map_part (pieces : List Text) :
    pieces.filterMap componentOf? = (pieces.filter fun piece => !isPassed piece).map part := by
  induction pieces with
  | nil => rfl
  | cons piece pieces ih =>
    cases hpassed : isPassed piece with
    | true =>
      rw [List.filterMap_cons_none (componentOf?_eq_none_iff.mpr hpassed),
        List.filter_cons_of_neg (by simp [hpassed]), ih]
    | false =>
      rw [List.filterMap_cons_some (componentOf?_eq_part hpassed),
        List.filter_cons_of_pos (by simp [hpassed]), ih, List.map_cons]

theorem filterMap_componentOf? {pieces : List Text} (h : ['.', '.'] ∉ pieces) :
    pieces.filterMap componentOf? = (pieces.filter fun piece => !isPassed piece).map .normal := by
  rw [filterMap_componentOf?_eq_map_part, map_part fun hmem => h (List.mem_of_mem_filter hmem)]

namespace Inner

theorem components_join (h : p.Inner) (hbase : base.text ≠ []) :
    (base.join p).components = base.components ++ p.names.map .normal := by
  rw [Path.components_join hbase h.relative, filterMap_componentOf? h.noParent]
  rfl

/-- The components of a path by itself, where a `.` counts at the start. -/
theorem filter_components (h : p.Inner) :
    p.components.filter (· ≠ .current) = p.names.map .normal := by
  obtain ⟨first, rest, hpieces⟩ := List.exists_cons_of_ne_nil p.pieces_ne_nil
  have hno := h.noParent
  rw [hpieces] at hno
  have hall := filterMap_componentOf? hno
  have hnormal : ((names p).map Component.normal).filter (· ≠ .current) =
      (names p).map .normal := by simp [List.filter_eq_self]
  rw [← hnormal, names, hpieces, ← hall, components_of_pieces hpieces, h.relative]
  by_cases hdot : first = ['.']
  · simp [hdot, componentOf?]
  · cases hfirst : componentOf? first <;> simp [hdot, hfirst]

theorem ofText {t : Text} (hslash : '/' ∉ t) (hparent : t ≠ ['.', '.']) : Inner ⟨t⟩ := by
  refine ⟨?_, ?_⟩
  · rw [Bool.eq_false_iff, Ne, isAbsolute_iff]
    rintro ⟨t', rfl⟩
    simp at hslash
  · rw [pieces_ofText hslash]
    simpa using hparent.symm

theorem ofNames {names : List Name} (hslash : ∀ name ∈ names, '/' ∉ name) (hnil : [] ∉ names)
    (hparent : ['.', '.'] ∉ names) : (ofNames names).Inner := by
  cases names with
  | nil => exact ⟨rfl, by simp [Path.ofNames, pieces, joinWith_nil, splitOn]⟩
  | cons name names =>
    have hpieces := pieces_ofNames (List.cons_ne_nil name names) hslash
    refine ⟨?_, by rwa [hpieces]⟩
    rw [Bool.eq_false_iff, Ne, isAbsolute_of_pieces hpieces]
    rintro ⟨rfl, -⟩
    simp at hnil

end Inner

theorem names_ofNames {names : List Name} (hslash : ∀ name ∈ names, '/' ∉ name)
    (hpassed : ∀ name ∈ names, isPassed name = false) : (ofNames names).names = names := by
  cases names with
  | nil => rfl
  | cons name names =>
    rw [Path.names, pieces_ofNames (List.cons_ne_nil name names) hslash, List.filter_eq_self]
    intro piece hpiece
    simp [hpassed piece hpiece]

/-! ### The path without its last component -/

theorem parent?_of_pieces {first last : Text} {mid : List Text}
    (h : p.pieces = first :: (mid ++ [last])) (hlast : isPassed last = false) :
    p.parent? = some (ofPieces (dropTrailing (first :: mid))) := by
  have hcomponent : (componentOf? last).isNone = false := by
    rw [Bool.eq_false_iff, Ne, Option.isNone_iff_eq_none, componentOf?_eq_none_iff]
    simp [hlast]
  have hdrop : dropTrailing p.pieces = first :: (mid ++ [last]) := by
    rw [h, dropTrailing, List.reverse_append, List.reverse_singleton, List.singleton_append,
      List.dropWhile_cons_of_neg (by simp [hcomponent])]
    simp
  rw [parent?, hdrop]
  split
  · next hnil => cases hnil
  · next last' hsingle => simp at hsingle
  · have hinit : (first :: (mid ++ [last])).dropLast = first :: mid := by
      rw [← List.cons_append, List.dropLast_concat]
    rw [hinit]

theorem parent?_of_single (h : p.pieces = [p.text]) (hne : p.text ≠ []) :
    p.parent? = some ⟨[]⟩ := by
  have habs : ¬(p.isAbsolute = true) := by
    rw [isAbsolute_of_pieces h]
    simp
  rw [parent?, h, dropTrailing]
  simp [habs, hne]

/-- A list of pieces without the last ones that are passed over, but for the first piece. -/
theorem exists_dropTrailing (first : Text) (rest : List Text) :
    ∃ kept passed, dropTrailing (first :: rest) = first :: kept ∧ rest = kept ++ passed ∧
      (∀ piece ∈ passed, isPassed piece = true) ∧
      ∀ piece ∈ kept.getLast?, isPassed piece = false := by
  let test : Text → Bool := fun piece => (componentOf? piece).isNone
  have htest : ∀ piece, test piece = true ↔ isPassed piece = true := fun piece =>
    Option.isNone_iff_eq_none.trans componentOf?_eq_none_iff
  refine ⟨(rest.reverse.dropWhile test).reverse, (rest.reverse.takeWhile test).reverse, rfl, ?_,
    fun piece hpiece => ?_, fun piece hpiece => ?_⟩
  · rw [← List.reverse_append, List.takeWhile_append_dropWhile, List.reverse_reverse]
  · exact (htest piece).mp (List.mem_takeWhile_imp (List.mem_reverse.mp hpiece))
  · rw [List.getLast?_reverse] at hpiece
    have hhead := List.head?_dropWhile_not test rest.reverse
    rw [Option.mem_def.mp hpiece] at hhead
    rw [Bool.eq_false_iff, Ne, ← htest]
    simpa using hhead

theorem pieces_ofPieces {pieces : List Text} (hne : pieces ≠ [])
    (h : ∀ piece ∈ pieces, '/' ∉ piece) :
    (ofPieces pieces).pieces = pieces ∨ pieces = [[]] ∧ (ofPieces pieces).pieces = [[], []] := by
  unfold ofPieces
  split
  · exact .inr ⟨rfl, rfl⟩
  · exact .inl (splitOn_joinWith hne h)

theorem isAbsolute_ofPieces {first : Text} {rest : List Text}
    (h : ∀ piece ∈ first :: rest, '/' ∉ piece) :
    (ofPieces (first :: rest)).isAbsolute = true ↔ first = [] := by
  rcases pieces_ofPieces (List.cons_ne_nil first rest) h with hpieces | ⟨hroot, -⟩
  · rw [isAbsolute_of_pieces hpieces]
    refine ⟨fun h => h.1, fun hfirst => ⟨hfirst, ?_⟩⟩
    rintro rfl
    subst hfirst
    exact absurd hpieces (by decide)
  · obtain ⟨rfl, rfl⟩ : first = [] ∧ rest = [] := by simpa using hroot
    simp [ofPieces, isAbsolute]

/-- The text of a path made of the first pieces of another is a beginning of that path's text. -/
theorem text_ofPieces_prefix {front back : List Text} (hpieces : p.pieces = front ++ back)
    (hfront : front ≠ []) (hback : back ≠ []) : (ofPieces front).text <+: p.text := by
  have htext : p.text = joinWith ['/'] front ++ (['/'] ++ joinWith ['/'] back) := by
    rw [← joinWith_append _ hfront hback, ← hpieces]
    exact (joinWith_splitOn '/' p.text).symm
  rw [htext]
  unfold ofPieces
  split
  · simp [joinWith_singleton]
  · exact List.prefix_append _ _

/-! ### Plain paths -/

/-- A path is made of names only. -/
def Plain (p : Path) : Prop := ∀ piece ∈ p.pieces, isPassed piece = false ∧ piece ≠ ['.', '.']

instance (p : Path) : Decidable p.Plain :=
  inferInstanceAs (Decidable (∀ piece ∈ p.pieces, _))

variable {q : Path}

namespace Plain

theorem inner (h : p.Plain) : p.Inner := by
  refine ⟨?_, fun hmem => (h _ hmem).2 rfl⟩
  obtain ⟨first, rest, hpieces⟩ := List.exists_cons_of_ne_nil p.pieces_ne_nil
  rw [Bool.eq_false_iff, Ne, isAbsolute_of_pieces hpieces]
  rintro ⟨rfl, -⟩
  have hpassed := (h [] (by simp [hpieces])).1
  simp [isPassed] at hpassed

theorem names_eq (h : p.Plain) : p.names = p.pieces := by
  rw [names, List.filter_eq_self]
  intro piece hpiece
  simp [(h piece hpiece).1]

/-- The path of a file below a folder begins with the text of the folder's path. -/
theorem text_prefix (h : p.Plain) (h' : q.Plain) (hlead : p.names <+: q.names) :
    p.text <+: q.text := by
  have htext : ∀ path : Path, path.text = joinWith ['/'] path.pieces :=
    fun path => (joinWith_splitOn '/' path.text).symm
  rw [h.names_eq, h'.names_eq] at hlead
  obtain ⟨rest, hrest⟩ := hlead
  by_cases hnil : rest = []
  · have heq : p.text = q.text := by
      rw [htext p, htext q, ← hrest, hnil, List.append_nil]
    exact heq ▸ List.prefix_rfl
  · rw [htext p, htext q, ← hrest, joinWith_append _ p.pieces_ne_nil hnil]
    exact List.prefix_append _ _

end Plain

theorem text_prefix_join (h : p.isAbsolute = false) : base.text <+: (base.join p).text := by
  unfold join
  rw [if_neg (by simp [h])]
  split <;> exact List.prefix_append _ _

theorem join_prefix_join (h : p.isAbsolute = false) (h' : q.isAbsolute = false)
    (hlead : p.text <+: q.text) : (base.join p).text <+: (base.join q).text := by
  simp only [join, h, h', Bool.false_eq_true, if_false]
  split
  · exact (List.prefix_append_right_inj _).mpr hlead
  · exact (List.prefix_append_right_inj _).mpr (List.cons_prefix_cons.mpr ⟨rfl, hlead⟩)

/-! ### Paths that are too long -/

theorem isTooLong_of_prefix (h : p.text <+: q.text) (hlong : p.isTooLong = true) :
    q.isTooLong = true := by
  obtain ⟨rest, hrest⟩ := h
  simp only [isTooLong, decide_eq_true_eq] at *
  rw [← hrest, size_append]
  omega

@[simp] theorem descend_nil (folder : Path) : folder.descend [] = folder := rfl

theorem descend_cons (folder : Path) (name : Name) (names : List Name) :
    folder.descend (name :: names) = (folder.join ⟨name⟩).descend names := rfl

theorem descend_append (folder : Path) (names rest : List Name) :
    folder.descend (names ++ rest) = (folder.descend names).descend rest := by
  rw [descend, descend, descend, List.foldl_append]

theorem isAbsolute_of_noSlash {name : Name} (h : '/' ∉ name) :
    (⟨name⟩ : Path).isAbsolute = false := by
  rw [isAbsolute, decide_eq_false_iff_not]
  exact fun hhead => h (List.mem_of_mem_head? hhead)

/-- The path of a folder begins that of what is in it. -/
theorem text_prefix_descend {names : List Name} (h : ∀ name ∈ names, '/' ∉ name) :
    p.text <+: (p.descend names).text := by
  induction names generalizing p with
  | nil => exact List.prefix_rfl
  | cons name names ih =>
    obtain ⟨hname, hnames⟩ := List.forall_mem_cons.mp h
    exact (text_prefix_join (isAbsolute_of_noSlash hname)).trans (ih hnames)

end Path

end Graft
