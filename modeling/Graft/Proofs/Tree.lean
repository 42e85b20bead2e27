import Graft.Proofs.Path
import Graft.Tree
import Mathlib.Data.Char
import Mathlib.Data.List.Induction
import Mathlib.Data.List.Lex
import Mathlib.Data.List.Nodup
import Mathlib.Data.List.Perm.Basic
import Mathlib.Order.Lattice

/-! Well-formed trees, and what a path finds in them: where a path leads does not depend on the
tree, and two trees with the same files in a place answer the same about it. -/

namespace Graft

open Text

/-! ### Results of what can fail -/

theorem bind_eq_ok_iff {α β ε : Type} {x : Except ε α} {f : α → Except ε β} {b : β} :
    (x >>= f) = .ok b ↔ ∃ a, x = .ok a ∧ f a = .ok b := by
  cases x <;> simp [bind, Except.bind]

theorem mapError_eq_ok_iff {α ε ε' : Type} {x : Except ε α} {f : ε → ε'} {a : α} :
    x.mapError f = .ok a ↔ x = .ok a := by
  cases x <;> simp [Except.mapError]

theorem bind_eq_error_iff {α β ε : Type} {x : Except ε α} {f : α → Except ε β} {e : ε} :
    (x >>= f) = .error e ↔ x = .error e ∨ ∃ a, x = .ok a ∧ f a = .error e := by
  cases x <;> simp [bind, Except.bind]

theorem mapError_eq_error_iff {α ε ε' : Type} {x : Except ε α} {f : ε → ε'} {e : ε'} :
    x.mapError f = .error e ↔ ∃ e', x = .error e' ∧ f e' = e := by
  cases x <;> simp [Except.mapError]

theorem map_eq_ok_iff {α β ε : Type} {x : Except ε α} {f : α → β} {b : β} :
    x.map f = .ok b ↔ ∃ a, x = .ok a ∧ f a = b := by
  cases x <;> simp [Except.map]

theorem isOk_congr {α ε : Type} {x y : Except ε α} (h : ∀ a, x = .ok a ↔ y = .ok a) :
    x.isOk = y.isOk := by
  cases x with
  | ok a => rw [(h a).mp rfl]
  | error e =>
    cases y with
    | ok a => cases (h a).mpr rfl
    | error e' => rfl

/-! ### Well-formed trees -/

/-- A name that a file or folder can have. -/
structure IsEntryName (name : Name) : Prop where
  proper : Path.isPassed name = false
  notParent : name ≠ ['.', '.']
  noSlash : '/' ∉ name
  short : name.size ≤ Tree.nameLimit

instance (name : Name) : Decidable (IsEntryName name) :=
  decidable_of_iff (Path.isPassed name = false ∧ name ≠ ['.', '.'] ∧ '/' ∉ name ∧
      name.size ≤ Tree.nameLimit)
    ⟨fun h => ⟨h.1, h.2.1, h.2.2.1, h.2.2.2⟩, fun h => ⟨h.1, h.2, h.3, h.4⟩⟩

namespace IsEntryName

variable {name : Name} (h : IsEntryName name)

include h

theorem ne_nil : name ≠ [] := by
  rintro rfl
  have := h.proper
  simp [Path.isPassed] at this

theorem not_dots : ¬(name = ['.'] ∨ name = ['.', '.']) := by
  rintro (rfl | rfl)
  · have := h.proper
    simp [Path.isPassed] at this
  · exact h.notParent rfl

end IsEntryName

/-- What is in a folder has a longer path than the folder. -/
theorem Path.isTooLong_descend {folder : Path} {names rest : List Name}
    (hrest : ∀ name ∈ rest, IsEntryName name) (h : (folder.descend names).isTooLong = true) :
    (folder.descend (names ++ rest)).isTooLong = true := by
  rw [descend_append]
  exact isTooLong_of_prefix (text_prefix_descend fun name hname => (hrest name hname).noSlash) h

namespace Tree

/-- Each entry has a location of its own, in a folder and under a name that it can have. -/
structure WellFormed (tree : Tree) : Prop where
  nodup : (tree.entries.map (·.1)).Nodup
  placed : ∀ l e, (l, e) ∈ tree.entries → ∃ folder name, l = folder ++ [name] ∧
    IsEntryName name ∧ tree.entry? folder = some .folder

theorem wellFormed_iff {tree : Tree} : tree.WellFormed ↔ (tree.entries.map (·.1)).Nodup ∧
    ∀ x ∈ tree.entries, ∃ name ∈ x.1.getLast?, IsEntryName name ∧
      tree.entry? x.1.dropLast = some .folder := by
  constructor
  · intro h
    refine ⟨h.nodup, fun x hx => ?_⟩
    obtain ⟨folder, name, hplace, hname, hfolder⟩ := h.placed x.1 x.2 hx
    exact ⟨name, by simp [hplace], hname, by simpa [hplace] using hfolder⟩
  · rintro ⟨hnodup, hplaced⟩
    refine ⟨hnodup, fun l e hmem => ?_⟩
    obtain ⟨name, hlast, hname, hfolder⟩ := hplaced (l, e) hmem
    obtain ⟨folder, rfl⟩ := List.getLast?_eq_some_iff.mp hlast
    exact ⟨folder, name, rfl, hname, by simpa using hfolder⟩

instance (tree : Tree) : Decidable tree.WellFormed := decidable_of_iff _ wellFormed_iff.symm

/-- The content of the file at a location. -/
def file? (tree : Tree) (l : Location) : Option Content :=
  match tree.entry? l with
  | some (.file content) => some content
  | _ => none

variable {tree other : Tree} {l m : Location} {pieces : List Text} {content : Content}

theorem file?_eq_some_iff : tree.file? l = some content ↔ tree.entry? l = some (.file content) := by
  unfold file?
  split
  · next h => simp [h]
  · next h =>
    refine iff_of_false (by simp) fun heq => ?_
    exact h content heq

theorem isSome_of_file? (h : tree.file? l = some content) : (tree.entry? l).isSome := by
  rw [file?_eq_some_iff.mp h]
  rfl

theorem entry?_congr (hfile : tree.file? l = other.file? l)
    (hfolder : tree.entry? l = some .folder ↔ other.entry? l = some .folder) :
    tree.entry? l = other.entry? l := by
  cases h : tree.entry? l with
  | none =>
    cases h' : other.entry? l with
    | none => rfl
    | some e =>
      cases e with
      | folder =>
        rw [hfolder.mpr h'] at h
        cases h
      | file content =>
        rw [file?_eq_some_iff.mpr h', file?_eq_some_iff, h] at hfile
        cases hfile
  | some e =>
    cases e with
    | folder => exact (hfolder.mp h).symm
    | file content =>
      rw [file?_eq_some_iff.mpr h, eq_comm, file?_eq_some_iff] at hfile
      exact hfile.symm

@[simp] theorem entry?_nil : tree.entry? [] = some .folder := rfl

theorem isFolderAt_iff : tree.isFolderAt l = true ↔ tree.entry? l = some .folder := by
  simp [isFolderAt]

theorem entry?_of_ne_nil (h : l ≠ []) : tree.entry? l = tree.entries.lookup l := by
  rw [Tree.entry?, if_neg h]

theorem mem_of_entry?_eq {e : Entry} (hl : l ≠ []) (h : tree.entry? l = some e) :
    (l, e) ∈ tree.entries := by
  rw [entry?_of_ne_nil hl] at h
  obtain ⟨front, back, heq, -⟩ := List.lookup_eq_some_iff.mp h
  rw [heq]
  simp

theorem lookup_of_mem {α β : Type} [BEq α] [LawfulBEq α] {xs : List (α × β)} {k : α} {v : β}
    (hnodup : (xs.map (·.1)).Nodup) (hmem : (k, v) ∈ xs) : xs.lookup k = some v := by
  rw [List.lookup_eq_some_iff]
  obtain ⟨front, back, rfl⟩ := List.append_of_mem hmem
  refine ⟨front, back, rfl, fun p hp => ?_⟩
  rw [List.map_append, List.map_cons, List.nodup_append] at hnodup
  have hne := hnodup.2.2 p.1 (List.mem_map_of_mem hp) k (by simp)
  simpa using Ne.symm hne

theorem lookup_filter_ne {α β : Type} [BEq α] [LawfulBEq α] [DecidableEq α] {xs : List (α × β)}
    {k k₀ : α} (h : k ≠ k₀) : (xs.filter (·.1 ≠ k₀)).lookup k = xs.lookup k := by
  induction xs with
  | nil => rfl
  | cons x xs ih =>
    obtain ⟨key, v⟩ := x
    by_cases hkey : key = k₀
    · have hne : (k == key) = false := by simpa [hkey] using h
      rw [List.filter_cons_of_neg (by simp [hkey]), ih, List.lookup_cons, hne]
    · rw [List.filter_cons_of_pos (by simp [hkey]), List.lookup_cons, List.lookup_cons, ih]

namespace WellFormed

theorem ne_nil (h : tree.WellFormed) {e : Entry} (hmem : (l, e) ∈ tree.entries) : l ≠ [] := by
  obtain ⟨folder, name, rfl, -, -⟩ := h.placed l e hmem
  simp

theorem entry?_of_mem (h : tree.WellFormed) {e : Entry} (hmem : (l, e) ∈ tree.entries) :
    tree.entry? l = some e := by
  rw [entry?_of_ne_nil (h.ne_nil hmem)]
  exact lookup_of_mem h.nodup hmem

theorem placed_of_entry? (h : tree.WellFormed) {name : Name}
    (he : (tree.entry? (l ++ [name])).isSome) :
    IsEntryName name ∧ tree.entry? l = some .folder := by
  obtain ⟨e, he⟩ := Option.isSome_iff_exists.mp he
  obtain ⟨folder, name', heq, hname, hfolder⟩ := h.placed _ e (mem_of_entry?_eq (by simp) he)
  obtain ⟨rfl, rfl⟩ : l = folder ∧ name = name' := by simpa using heq
  exact ⟨hname, hfolder⟩

/-- What leads to an entry is a folder, and the names that lead on to it are names of entries. -/
theorem folder_of_append (h : tree.WellFormed) (he : (tree.entry? (l ++ m)).isSome) :
    (m ≠ [] → tree.entry? l = some .folder) ∧ ∀ name ∈ m, IsEntryName name := by
  induction m using List.reverseRecOn with
  | nil => simp
  | append_singleton m name ih =>
    rw [← List.append_assoc] at he
    obtain ⟨hname, hfolder⟩ := h.placed_of_entry? he
    obtain ⟨ihfolder, ihnames⟩ := ih (by simp [hfolder])
    refine ⟨fun _ => ?_, fun name' hname' => ?_⟩
    · by_cases hm : m = []
      · simpa [hm] using hfolder
      · exact ihfolder hm
    · rcases List.mem_append.mp hname' with hname' | hname'
      · exact ihnames name' hname'
      · obtain rfl := List.mem_singleton.mp hname'
        exact hname

/-- Nothing is below what is not there. -/
theorem entry?_append (h : tree.WellFormed) (hnone : tree.entry? l = none) (m : Location) :
    tree.entry? (l ++ m) = none := by
  by_cases hm : m = []
  · rw [hm, List.append_nil, hnone]
  · by_contra hsome
    rw [(h.folder_of_append (Option.isSome_iff_ne_none.mpr hsome)).1 hm] at hnone
    cases hnone

end WellFormed

/-! ### The walk along a path -/

/-- Where a piece of a path leads, whatever the tree. -/
def step (l : Location) (piece : Text) : Location :=
  if Path.isPassed piece then l else if piece = ['.', '.'] then l.dropLast else l ++ [piece]

/-- The walk along a path, whatever its text looks like. -/
def walk (tree : Tree) (p : Path) : Except IoFault Location :=
  p.pieces.foldlM tree.enter (tree.startOf p)

theorem locate_eq_ok_iff {p : Path} :
    tree.locate p = .ok l ↔ checkPath p = .ok () ∧ tree.walk p = .ok l := by
  have hlocate : tree.locate p = (checkPath p >>= fun _ => tree.walk p) := rfl
  rw [hlocate]
  cases checkPath p with
  | error e => exact iff_of_false (by simp [bind, Except.bind]) (by simp)
  | ok u => simp [bind, Except.bind]

theorem isTooLong_of_checkPath {p : Path} (h : checkPath p = .ok ()) : p.isTooLong = false := by
  unfold checkPath at h
  split at h
  · cases h
  · split at h
    · cases h
    · next hshort => simpa using hshort

theorem isTooLong_of_locate {p : Path} (h : tree.locate p = .ok l) : p.isTooLong = false :=
  isTooLong_of_checkPath (locate_eq_ok_iff.mp h).1

theorem enter_eq_ok_iff {piece : Text} : tree.enter l piece = .ok m ↔
    tree.entry? l = some .folder ∧ m = step l piece ∧
      (Path.isPassed piece = false → piece ≠ ['.', '.'] →
        piece.size ≤ nameLimit ∧ (tree.entry? (l ++ [piece])).isSome) := by
  unfold enter step
  cases hfolder : tree.isFolderAt l with
  | false =>
    refine iff_of_false (by simp) fun h => ?_
    rw [isFolderAt_iff.mpr h.1] at hfolder
    cases hfolder
  | true =>
    have hl := isFolderAt_iff.mp hfolder
    rw [if_neg (by simp)]
    by_cases hpassed : piece = [] ∨ piece = ['.']
    · simpa [Path.isPassed, hpassed, hl] using eq_comm
    · by_cases hparent : piece = ['.', '.']
      · simpa [Path.isPassed, hparent, hl] using eq_comm
      · by_cases hsize : nameLimit < piece.size
        · simp [Path.isPassed, hpassed, hparent, hsize]
        · cases hentry : tree.entry? (l ++ [piece]) with
          | none => simp [Path.isPassed, hpassed, hparent, hsize]
          | some e =>
            simpa [Path.isPassed, hpassed, hparent, hsize, hl, Nat.not_lt.mp hsize] using eq_comm

theorem enter_eq_notFound_iff {piece : Text} : tree.enter l piece = .error .notFound ↔
    tree.entry? l = some .folder ∧ Path.isPassed piece = false ∧ piece ≠ ['.', '.'] ∧
      piece.size ≤ nameLimit ∧ tree.entry? (l ++ [piece]) = none := by
  unfold enter
  cases hfolder : tree.isFolderAt l with
  | false =>
    refine iff_of_false (by simp) fun h => ?_
    rw [isFolderAt_iff.mpr h.1] at hfolder
    cases hfolder
  | true =>
    have hl := isFolderAt_iff.mp hfolder
    rw [if_neg (by simp)]
    by_cases hpassed : piece = [] ∨ piece = ['.']
    · simp [Path.isPassed, hpassed]
    · by_cases hparent : piece = ['.', '.']
      · simp [Path.isPassed, hparent]
      · by_cases hsize : nameLimit < piece.size
        · simp [Path.isPassed, hpassed, hparent, hsize]
        · cases hentry : tree.entry? (l ++ [piece]) with
          | none => simp [Path.isPassed, hpassed, hparent, hsize, hl, Nat.not_lt.mp hsize]
          | some e => simp [Path.isPassed, hpassed, hparent, hsize]

theorem foldlM_enter_cons {piece : Text} :
    (piece :: pieces).foldlM tree.enter l = .ok m ↔
      ∃ next, tree.enter l piece = .ok next ∧ pieces.foldlM tree.enter next = .ok m := by
  rw [List.foldlM_cons]
  cases tree.enter l piece <;> simp [bind, Except.bind]

/-- Where pieces lead does not depend on the tree. -/
theorem foldlM_enter (h : pieces.foldlM tree.enter l = .ok m) : m = pieces.foldl step l := by
  induction pieces generalizing l with
  | nil => exact (Except.ok.inj h).symm
  | cons piece pieces ih =>
    obtain ⟨next, hnext, hrest⟩ := foldlM_enter_cons.mp h
    rw [ih hrest, (enter_eq_ok_iff.mp hnext).2.1]
    rfl

/-- Where a path leads, as far as its text says. -/
def place (tree : Tree) (p : Path) : Location := p.pieces.foldl step (tree.startOf p)

theorem place_of_walk {p : Path} (h : tree.walk p = .ok l) : tree.place p = l :=
  (foldlM_enter h).symm

theorem place_of_locate {p : Path} (h : tree.locate p = .ok l) : tree.place p = l :=
  place_of_walk (locate_eq_ok_iff.mp h).2

theorem walk_unique {p : Path} (hhome : other.home = tree.home) (hl : tree.walk p = .ok l)
    (hm : other.walk p = .ok m) : m = l := by
  rw [foldlM_enter hl, foldlM_enter hm, startOf, startOf, hhome]

/-- Without `..`, pieces only lead further. -/
theorem foldl_step (h : ['.', '.'] ∉ pieces) (l : Location) :
    pieces.foldl step l = l ++ pieces.filter fun piece => !Path.isPassed piece := by
  induction pieces generalizing l with
  | nil => simp
  | cons piece pieces ih =>
    obtain ⟨hpiece, hpieces⟩ : ['.', '.'] ≠ piece ∧ ['.', '.'] ∉ pieces := by simpa using h
    rw [List.foldl_cons, ih hpieces, step]
    cases hpassed : Path.isPassed piece <;> simp [hpassed, Ne.symm hpiece]

/-- A step leads to an entry from an entry, if there is one to go on to. -/
theorem WellFormed.isSome_step (wf : tree.WellFormed) (hl : (tree.entry? l).isSome) {piece : Text}
    (hthere : Path.isPassed piece = false → piece ≠ ['.', '.'] →
      (tree.entry? (l ++ [piece])).isSome) : (tree.entry? (step l piece)).isSome := by
  unfold step
  split
  · exact hl
  · next hpassed =>
    split
    · rcases List.eq_nil_or_concat l with rfl | ⟨folder, name, rfl⟩
      · exact hl
      · rw [List.concat_eq_append] at *
        rw [List.dropLast_concat, (wf.placed_of_entry? hl).2]
        rfl
    · next hparent => exact hthere (by simpa using hpassed) hparent

/-- A tree after it has grown: folders are still folders, and files are still files. -/
structure Grows (before after : Tree) : Prop where
  home : after.home = before.home
  folder : ∀ l, before.entry? l = some .folder → after.entry? l = some .folder
  file : ∀ l, (before.file? l).isSome → (after.file? l).isSome

namespace Grows

theorem refl (tree : Tree) : Grows tree tree := ⟨rfl, fun _ h => h, fun _ h => h⟩

theorem trans {first second third : Tree} (h : Grows first second) (h' : Grows second third) :
    Grows first third :=
  ⟨h'.home.trans h.home, fun l hl => h'.folder l (h.folder l hl),
    fun l hl => h'.file l (h.file l hl)⟩

theorem isSome (h : Grows tree other) (hl : (tree.entry? l).isSome) : (other.entry? l).isSome := by
  obtain ⟨e, he⟩ := Option.isSome_iff_exists.mp hl
  cases e with
  | folder => simp [h.folder l he]
  | file content =>
    obtain ⟨content', hcontent⟩ := Option.isSome_iff_exists.mp
      (h.file l (by simp [file?_eq_some_iff.mpr he]))
    simp [file?_eq_some_iff.mp hcontent]

/-- What is a folder after the tree has grown was one before, if it was anything. -/
theorem folder_of_folder (h : Grows tree other) (hl : (tree.entry? l).isSome)
    (hfolder : other.entry? l = some .folder) : tree.entry? l = some .folder := by
  obtain ⟨e, he⟩ := Option.isSome_iff_exists.mp hl
  cases e with
  | folder => exact he
  | file content =>
    have hfile := h.file l (by simp [file?_eq_some_iff.mpr he])
    rw [file?, hfolder] at hfile
    cases hfile

/-- A path that leads somewhere still does after the tree has grown. -/
theorem foldlM_enter (h : Grows tree other) (hm : pieces.foldlM tree.enter l = .ok m) :
    pieces.foldlM other.enter l = .ok m := by
  induction pieces generalizing l with
  | nil => exact hm
  | cons piece pieces ih =>
    obtain ⟨next, hnext, hrest⟩ := foldlM_enter_cons.mp hm
    obtain ⟨hfolder, hstep, hexists⟩ := enter_eq_ok_iff.mp hnext
    refine foldlM_enter_cons.mpr ⟨next, enter_eq_ok_iff.mpr ⟨h.folder l hfolder, hstep, ?_⟩,
      ih hrest⟩
    intro hpassed hparent
    exact ⟨(hexists hpassed hparent).1, h.isSome (hexists hpassed hparent).2⟩

/-- What a walk misses after a tree has grown was missed before. -/
theorem foldlM_enter_notFound (h : Grows tree other) (wf : tree.WellFormed)
    (hl : (tree.entry? l).isSome)
    (hmiss : pieces.foldlM other.enter l = .error .notFound) :
    pieces.foldlM tree.enter l = .error .notFound := by
  induction pieces generalizing l with
  | nil => cases hmiss
  | cons piece pieces ih =>
    rw [List.foldlM_cons] at hmiss ⊢
    cases hother : other.enter l piece with
    | error fault =>
      rw [hother] at hmiss
      obtain rfl : fault = .notFound := Except.error.inj hmiss
      obtain ⟨hfolder, hproper, hparent, hsize, hnone⟩ := enter_eq_notFound_iff.mp hother
      have hnone : tree.entry? (l ++ [piece]) = none := by
        by_contra hsome
        have hlater := h.isSome (Option.isSome_iff_ne_none.mpr hsome)
        rw [hnone] at hlater
        cases hlater
      rw [enter_eq_notFound_iff.mpr
        ⟨h.folder_of_folder hl hfolder, hproper, hparent, hsize, hnone⟩]
      rfl
    | ok next =>
      rw [hother] at hmiss
      obtain ⟨hfolder, hstep, hsteps⟩ := enter_eq_ok_iff.mp hother
      have hfolder := h.folder_of_folder hl hfolder
      by_cases hthere : Path.isPassed piece = false → piece ≠ ['.', '.'] →
          (tree.entry? (l ++ [piece])).isSome
      · have henter : tree.enter l piece = .ok next := enter_eq_ok_iff.mpr
          ⟨hfolder, hstep, fun hpassed hparent =>
            ⟨(hsteps hpassed hparent).1, hthere hpassed hparent⟩⟩
        rw [henter]
        exact ih (hstep ▸ wf.isSome_step hl hthere) hmiss
      · rw [Classical.not_imp, Classical.not_imp] at hthere
        obtain ⟨hproper, hparent, hnone⟩ := hthere
        rw [enter_eq_notFound_iff.mpr ⟨hfolder, hproper, hparent, (hsteps hproper hparent).1,
          Option.not_isSome_iff_eq_none.mp hnone⟩]
        rfl

theorem walk (h : Grows tree other) {p : Path} (hl : tree.walk p = .ok l) :
    other.walk p = .ok l := by
  have hstart : other.startOf p = tree.startOf p := by
    rw [startOf, startOf, h.home]
  rw [Tree.walk, hstart]
  exact h.foldlM_enter hl

theorem locate (h : Grows tree other) {p : Path} (hl : tree.locate p = .ok l) :
    other.locate p = .ok l :=
  locate_eq_ok_iff.mpr ⟨(locate_eq_ok_iff.mp hl).1, h.walk (locate_eq_ok_iff.mp hl).2⟩

end Grows

/-- What pieces without `..` lead to exists. -/
theorem isSome_of_foldlM_enter (h : pieces.foldlM tree.enter l = .ok m) (hne : pieces ≠ [])
    (hno : ['.', '.'] ∉ pieces) : (tree.entry? m).isSome := by
  induction pieces generalizing l with
  | nil => exact absurd rfl hne
  | cons piece pieces ih =>
    obtain ⟨next, hnext, hrest⟩ := foldlM_enter_cons.mp h
    obtain ⟨hpiece, hpieces⟩ : ['.', '.'] ≠ piece ∧ ['.', '.'] ∉ pieces := by simpa using hno
    by_cases hnil : pieces = []
    · obtain rfl : next = m := by simpa [hnil, pure, Except.pure] using hrest
      obtain ⟨hfolder, rfl, hexists⟩ := enter_eq_ok_iff.mp hnext
      unfold step
      cases hpassed : Path.isPassed piece with
      | true => simp [hfolder]
      | false => simpa [Ne.symm hpiece] using (hexists hpassed (Ne.symm hpiece)).2
    · exact ih hrest hnil hpieces

/-- Pieces without `..` that lead to an entry lead to it in each well-formed tree that has an entry
there, and a folder if it is a folder. -/
theorem WellFormed.foldlM_enter (h : other.WellFormed) (hno : ['.', '.'] ∉ pieces)
    (hm : pieces.foldlM tree.enter l = .ok m) (hsome : (other.entry? m).isSome)
    (hkind : tree.entry? m = some .folder → other.entry? m = some .folder) :
    pieces.foldlM other.enter l = .ok m := by
  induction pieces generalizing l with
  | nil => exact hm
  | cons piece pieces ih =>
    obtain ⟨next, hnext, hrest⟩ := foldlM_enter_cons.mp hm
    obtain ⟨hpiece, hpieces⟩ : ['.', '.'] ≠ piece ∧ ['.', '.'] ∉ pieces := by simpa using hno
    obtain ⟨hfolder, hstep, hexists⟩ := enter_eq_ok_iff.mp hnext
    have hplace := Tree.foldlM_enter hm
    rw [foldl_step hno] at hplace
    have hplace' := Tree.foldlM_enter hrest
    rw [foldl_step hpieces] at hplace'
    have hlook : other.entry? l = some .folder := by
      by_cases hnil : ((piece :: pieces).filter fun piece => !Path.isPassed piece) = []
      · rw [hnil, List.append_nil] at hplace
        rw [← hplace]
        exact hkind (hplace ▸ hfolder)
      · rw [hplace] at hsome
        exact (h.folder_of_append hsome).1 hnil
    refine foldlM_enter_cons.mpr ⟨next, enter_eq_ok_iff.mpr ⟨hlook, hstep, ?_⟩, ih hpieces hrest⟩
    intro hpassed hparent
    refine ⟨(hexists hpassed hparent).1, ?_⟩
    have hnext : next = l ++ [piece] := by
      rw [hstep, step, if_neg (by simp [hpassed]), if_neg hparent]
    rw [← hnext]
    by_cases hnil : (pieces.filter fun piece => !Path.isPassed piece) = []
    · rw [hnil, List.append_nil] at hplace'
      rwa [← hplace']
    · rw [hplace'] at hsome
      simp [(h.folder_of_append hsome).1 hnil]

theorem locate_congr {p : Path} (hhome : other.home = tree.home)
    (hentry : ∀ m, other.entry? m = tree.entry? m) : other.locate p = tree.locate p := by
  have henter : other.enter = tree.enter := by
    funext l piece
    have hfolder : other.isFolderAt l = tree.isFolderAt l := by
      rw [Bool.eq_iff_iff, isFolderAt_iff, isFolderAt_iff, hentry]
    simp only [enter, hfolder, hentry]
  have hstart : other.startOf p = tree.startOf p := by
    rw [startOf, startOf, hhome]
  rw [locate, locate, henter, hstart]

theorem isFolder_iff {p : Path} :
    tree.isFolder p = true ↔ ∃ m, tree.locate p = .ok m ∧ tree.entry? m = some .folder := by
  unfold isFolder find?
  cases tree.locate p <;> simp

/-! ### Paths below a root -/

theorem startOf_join {base p : Path} (h : p.isAbsolute = false) :
    tree.startOf (base.join p) = tree.startOf base := by
  rw [startOf, startOf, Path.isAbsolute_join base h]

/-- An empty piece before other pieces asks for nothing that they do not ask for. -/
theorem enter_nil_bind (hne : pieces ≠ []) :
    (tree.enter l [] >>= fun m => pieces.foldlM tree.enter m) = pieces.foldlM tree.enter l := by
  obtain ⟨piece, rest, rfl⟩ := List.exists_cons_of_ne_nil hne
  cases hfolder : tree.isFolderAt l <;> simp [enter, hfolder, bind, Except.bind]

theorem walk_join {base p : Path} (h : p.isAbsolute = false) :
    tree.walk (base.join p) = tree.walk base >>= fun l => p.pieces.foldlM tree.enter l := by
  rw [walk, walk, startOf_join h]
  rcases Path.pieces_join base h with hjoin | ⟨init, hbase, hjoin⟩
  · rw [hjoin, List.foldlM_append]
  · rw [hjoin, hbase, List.foldlM_append, List.foldlM_append, bind_assoc]
    refine congrArg _ (funext fun l => ?_)
    rw [List.foldlM_cons, bind_assoc]
    simp only [List.foldlM_nil, pure_bind]
    exact (enter_nil_bind p.pieces_ne_nil).symm

end Tree

namespace Path

/-- The components of a path that leads below a root. -/
def below (root : Path) (names : List Name) : List Component :=
  root.components ++ names.map .normal

theorem below_append (root : Path) (names rest : List Name) :
    root.below (names ++ rest) = root.below names ++ rest.map .normal := by
  simp [below]

theorem normal_injective : Function.Injective Component.normal :=
  fun _ _ h => Component.normal.inj h

theorem below_inj {root : Path} {names names' : List Name} :
    root.below names = root.below names' ↔ names = names' := by
  rw [below, below, List.append_cancel_left_eq]
  exact (List.map_injective_iff.mpr normal_injective).eq_iff

theorem below_prefix_iff {root : Path} {names names' : List Name} :
    root.below names <+: root.below names' ↔ names <+: names' := by
  rw [below, below, List.prefix_append_right_inj]
  exact List.prefix_map_iff_of_injective normal_injective

/-- A path leads below a root by the given names. -/
structure Inside (root p : Path) (names : List Name) : Prop where
  text_ne_nil : p.text ≠ []
  components : p.components = root.below names
  pieces : ∃ pieces, pieces ≠ [] ∧ ['.', '.'] ∉ pieces ∧
    (pieces.filter fun piece => !isPassed piece) = names ∧
    ∀ tree : Tree, tree.walk p = tree.walk root >>= fun l => pieces.foldlM tree.enter l

namespace Inside

variable {root p q : Path} {names : List Name} {tree other : Tree} {l m : Location}

theorem of_inner (hroot : root.text ≠ []) (hp : p.Inner) : Inside root (root.join p) p.names := by
  refine ⟨text_join_ne_nil hroot, hp.components_join hroot, p.pieces, p.pieces_ne_nil,
    hp.noParent, rfl, fun tree => Tree.walk_join hp.relative⟩

theorem join (h : Inside root p names) (hq : q.Inner) :
    Inside root (p.join q) (names ++ q.names) := by
  obtain ⟨pieces, hne, hno, hnames, hwalk⟩ := h.pieces
  refine ⟨text_join_ne_nil h.text_ne_nil, ?_, pieces ++ q.pieces, by simp [hne], ?_, ?_, ?_⟩
  · rw [hq.components_join h.text_ne_nil, h.components, below_append]
  · simpa [hno] using hq.noParent
  · rw [List.filter_append, hnames]
    rfl
  · intro tree
    rw [Tree.walk_join hq.relative, hwalk, bind_assoc]
    simp only [List.foldlM_append]

/-- Where a path leads to below a root. -/
theorem locate_eq (h : Inside root p names) (hroot : tree.walk root = .ok l)
    (hp : tree.locate p = .ok m) : m = l ++ names ∧ (tree.entry? m).isSome := by
  obtain ⟨pieces, hne, hno, hnames, hwalk⟩ := h.pieces
  have hm := (Tree.locate_eq_ok_iff.mp hp).2
  rw [hwalk, hroot] at hm
  refine ⟨?_, Tree.isSome_of_foldlM_enter hm hne hno⟩
  rw [Tree.foldlM_enter hm, Tree.foldl_step hno, hnames]

/-- A path below a root leads nowhere when the root does not. -/
theorem isFolderAt_root (h : Inside root p names) (hp : tree.locate p = .ok m) :
    ∃ l, tree.walk root = .ok l ∧ tree.entry? l = some .folder := by
  obtain ⟨pieces, hne, hno, hnames, hwalk⟩ := h.pieces
  have hm := (Tree.locate_eq_ok_iff.mp hp).2
  rw [hwalk] at hm
  cases hroot : tree.walk root with
  | error e => rw [hroot] at hm; cases hm
  | ok l =>
    rw [hroot] at hm
    obtain ⟨piece, rest, rfl⟩ := List.exists_cons_of_ne_nil hne
    obtain ⟨next, hnext, -⟩ := Tree.foldlM_enter_cons.mp hm
    exact ⟨l, rfl, (Tree.enter_eq_ok_iff.mp hnext).1⟩

/-- A path below a root that leads to an entry leads to it in each well-formed tree that has an
entry there, and a folder if it is a folder. -/
theorem locate_of_entry? (h : Inside root p names) (hroot : tree.walk root = .ok l)
    (hroot' : other.walk root = .ok l) (wf : other.WellFormed) (hp : tree.locate p = .ok m)
    (hsome : (other.entry? m).isSome)
    (hkind : tree.entry? m = some .folder → other.entry? m = some .folder) :
    other.locate p = .ok m := by
  obtain ⟨pieces, hne, hno, hnames, hwalk⟩ := h.pieces
  obtain ⟨hcheck, hm⟩ := Tree.locate_eq_ok_iff.mp hp
  rw [hwalk, hroot] at hm
  refine Tree.locate_eq_ok_iff.mpr ⟨hcheck, ?_⟩
  rw [hwalk, hroot']
  exact wf.foldlM_enter hno hm hsome hkind

/-- A path below a root that leads to a file leads to it in each well-formed tree with a file
there. -/
theorem locate_of_file? (h : Inside root p names) (hroot : tree.walk root = .ok l)
    (hroot' : other.walk root = .ok l) (wf : other.WellFormed) (hp : tree.locate p = .ok m)
    (hfile : (tree.file? m).isSome) (hfile' : (other.file? m).isSome) : other.locate p = .ok m := by
  obtain ⟨content, hcontent⟩ := Option.isSome_iff_exists.mp hfile
  obtain ⟨content', hcontent'⟩ := Option.isSome_iff_exists.mp hfile'
  refine h.locate_of_entry? hroot hroot' wf hp (Tree.isSome_of_file? hcontent') fun hfolder => ?_
  rw [Tree.file?_eq_some_iff.mp hcontent] at hfolder
  cases hfolder

end Inside

end Path

/-! ### The reading of files -/

namespace Tree

variable {tree other : Tree} {p root : Path} {l : Location} {names : List Name}

theorem read_eq_ok_iff {t : Text} :
    tree.read p = .ok t ↔ ∃ m, tree.locate p = .ok m ∧ tree.file? m = some (.text t) := by
  unfold read
  rw [bind_eq_ok_iff]
  refine exists_congr fun m => and_congr_right fun _ => ?_
  rw [file?_eq_some_iff]
  split
  · next h => simp [h, pure, Except.pure]
  · next h => simp [h, throw, throwThe, MonadExceptOf.throw]
  · next h _ =>
    refine iff_of_false (by simp [throw, throwThe, MonadExceptOf.throw]) fun heq => ?_
    exact h _ heq

theorem isFile_iff :
    tree.isFile p = true ↔ ∃ m content, tree.locate p = .ok m ∧ tree.file? m = some content := by
  unfold isFile find?
  cases tree.locate p with
  | error e => simp
  | ok m =>
    simp only [Except.ok.injEq, exists_and_left, exists_eq_left', file?_eq_some_iff]
    split
    · next content h => simp [h]
    · next h =>
      refine iff_of_false (by simp) ?_
      rintro ⟨content, hcontent⟩
      exact h content hcontent

/-- Two trees hold the same files at and below a location. -/
def AgreeBelow (tree other : Tree) (l : Location) : Prop :=
  ∀ names, tree.file? (l ++ names) = other.file? (l ++ names)

section Agreement

variable (hp : Path.Inside root p names) (hroot : tree.walk root = .ok l)
  (hroot' : other.walk root = .ok l) (wf : tree.WellFormed) (wf' : other.WellFormed)

include hp hroot hroot' wf wf'

theorem locate_file_iff (hagree : tree.file? (l ++ names) = other.file? (l ++ names)) {m : Location}
    {content : Content} : (tree.locate p = .ok m ∧ tree.file? m = some content) ↔
      (other.locate p = .ok m ∧ other.file? m = some content) := by
  constructor
  · rintro ⟨hm, hfile⟩
    obtain ⟨rfl, -⟩ := hp.locate_eq hroot hm
    have hother := hagree.symm.trans hfile
    exact ⟨hp.locate_of_file? hroot hroot' wf' hm (by simp [hfile]) (by simp [hother]), hother⟩
  · rintro ⟨hm, hfile⟩
    obtain ⟨rfl, -⟩ := hp.locate_eq hroot' hm
    have hother := hagree.trans hfile
    exact ⟨hp.locate_of_file? hroot' hroot wf hm (by simp [hfile]) (by simp [hother]), hother⟩

theorem read_congr (hagree : tree.file? (l ++ names) = other.file? (l ++ names)) (t : Text) :
    tree.read p = .ok t ↔ other.read p = .ok t := by
  rw [read_eq_ok_iff, read_eq_ok_iff]
  exact exists_congr fun m => locate_file_iff hp hroot hroot' wf wf' hagree

theorem isFile_congr (hagree : tree.file? (l ++ names) = other.file? (l ++ names)) :
    tree.isFile p = other.isFile p := by
  rw [Bool.eq_iff_iff, isFile_iff, isFile_iff]
  exact exists_congr fun m => exists_congr fun content =>
    locate_file_iff hp hroot hroot' wf wf' hagree

end Agreement

/-! ### What is below a folder -/

theorem mem_below (wf : tree.WellFormed) {e : Entry} :
    (names, e) ∈ tree.below l ↔ names ≠ [] ∧ tree.entry? (l ++ names) = some e := by
  unfold below
  rw [List.mem_filterMap]
  constructor
  · rintro ⟨⟨m, e'⟩, hmem, hsome⟩
    dsimp only at hsome
    split at hsome
    · next hlead =>
      obtain ⟨rest, rfl⟩ := List.isPrefixOf_iff_prefix.mp hlead.1
      obtain ⟨rfl, rfl⟩ : rest = names ∧ e' = e := by simpa using hsome
      refine ⟨by simpa using hlead.2, wf.entry?_of_mem hmem⟩
    · cases hsome
  · rintro ⟨hne, hentry⟩
    refine ⟨(l ++ names, e), mem_of_entry?_eq (by simp [hne]) hentry, ?_⟩
    simp [hne]

end Tree

end Graft
