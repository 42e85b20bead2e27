import Graft.Proofs.Folder
import Graft.Proofs.Run

/-! What a plan finds at its file and what carrying it out leaves there: a file is written where
there is one or where nothing is in the way, when there is room for the temporary file beside it,
and folders are made on the way to it only. -/

namespace Graft

open Text

namespace Path

variable {root p : Path} {names : List Name}

namespace Spells

variable (h : Spells root p names)

include h

theorem isEntryName (hshort : ∀ piece ∈ p.pieces, piece.size ≤ Tree.nameLimit) :
    ∀ name ∈ names, IsEntryName name := by
  intro name hname
  have hpiece : name ∈ p.pieces := by
    have hmem : name ∈ p.names := by simp [h.names_eq, hname]
    exact List.mem_of_mem_filter hmem
  refine ⟨h.proper name hname, ?_, slash_not_mem hpiece, hshort name hpiece⟩
  rintro rfl
  exact h.noParent hname

/-- A path that ends in a name ends in the last name that it spells. -/
theorem pieces_of_last (hlast : ∀ piece ∈ p.pieces.getLast?, isPassed piece = false)
    (hne : names ≠ []) : ∃ before front name, p.pieces = before ++ [name] ∧
      names = front ++ [name] := by
  obtain ⟨front, name, rfl⟩ : ∃ front name, names = front ++ [name] :=
    ⟨_, _, (List.dropLast_append_getLast hne).symm⟩
  obtain ⟨before, last, hpieces⟩ : ∃ before last, p.pieces = before ++ [last] :=
    ⟨_, _, (List.dropLast_append_getLast p.pieces_ne_nil).symm⟩
  have hproper : isPassed last = false := hlast last (by simp [hpieces])
  have hnames := h.names_eq
  rw [names_of_pieces hpieces hproper, ← List.append_assoc] at hnames
  obtain rfl : last = name := by simpa using (List.append_inj' hnames rfl).2
  exact ⟨before, front, last, hpieces, rfl⟩

end Spells

end Path

namespace Tree

variable {tree other : Tree} {root p : Path} {l m : Location} {names : List Name} {t : Text}

/-- A path ends in a name, no name in it is too long for a file, and neither is the path of the
temporary file beside it. -/
structure Writable (tree : Tree) (p : Path) : Prop where
  last : ∀ piece ∈ p.pieces.getLast?, Path.isPassed piece = false
  short : ∀ piece ∈ p.pieces, piece.size ≤ nameLimit
  room : tree.hasRoom p = true

instance (tree : Tree) (p : Path) : Decidable (tree.Writable p) :=
  decidable_of_iff ((∀ piece ∈ p.pieces.getLast?, Path.isPassed piece = false) ∧
      (∀ piece ∈ p.pieces, piece.size ≤ nameLimit) ∧ tree.hasRoom p = true)
    ⟨fun ⟨h1, h2, h3⟩ => ⟨h1, h2, h3⟩, fun h => ⟨h.1, h.2, h.3⟩⟩

/-- Where a file can be written depends on the tree only by the folder that paths start from. -/
theorem Writable.congr (h : tree.Writable p) (hhome : other.home = tree.home) :
    other.Writable p :=
  ⟨h.last, h.short, (hasRoom_congr hhome p).trans h.room⟩

/-! ### What is found at a file -/

theorem locate_eq_notFound_iff (h : p.text ≠ []) : tree.locate p = .error .notFound ↔
    checkPath p = .ok () ∧ tree.walk p = .error .notFound := by
  have hne := checkPath_ne_notFound h
  have hlocate : tree.locate p = (checkPath p >>= fun _ => tree.walk p) := rfl
  rw [hlocate]
  cases hcheck : checkPath p with
  | ok u => simp [bind, Except.bind]
  | error fault =>
    rw [hcheck] at hne
    simpa [bind, Except.bind] using hne

theorem readIfAny_eq_none_iff : tree.readIfAny p = .ok none ↔
    tree.locate p = .error .notFound := by
  unfold readIfAny read
  cases tree.locate p with
  | error fault => cases fault <;> simp [bind, Except.bind]
  | ok m =>
    refine iff_of_false ?_ (by simp)
    dsimp only [bind, Except.bind]
    cases tree.entry? m with
    | none => simp [throw, throwThe, MonadExceptOf.throw]
    | some e =>
      cases e with
      | folder => simp [throw, throwThe, MonadExceptOf.throw]
      | file content =>
        cases content <;> simp [throw, throwThe, MonadExceptOf.throw, pure, Except.pure]

theorem readIfAny_of_file {t : Text} (hl : tree.locate p = .ok l)
    (hfile : tree.file? l = some (.text t)) : tree.readIfAny p = .ok (some t) :=
  Recipe.readIfAny_eq_some_iff.mpr (read_eq_ok_iff.mpr ⟨l, hl, hfile⟩)

section Spelled

variable (h : Path.Spells root p names) (hl : tree.walk root = .ok l)

include h hl

/-- Where a path is missed, nothing is there and no file is on the way to it. -/
theorem free_of_readIfAny (hroot : root.text ≠ []) (wf : tree.WellFormed)
    (hnone : tree.readIfAny p = .ok none) : checkPath p = .ok () ∧ tree.Free l names := by
  obtain ⟨hcheck, hwalk⟩ := (locate_eq_notFound_iff (h.text_ne_nil hroot)).mp
    (readIfAny_eq_none_iff.mp hnone)
  exact ⟨hcheck, free_of_foldlM_enter h.proper h.noParent wf
    ((walk_eq_notFound_iff h hl).mp hwalk)⟩

theorem readIfAny_of_free (hcheck : checkPath p = .ok ()) (hroot : root.text ≠ [])
    (hfolder : tree.entry? l = some .folder) (hnames : ∀ name ∈ names, IsEntryName name)
    (hfree : tree.Free l names) : tree.readIfAny p = .ok none := by
  rw [readIfAny_eq_none_iff, locate_eq_notFound_iff (h.text_ne_nil hroot)]
  exact ⟨hcheck, (walk_eq_notFound_iff h hl).mpr (hfree.foldlM_enter hfolder hnames)⟩

end Spelled

end Tree

namespace Recipe

open Graft.Tree

variable {root path : Path} {tree after made : Tree} {l m : Location} {names : List Name}
  {name : Name} {text : Text} {plan : Plan} {result : Except EntryError Written}

/-! ### What a commit leaves -/

/-- A commit that fails leaves nothing but folders. It has found nothing at its file, or no room for
the temporary file. -/
theorem commit_eq_error (wf : tree.WellFormed)
    (hbefore : tree.readIfAny plan.file = .ok plan.before) {e : EntryError}
    (h : commit tree plan = (after, .error e)) : AddsFolders tree after ∧
      (tree.readIfAny plan.file = .ok none ∨ tree.hasRoom plan.file = false ∧
        ∃ temporary, e = .write (.temporaryTooLong temporary)) := by
  obtain ⟨path, before, text⟩ := plan
  cases before with
  | none =>
    refine ⟨?_, .inl hbefore⟩
    rcases commit_cases h with ⟨-, -, hresult⟩ | ⟨-, made, hadds, -, ⟨rfl, -⟩ | ⟨-, hresult⟩⟩
    · cases hresult
    · exact hadds
    · cases hresult
  | some old =>
    obtain ⟨m, hm, hfile⟩ := read_eq_ok_iff.mp (readIfAny_eq_some_iff.mp hbefore)
    obtain ⟨hroom, herror, rfl⟩ := commit_error_of_file wf hm hfile h
    exact ⟨.refl after, .inr ⟨hroom, herror⟩⟩

theorem ne_nil_of_readIfAny {before : Option Text} (hroot : root.text ≠ [])
    (h : Path.Spells root path names) (hl : tree.walk root = .ok l) (wf : tree.WellFormed)
    (hfolder : tree.entry? l = some .folder) (hbefore : tree.readIfAny path = .ok before) :
    names ≠ [] := by
  rintro rfl
  cases before with
  | none =>
    obtain ⟨-, hfree⟩ := free_of_readIfAny h hl hroot wf hbefore
    exact hfree.ne_nil hfolder rfl
  | some t =>
    obtain ⟨m, hm, hfile⟩ := read_eq_ok_iff.mp (readIfAny_eq_some_iff.mp hbefore)
    have hwalk := walk_spells_of_folder h hl rfl hfolder
    rw [(locate_eq_ok_iff.mp hm).2] at hwalk
    obtain rfl := Except.ok.inj hwalk
    rw [file?_eq_none_of_folder hfolder] at hfile
    cases hfile

section Below

variable (hroot : root.text ≠ []) (h : Path.Spells root path names) (hl : tree.walk root = .ok l)
  (hfolder : tree.entry? l = some .folder)

include hroot h hl hfolder

/-- A commit makes folders on the way to its file only. -/
theorem folder_of_commit (hne : names ≠ []) (hfile : plan.file = path)
    (hcommit : commit tree plan = (after, result)) (hm : after.entry? m = some .folder) :
    tree.entry? m = some .folder ∨ m <+: l ++ names := by
  have hmade : ∀ m,
      Tree.entry? (path.parent?.elim (tree, none) tree.makeFolders).1 m = tree.entry? m ∨
      m <+: l ++ names := by
    intro m
    cases hq : path.parent? with
    | none => exact .inl rfl
    | some q =>
      exact (entry?_makeFolders hroot hl hfolder (h.parent hne hq) m).imp_right prefix_of_dropLast
  subst hfile
  rcases commit_cases hcommit with ⟨-, rfl, -⟩ | ⟨-, made, -, rfl, ⟨rfl, -⟩ | ⟨hwrite, -⟩⟩
  · exact .inl hm
  · exact (hmade m).imp_left fun hsame => hsame.symm.trans hm
  · obtain ⟨folder, name, -, -, -, rfl, -⟩ := write_eq_ok hwrite
    rw [entry?_insert (by simp)] at hm
    split at hm
    · cases hm
    · exact (hmade m).imp_left fun hsame => hsame.symm.trans hm

/-- A file is written where nothing is in the way. -/
theorem commit_of_free (wf : tree.WellFormed) (hwritable : tree.Writable path)
    (hcheck : checkPath path = .ok ()) (hfree : tree.Free l names) :
    ∃ after, commit tree ⟨path, none, text⟩ = (after, .ok (.applied path)) := by
  have hne := hfree.ne_nil hfolder
  obtain ⟨before, front, name, hpieces, rfl⟩ := h.pieces_of_last hwritable.last hne
  have hentries := h.isEntryName hwritable.short
  have hname := hentries name (by simp)
  obtain ⟨q, hq, hspells, hcheckq, hends⟩ := exists_parent h hpieces hname hroot hcheck
  obtain ⟨made, hmade, hentry⟩ := makeFolders_of_clear wf hroot hl hfolder hspells hends
    (fun name hmem => hentries name (by simp [hmem])) hcheckq
    (fun lead hlead => hfree.file lead (hlead.trans (List.prefix_append front [name])))
  have hadds := AddsFolders.makeFolders tree q
  have hsame := entry?_makeFolders hroot hl hfolder hspells (l ++ (front ++ [name]))
  rw [hmade] at hadds hsame
  -- the folders that were made are shorter than the path, so its place is still free
  have hplace : made.entry? (l ++ front ++ [name]) ≠ some .folder := by
    rw [List.append_assoc]
    rcases hsame with heq | hlead
    · rw [heq, hfree.entry]
      simp
    · have hlength := hlead.length_le
      simp only [List.length_append, List.length_singleton] at hlength
      omega
  have hbefore := foldlM_before_of_folder (hadds.wellFormed wf) (hadds.grows.walk hl) h hpieces
    hname hentry
  have hwrite := write_of_pieces hcheck hpieces hname hbefore hentry hplace
    (hwritable.congr hadds.grows.home).room text
  refine ⟨made.insert (l ++ front ++ [name]) (.file (.text text)), ?_⟩
  unfold commit
  rw [if_neg (by simp [Plan.isChange])]
  dsimp only
  rw [hq]
  dsimp only [Option.elim]
  rw [hmade]
  dsimp only
  rw [hwrite]

/-- A file is found and a text can be written to it. -/
structure Ready (tree : Tree) (path : Path) (text : Text) (before : Option Text) : Prop where
  found : tree.readIfAny path = .ok before
  commit : ∃ after written, commit tree ⟨path, before, text⟩ = (after, .ok written)

variable (wf : tree.WellFormed) (hwritable : tree.Writable path) (hcheck : checkPath path = .ok ())

include wf hwritable hcheck

theorem ready_of_free (hfree : tree.Free l names) : Ready tree path text none := by
  have hnames := h.isEntryName hwritable.short
  obtain ⟨after, hcommit⟩ : ∃ after, commit tree ⟨path, none, text⟩ =
      (after, .ok (.applied path)) :=
    commit_of_free hroot h hl hfolder wf hwritable hcheck hfree
  exact ⟨readIfAny_of_free h hl hcheck hroot hfolder hnames hfree, after, _, hcommit⟩

omit hroot hfolder in
theorem ready_of_file {old : Text} (hfile : tree.file? (l ++ names) = some (.text old)) :
    Ready tree path text (some old) := by
  have hlocate := locate_of_last h hl hcheck wf hwritable.last (isSome_of_file? hfile)
  obtain ⟨after, written, hcommit, -⟩ :
      ∃ after written, commit tree ⟨path, some old, text⟩ = (after, .ok written) ∧ _ :=
    commit_of_file wf hlocate hfile hwritable.room
  exact ⟨readIfAny_of_file hlocate hfile, after, written, hcommit⟩

end Below

end Recipe

end Graft
