import Graft.Proofs.Located
import Graft.Proofs.Patch

/-! The edits of attributes as patches of the text between a tag's name and its end. The text may be
malformed: the attributes that are read from it are cut out of it all the same. -/

namespace Graft.Markup

open Text

/-! ### The writing of values -/

def otherQuote (quote : Char) : Char := if quote = '\'' then '"' else '\''

/-- A value with each of a kind of quotes in it written as an entity. -/
def escapeQuote (quote : Char) (value : Text) : Text :=
  replaceChar quote (if quote = '"' then "&quot;".toList else "&#39;".toList) value

/-- A value between quotes: the preferred ones, unless the value holds them and not the other ones,
and with the preferred ones in the value escaped when it holds both. -/
def Value.enclosing (preferred : Char) (value : Text) : Value :=
  if preferred ∉ value then .quoted preferred value true
  else if otherQuote preferred ∉ value then .quoted (otherQuote preferred) value true
  else .quoted preferred (escapeQuote preferred value) true

theorem Value.written_enclosing (preferred : Char) (value : Text) :
    (enclosing preferred value).written = quoteValue preferred value := by
  have hquote : quoteValue preferred value =
      if preferred ∉ value then preferred :: value ++ [preferred]
      else if otherQuote preferred ∉ value then
        otherQuote preferred :: value ++ [otherQuote preferred]
      else preferred :: escapeQuote preferred value ++ [preferred] := by
    simp only [quoteValue, List.contains_iff_mem]
    rfl
  rw [hquote, enclosing]
  by_cases hpreferred : preferred ∈ value
  · rw [if_neg (not_not.mpr hpreferred), if_neg (not_not.mpr hpreferred)]
    by_cases hother : otherQuote preferred ∈ value
    · rw [if_neg (not_not.mpr hother), if_neg (not_not.mpr hother)]
      rfl
    · rw [if_pos hother, if_pos hother]
      rfl
  · rw [if_pos hpreferred, if_pos hpreferred]
    rfl

/-- An assignment with another value, in the same quotes when the value does not hold them. -/
def Assignment.write (s : Assignment) (value : Text) : Assignment :=
  match s.value with
  | .quoted quote _ ended =>
    if quote ∈ value then ⟨s.gap, .enclosing quote value⟩
    else ⟨s.gap, .quoted quote value ended⟩
  | .unquoted _ => ⟨s.gap, .enclosing '"' value⟩

/-- An attribute with another value. -/
def Attribute.write (a : Attribute) (value : Text) : Attribute :=
  match a.assignment with
  | some s => { a with assignment := some (s.write value) }
  | none => { a with assignment := some ⟨['='], .enclosing '"' value⟩ }

/-- A further attribute. -/
def Attribute.added (name value : Text) : Attribute :=
  ⟨[' '], name, some ⟨['='], .enclosing '"' value⟩⟩

/-! ### The places of attributes -/

/-- Where an attribute stands among the parts of a head. -/
theorem HeadPart.split_of_mem_place {n : Nat} {parts : List HeadPart} {a : PlacedAttribute}
    (h : a ∈ place n parts) :
    ∃ before after, parts = before ++ .attr a.attr :: after ∧
      a.start = n + size (before.flatMap text) := by
  induction parts generalizing n with
  | nil => simp [place] at h
  | cons part parts ih =>
    cases part with
    | filler filler =>
      obtain ⟨before, after, rfl, hstart⟩ := ih h
      refine ⟨.filler filler :: before, after, rfl, ?_⟩
      rw [hstart, List.flatMap_cons, size_append, text, Nat.add_assoc]
    | attr b =>
      rw [place, List.mem_cons] at h
      rcases h with rfl | h
      · exact ⟨[], parts, rfl, rfl⟩
      · obtain ⟨before, after, rfl, hstart⟩ := ih h
        refine ⟨.attr b :: before, after, rfl, ?_⟩
        rw [hstart, List.flatMap_cons, size_append, text, Nat.add_assoc]

/-- The attributes that are read from a text have names. -/
theorem HeadPart.name_ne_nil_of_mem {cs : Text} {a : Attribute} (h : .attr a ∈ readAll cs) :
    a.name ≠ [] := by
  induction cs using readAll.induct with
  | case1 cs part rest hread ih =>
    rw [readAll_of_read? hread, List.mem_cons] at h
    rcases h with rfl | h
    · unfold read? at hread
      split at hread
      · split at hread <;> simp at hread
      · simp at hread
      · split at hread
        · simp only [Option.some.injEq, Prod.mk.injEq, attr.injEq] at hread
          simp [← hread.1]
        · simp only [Option.some.injEq, Prod.mk.injEq, attr.injEq] at hread
          simp [← hread.1]
    · exact ih h
  | case2 cs hread =>
    rw [eq_nil_of_read? hread, readAll_nil] at h
    simp at h

/-- An attribute with a name stands at its place in a document. -/
structure PlacedAttribute.StandsIn (a : PlacedAttribute) (doc : Text) : Prop where
  name_ne_nil : a.attr.name ≠ []
  cut : ∃ before after, doc = before ++ (a.attr.text ++ after) ∧ a.start = before.size

theorem Head.standsIn_of_mem {head : Head} {before after : Text} {a : PlacedAttribute}
    (hstart : head.start = before.size) (h : a ∈ head.attributes) :
    a.StandsIn (before ++ (head.tag.text ++ after)) := by
  obtain ⟨earlier, later, hparts, hplace⟩ := HeadPart.split_of_mem_place h
  have hmem : .attr a.attr ∈ HeadPart.readAll head.tag.inner := by simp [hparts]
  have hinner := HeadPart.flatMap_text_readAll head.tag.inner
  rw [hparts, List.flatMap_append, List.flatMap_cons] at hinner
  refine ⟨HeadPart.name_ne_nil_of_mem hmem, before ++ '<' :: head.tag.name ++
    earlier.flatMap HeadPart.text, later.flatMap HeadPart.text ++ (head.tag.delimiter ++ after),
    ?_, ?_⟩
  · simp [OpenTag.append_text, ← hinner, HeadPart.text]
  · rw [hplace, head.nameEnd_eq hstart, ← size_append]

/-! ### Changes to the parts of a head -/

namespace HeadPart

/-- Whether a part is an attribute of a name. -/
def isNamed (name : Text) : HeadPart → Bool
  | .attr a => a.name == name
  | .filler _ => false

/-- The parts with each attribute put through a function, and taken away where that gives none. -/
def mapAttrs (f : Attribute → Option Attribute) (parts : List HeadPart) : List HeadPart :=
  parts.filterMap fun
    | .attr a => (f a).map .attr
    | .filler text => some (.filler text)

/-- The parts with a value given to the first attribute of a name. -/
def writeFirst (name value : Text) : List HeadPart → List HeadPart
  | [] => []
  | .filler text :: rest => .filler text :: writeFirst name value rest
  | .attr a :: rest =>
    if a.name = name then .attr (a.write value) :: rest else .attr a :: writeFirst name value rest

/-- The parts with a further attribute after the last one. -/
def add (a : Attribute) : List HeadPart → List HeadPart
  | [] => [.attr a]
  | .attr b :: rest => .attr b :: add a rest
  | .filler text :: rest =>
    if (place 0 rest).isEmpty then .attr a :: .filler text :: rest else .filler text :: add a rest

end HeadPart

/-- Whether there are attributes among the parts does not depend on where these begin. -/
theorem HeadPart.place_eq_nil {parts : List HeadPart} {n : Nat} (m : Nat)
    (h : place n parts = []) : place m parts = [] := by
  have hmap := (map_attr_place parts m).trans (map_attr_place parts n).symm
  simpa [h] using hmap

/-- A further attribute stands where `Head.insertAt` says. -/
theorem HeadPart.exists_add (a : Attribute) (parts : List HeadPart) (n : Nat) :
    ∃ before after, parts = before ++ after ∧ add a parts = before ++ .attr a :: after ∧
      (place n parts).getLast?.elim n (·.stop) = n + size (before.flatMap text) := by
  induction parts generalizing n with
  | nil => exact ⟨[], [], rfl, rfl, rfl⟩
  | cons part parts ih =>
    cases part with
    | filler filler =>
      by_cases hnone : place 0 parts = []
      · refine ⟨[], .filler filler :: parts, rfl, by simp [add, hnone], ?_⟩
        simp [place, place_eq_nil _ hnone]
      · obtain ⟨before, after, rfl, hadd, hlast⟩ := ih (n + filler.size)
        refine ⟨.filler filler :: before, after, rfl, by simp [add, hnone, hadd], ?_⟩
        have hne : place (n + filler.size) (before ++ after) ≠ [] :=
          fun hnil => hnone (place_eq_nil 0 hnil)
        rw [List.getLast?_eq_some_getLast hne, Option.elim_some] at hlast
        rw [place, List.getLast?_eq_some_getLast hne, Option.elim_some, hlast]
        simp [text, Nat.add_assoc]
    | attr b =>
      obtain ⟨before, after, rfl, hadd, hlast⟩ := ih (n + b.text.size)
      refine ⟨.attr b :: before, after, rfl, by rw [add, hadd]; rfl, ?_⟩
      have hfirst : (place n (.attr b :: (before ++ after))).getLast?.elim n (·.stop) =
          (place (n + b.text.size) (before ++ after)).getLast?.elim (n + b.text.size) (·.stop) := by
        rw [place, List.getLast?_cons]
        cases (place (n + b.text.size) (before ++ after)).getLast? <;> rfl
      rw [hfirst, hlast]
      simp [text, Nat.add_assoc]

/-! ### The edits of an attribute -/

variable [Digest]

/-- Edits put a text in the place of an attribute. -/
def Rewrites (a : PlacedAttribute) (edits : List Edit) (new : Text) : Prop :=
  Patches a.start a.attr.text new edits

/-- The edit of a part of an attribute that expects that part. -/
theorem rewrites_ofExpected {a : PlacedAttribute} {kept old rest : Text}
    (htext : a.attr.text = kept ++ (old ++ rest)) (hpos : 0 < kept.size + old.size) (new : Text) :
    Rewrites a [.ofExpected (a.start + kept.size) (a.start + kept.size + old.size) new old]
      (kept ++ (new ++ rest)) := by
  refine ⟨[.keep kept, .change old new (.ofText old), .keep rest], ?_, ?_, rfl,
    ((Patch.Valid.nil.keep rest).change old new).keep kept, ?_⟩
  · simp [htext, Piece.old]
  · simp [Piece.new]
  · refine Patch.Ascends.of_edits_eq_singleton rfl ?_
    show a.start < a.start + kept.size + old.size
    omega

/-- The edit of a part of an attribute that expects what a document holds there. -/
theorem rewrites_replacement {a : PlacedAttribute} {doc kept old rest : Text} (h : a.StandsIn doc)
    (htext : a.attr.text = kept ++ (old ++ rest)) (hpos : 0 < kept.size + old.size) (new : Text) :
    Rewrites a [.replacement doc (a.start + kept.size) (a.start + kept.size + old.size) new]
      (kept ++ (new ++ rest)) := by
  obtain ⟨before, after, hdoc, hstart⟩ := h.cut
  have hcut : doc = (before ++ kept) ++ (old ++ (rest ++ after)) := by simp [hdoc, htext]
  have hoffset : a.start + kept.size = (before ++ kept).size := by rw [hstart, size_append]
  have hslice : doc.slice (a.start + kept.size) (a.start + kept.size + old.size) = old :=
    slice_of_eq hcut hoffset (by rw [hoffset])
  rw [Edit.replacement, hslice]
  exact rewrites_ofExpected htext hpos new

namespace Draft

variable {draft : Draft} {a : PlacedAttribute}

theorem rewrites_removalEdit (h : a.StandsIn draft.document) :
    Rewrites a [draft.removalEdit a] [] := by
  have htext : a.attr.text = [] ++ (a.attr.text ++ []) := by simp
  have hpos := size_pos h.name_ne_nil
  have hsize : 0 < size [] + a.attr.text.size := by
    simp [Attribute.text]
    omega
  simpa [removalEdit, PlacedAttribute.stop] using rewrites_replacement h htext hsize []

/-- The edit that gives an attribute a value writes the attribute with that value. -/
theorem rewrites_valueEdit (h : a.StandsIn draft.document) (value : Text) :
    Rewrites a [draft.valueEdit a value] (a.attr.write value).text := by
  obtain ⟨start, ⟨lead, name, assignment⟩⟩ := a
  have hpos : 0 < name.size := size_pos h.name_ne_nil
  cases assignment with
  | none =>
    have htext : (Attribute.mk lead name none).text = lead ++ name ++ ([] ++ []) := by
      simp [Attribute.text, Attribute.assignmentText]
    have hrewrites := rewrites_ofExpected (a := ⟨start, ⟨lead, name, none⟩⟩) htext
      (by rw [size_append]; omega) ('=' :: quoteValue '"' value)
    simpa [valueEdit, Edit.insertion, PlacedAttribute.nameEnd, PlacedAttribute.nameStart,
      Attribute.write, Attribute.text, Attribute.assignmentText, Assignment.text,
      Value.written_enclosing, Nat.add_assoc] using hrewrites
  | some s =>
    obtain ⟨gap, written⟩ := s
    cases written with
    | unquoted text =>
      have htext : (Attribute.mk lead name (some ⟨gap, .unquoted text⟩)).text =
          lead ++ name ++ gap ++ (text ++ []) := by
        simp [Attribute.text, Attribute.assignmentText, Assignment.text, Value.written]
      have hrewrites := rewrites_replacement h htext (by simp only [size_append]; omega)
        (quoteValue '"' value)
      simpa [valueEdit, PlacedAttribute.valueEnd, PlacedAttribute.valueStart,
        PlacedAttribute.writtenStart, PlacedAttribute.nameEnd, PlacedAttribute.nameStart,
        Attribute.write, Attribute.text, Attribute.assignmentText, Assignment.text,
        Assignment.write, Value.written_enclosing, Value.quote?, Value.text, Nat.add_assoc]
        using hrewrites
    | quoted quote text ended =>
      by_cases hquote : quote ∈ value
      · have htext : (Attribute.mk lead name (some ⟨gap, .quoted quote text ended⟩)).text =
            lead ++ name ++ gap ++ ((Value.quoted quote text ended).written ++ []) := by
          simp [Attribute.text, Attribute.assignmentText, Assignment.text]
        have hrewrites := rewrites_replacement h htext (by simp only [size_append]; omega)
          (quoteValue quote value)
        simpa [valueEdit, hquote, PlacedAttribute.stop,
          PlacedAttribute.writtenStart, PlacedAttribute.nameEnd, PlacedAttribute.nameStart,
          Attribute.write, Attribute.text, Attribute.assignmentText, Assignment.text,
          Assignment.write, Value.written_enclosing, Nat.add_assoc]
          using hrewrites
      · have htext : (Attribute.mk lead name (some ⟨gap, .quoted quote text ended⟩)).text =
            lead ++ name ++ gap ++ [quote] ++ (text ++ if ended then [quote] else []) := by
          simp [Attribute.text, Attribute.assignmentText, Assignment.text, Value.written]
        have hrewrites := rewrites_replacement h htext (by simp only [size_append]; omega) value
        simpa [valueEdit, hquote, PlacedAttribute.valueEnd, PlacedAttribute.valueStart,
          PlacedAttribute.writtenStart, PlacedAttribute.nameEnd, PlacedAttribute.nameStart,
          Attribute.write, Attribute.text, Attribute.assignmentText, Assignment.text,
          Assignment.write, Value.written, Value.quote?, Value.text, Nat.add_assoc]
          using hrewrites

/-! ### Revisions of a part of the document -/

/-- The revision of a document by the edits of a patch of one of its parts. -/
theorem revise_patch {before after : Text} {patch : Patch}
    (hdoc : draft.document = before ++ (patch.old ++ after)) (hvalid : patch.Valid)
    (hstops : (patch.edits before.size).Pairwise fun a b => a.stop < b.stop) {listed : List Edit}
    (hperm : listed.Perm (patch.edits before.size)) :
    draft.revise listed = .ok { draft with document := before ++ (patch.new ++ after) } := by
  have hedits : Patch.edits 0 (.keep before :: (patch ++ [.keep after])) =
      patch.edits before.size := by
    rw [Patch.edits, Patch.edits_append, Nat.zero_add]
    simp [Patch.edits]
  have hwhole : Patch.Valid (.keep before :: (patch ++ [.keep after])) :=
    (hvalid.append (Patch.Valid.nil.keep after)).keep before
  rw [← hedits] at hstops hperm
  obtain ⟨did, happly⟩ := Patch.applyBatch_edits hwhole hstops hperm
  have hold : Patch.old (.keep before :: (patch ++ [.keep after])) = draft.document := by
    simp [hdoc, Piece.old]
  rw [hold] at happly
  rw [revise, happly]
  simp [Piece.new]

/-- The revision of a document by the edits that patch one of its parts. -/
theorem revise_patches {before old new after : Text} {edits listed : List Edit}
    (hdoc : draft.document = before ++ (old ++ after)) (h : Patches before.size old new edits)
    (hperm : listed.Perm edits) :
    draft.revise listed = .ok { draft with document := before ++ (new ++ after) } := by
  obtain ⟨patch, rfl, rfl, rfl, hvalid, hascends⟩ := h
  exact revise_patch hdoc hvalid hascends.stops hperm

/-- The replacement of a part of the document that is expected to stand there. -/
theorem revise_ofExpected {before old after : Text}
    (hdoc : draft.document = before ++ (old ++ after)) (new : Text) :
    draft.revise [.ofExpected before.size (before.size + old.size) new old] =
      .ok { draft with document := before ++ (new ++ after) } := by
  have hcut : draft.document =
      before ++ (Patch.old [.change old new (.ofText old)] ++ after) := by
    simpa [Piece.old] using hdoc
  have hrevise := revise_patch hcut (Patch.Valid.nil.change old new)
    (List.pairwise_singleton _ _) (List.Perm.refl _)
  simpa [Piece.new, Patch.edits, Edit.ofExpected] using hrevise

/-- The insertion of a text where a part of the document ends. -/
theorem revise_insertion {before after : Text} (hdoc : draft.document = before ++ after)
    (new : Text) :
    draft.revise [.insertion before.size new] =
      .ok { draft with document := before ++ (new ++ after) } := by
  have hcut : draft.document = before ++ ([] ++ after) := hdoc
  exact revise_ofExpected hcut new

/-- The replacement of a part of the document where it stands. -/
theorem revise_replacement {before old after : Text}
    (hdoc : draft.document = before ++ (old ++ after)) (new : Text) :
    draft.revise [.replacement draft.document before.size (before.size + old.size) new] =
      .ok { draft with document := before ++ (new ++ after) } := by
  have hslice : draft.document.slice before.size (before.size + old.size) = old :=
    slice_of_eq hdoc rfl rfl
  rw [Edit.replacement, hslice]
  exact revise_ofExpected hdoc new

end Draft

/-! ### The edits of several attributes -/

/-- The text of an attribute, or of none. -/
def Attribute.textOf (a? : Option Attribute) : Text := (a?.map text).getD []

/-- The edits of the chosen attributes of a list of parts patch the text of the parts. -/
theorem patches_mapAttrs (choose : PlacedAttribute → Option Edit)
    (f : Attribute → Option Attribute) (parts : List HeadPart) (n : Nat)
    (h : ∀ a ∈ HeadPart.place n parts,
      Rewrites a (choose a).toList (Attribute.textOf (f a.attr))) :
    Patches n (parts.flatMap HeadPart.text) ((HeadPart.mapAttrs f parts).flatMap HeadPart.text)
      ((HeadPart.place n parts).filterMap choose) := by
  induction parts generalizing n with
  | nil => exact Patches.keep n []
  | cons part parts ih =>
    cases part with
    | filler text => exact (Patches.keep n text).append (ih _ h)
    | attr b =>
      have hfirst : Patches n b.text (Attribute.textOf (f b)) (choose ⟨n, b⟩).toList :=
        h ⟨n, b⟩ (by simp [HeadPart.place])
      have hrest := ih (n + b.text.size) fun a ha => h a (List.mem_cons_of_mem _ ha)
      have hedits : (HeadPart.place n (.attr b :: parts)).filterMap choose =
          (choose ⟨n, b⟩).toList ++ (HeadPart.place (n + b.text.size) parts).filterMap choose := by
        cases hb : choose ⟨n, b⟩ <;> simp [HeadPart.place, hb]
      have hparts : (HeadPart.mapAttrs f (.attr b :: parts)).flatMap HeadPart.text =
          Attribute.textOf (f b) ++ (HeadPart.mapAttrs f parts).flatMap HeadPart.text := by
        cases hb : f b <;> simp [HeadPart.mapAttrs, hb, HeadPart.text, Attribute.textOf]
      rw [hedits, hparts]
      exact hfirst.append hrest

/-- The edit of the first attribute of a name patches the text of the parts. -/
theorem patches_writeFirst {name value : Text} {a : PlacedAttribute} {edit : Edit}
    (h : Rewrites a [edit] (a.attr.write value).text) (parts : List HeadPart) (n : Nat)
    (hfind : (HeadPart.place n parts).find? (fun b => b.attr.name == name) = some a) :
    Patches n (parts.flatMap HeadPart.text)
      ((HeadPart.writeFirst name value parts).flatMap HeadPart.text) [edit] := by
  induction parts generalizing n with
  | nil => simp [HeadPart.place] at hfind
  | cons part parts ih =>
    cases part with
    | filler text => exact (Patches.keep n text).append (ih _ hfind)
    | attr b =>
      rw [HeadPart.place, List.find?_cons] at hfind
      by_cases hname : b.name = name
      · simp only [hname, beq_self_eq_true, Option.some.injEq] at hfind
        subst hfind
        rw [HeadPart.writeFirst, if_pos hname]
        exact Patches.append h (Patches.keep _ _)
      · simp only [beq_eq_false_iff_ne.mpr hname] at hfind
        rw [HeadPart.writeFirst, if_neg hname]
        exact (Patches.keep n b.text).append (ih _ hfind)

end Graft.Markup
