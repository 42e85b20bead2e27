import Graft.Proofs.Patch
import Graft.Proofs.Tree
import Graft.Recipe.Encode
import Graft.Recipe.Load

/-! Recipes are read back from the data that they are written as. What is added to the data under
other names does not matter, nor whether what is absent is written as null or left out. -/

namespace Graft

open Text

namespace Datum

/-- What data becomes when fields are added to its objects, and fields that are null are left
out. -/
inductive ExtendedBy : Datum → Datum → Prop
  | refl (d : Datum) : ExtendedBy d d
  | array {items items' : List Datum} (h : List.Forall₂ ExtendedBy items items') :
    ExtendedBy (.array items) (.array items')
  | object {fields fields' : List (Text × Datum)} (nodup : (fields'.map (·.1)).Nodup)
      (kept : ∀ name d d', (name, d) ∈ fields → fields'.lookup name = some d' → ExtendedBy d d')
      (dropped : ∀ name d, (name, d) ∈ fields → fields'.lookup name = none → d = .null) :
    ExtendedBy (.object fields) (.object fields')

/-- A datum is read as a value, however it is extended. -/
def ReadsAs {α : Type} (d : Datum) (decode : Datum → Decoded α) (a : α) : Prop :=
  ∀ d', d.ExtendedBy d' → decode d' = .ok a

variable {α : Type} {decode : Datum → Decoded α} {d : Datum} {a : α}

/-! ### Texts and lists -/

theorem readsAs_text (t : Text) : (Datum.string t).ReadsAs decodeText t := by
  rintro d' ⟨⟩
  rfl

theorem readsAs_option (t : Option Text) : (ofOption t).ReadsAs decodeOption t := by
  cases t <;>
  · rintro d' ⟨⟩
    rfl

theorem mapM_eq_ok {β ε : Type} {f : α → Except ε β} {xs : List α} {ys : List β}
    (h : List.Forall₂ (fun x y => f x = .ok y) xs ys) : xs.mapM f = .ok ys := by
  induction h with
  | nil => rfl
  | cons hx _ ih => rw [List.mapM_cons, hx, ih]; rfl

/-- The items of a list are read one by one. -/
theorem ExtendedBy.exists_items {encode : α → Datum} {xs : List α}
    (h : (Datum.array (xs.map encode)).ExtendedBy d)
    (hreads : ∀ x ∈ xs, (encode x).ReadsAs decode x) :
    ∃ items, d = .array items ∧ List.Forall₂ (fun d x => decode d = .ok x) items xs := by
  obtain ⟨items, rfl, hitems⟩ : ∃ items, d = .array items ∧
      List.Forall₂ ExtendedBy (xs.map encode) items := by
    cases h with
    | refl => exact ⟨_, rfl, List.forall₂_same.mpr fun d _ => .refl d⟩
    | array hitems => exact ⟨_, rfl, hitems⟩
  clear h
  refine ⟨items, rfl, ?_⟩
  rw [List.forall₂_map_left_iff] at hitems
  induction hitems with
  | nil => exact .nil
  | cons hx _ ih =>
    obtain ⟨hread, hreads⟩ := List.forall_mem_cons.mp hreads
    exact .cons (hread _ hx) (ih hreads)

theorem readsAs_list {encode : α → Datum} {xs : List α}
    (hreads : ∀ x ∈ xs, (encode x).ReadsAs decode x) :
    (Datum.array (xs.map encode)).ReadsAs (decodeList decode) xs := by
  intro d' h
  obtain ⟨items, rfl, hitems⟩ := h.exists_items hreads
  exact mapM_eq_ok hitems

theorem readsAs_texts (ts : List Text) : (ofTexts ts).ReadsAs (decodeList decodeText) ts :=
  readsAs_list fun t _ => readsAs_text t

/-! ### Objects -/

/-- The fields of an object hold what is declared of them. -/
structure Holds (fields : List (Text × Datum)) (declared : List (String × Datum)) : Prop where
  nodup : (fields.map (·.1)).Nodup
  kept : ∀ name d d', (name, d) ∈ declared → fields.lookup name.toList = some d' → d.ExtendedBy d'
  dropped : ∀ name d, (name, d) ∈ declared → fields.lookup name.toList = none → d = .null

variable {fields : List (Text × Datum)} {declared : List (String × Datum)} {name : String}

theorem lookup_ofFields :
    (declared.map fun (name, d) => (name.toList, d)).lookup name.toList = declared.lookup name := by
  induction declared with
  | nil => rfl
  | cons x declared ih =>
    have hkey : (name.toList == x.1.toList) = (name == x.1) := by
      rw [Bool.eq_iff_iff, beq_iff_eq, beq_iff_eq, String.toList_inj]
    rw [List.map_cons, List.lookup_cons, List.lookup_cons, hkey, ih]

theorem nodup_ofFields (h : (declared.map (·.1)).Nodup) :
    ((declared.map fun (name, d) => (name.toList, d)).map (·.1)).Nodup := by
  have hkeys := h.map fun _ _ heq => String.toList_injective heq
  rwa [List.map_map] at hkeys ⊢

theorem ExtendedBy.exists_holds (hnodup : (declared.map (·.1)).Nodup)
    (h : (ofFields declared).ExtendedBy d) :
    ∃ fields, d = .object fields ∧ Holds fields declared := by
  cases h with
  | refl =>
    refine ⟨_, rfl, nodup_ofFields hnodup, fun name d d' hd hlookup => ?_,
      fun name d hd hlookup => ?_⟩ <;>
      rw [lookup_ofFields, Tree.lookup_of_mem hnodup hd] at hlookup
    · obtain rfl := Option.some.inj hlookup
      exact .refl d
    · cases hlookup
  | object nodup kept dropped =>
    have hmem : ∀ {name d}, (name, d) ∈ declared →
        (name.toList, d) ∈ declared.map fun (name, d) => (name.toList, d) :=
      fun h => List.mem_map.mpr ⟨_, h, rfl⟩
    exact ⟨_, rfl, nodup, fun name d d' hd => kept _ d d' (hmem hd),
      fun name d hd => dropped _ d (hmem hd)⟩

/-- An object is extended by one that has an extension of each of its fields, or no such field where
it is null. -/
theorem extendedBy_ofFields {others : List (String × Datum)}
    (hnodup : (others.map (·.1)).Nodup)
    (h : ∀ x ∈ declared, match others.lookup x.1 with
      | some d => x.2.ExtendedBy d
      | none => x.2 = .null) : (ofFields declared).ExtendedBy (ofFields others) := by
  refine .object (nodup_ofFields hnodup) (fun key d d' hd hlookup => ?_) fun key d hd hlookup => ?_
  all_goals
    obtain ⟨⟨name, x⟩, hx, hpair⟩ := List.mem_map.mp hd
    obtain ⟨rfl, rfl⟩ := Prod.mk.inj hpair
    have hfield := h _ hx
    rw [lookup_ofFields] at hlookup
    rw [hlookup] at hfield
    exact hfield

theorem forM_inNameOrder {check : Text × Datum → Decoded Unit}
    (hcheck : ∀ field ∈ fields, check field = .ok ()) :
    (inNameOrder fields).forM check = .ok () :=
  Patch.forM_eq_ok_iff.mpr fun field hfield => hcheck field (List.mem_mergeSort.mp hfield)

namespace Holds

variable (h : Holds fields declared)

include h

theorem required (name : String) (hd : (name, d) ∈ declared) (hne : d ≠ .null)
    (hreads : d.ReadsAs decode a) : Datum.required decode fields name = .ok a := by
  unfold Datum.required
  cases hlookup : fields.lookup name.toList with
  | none => exact absurd (h.dropped name d hd hlookup) hne
  | some d' => exact hreads d' (h.kept name d d' hd hlookup)

theorem optional (name : String) (default : α) (hd : (name, d) ∈ declared)
    (hnull : d = .null → default = a) (hreads : d.ReadsAs decode a) :
    Datum.optional decode fields name default = .ok a := by
  unfold Datum.optional
  cases hlookup : fields.lookup name.toList with
  | none => exact congrArg _ (hnull (h.dropped name d hd hlookup))
  | some d' => exact hreads d' (h.kept name d d' hd hlookup)

theorem optionalText (name : String) (t : Option Text) (hd : (name, ofOption t) ∈ declared) :
    Datum.optional decodeOption fields name none = .ok t := by
  refine h.optional name none hd (fun hnull => ?_) (readsAs_option t)
  cases t with
  | none => rfl
  | some t => cases hnull

/-- A field with a declared name holds what is declared of it. -/
theorem extendedBy {field : Text × Datum} (hfield : field ∈ fields) (hname : name.toList = field.1)
    (hd : (name, d) ∈ declared) : d.ExtendedBy field.2 :=
  h.kept name d field.2 hd (hname ▸ Tree.lookup_of_mem h.nodup hfield)

/-- A field with one of some declared names is read. -/
theorem decode_of_any {field : Text × Datum} (hfield : field ∈ fields) {names : List String}
    (hany : (names.any fun name => name.toList = field.1) = true)
    (hreads : ∀ name ∈ names, ∃ d a, (name, d) ∈ declared ∧ d.ReadsAs decode a) :
    (decode field.2).map (fun _ => ()) = .ok () := by
  obtain ⟨name, hname, heq⟩ := List.any_eq_true.mp hany
  obtain ⟨d, a, hd, hread⟩ := hreads name hname
  rw [hread _ (h.extendedBy hfield (by simpa using heq) hd)]
  rfl

theorem withoutField {name₀ : String} {d₀ : Datum} {rest : List (String × Datum)}
    (hdeclared : declared = (name₀, d₀) :: rest) (hrest : ∀ x ∈ rest, x.1 ≠ name₀) :
    Holds (fields.filter fun field => field.1 ≠ name₀.toList) rest := by
  subst hdeclared
  have hlookup : ∀ name d, (name, d) ∈ rest →
      (fields.filter fun field => field.1 ≠ name₀.toList).lookup name.toList =
        fields.lookup name.toList :=
    fun name d hd => Tree.lookup_filter_ne fun heq => hrest _ hd (String.toList_injective heq)
  refine ⟨h.nodup.sublist (List.filter_sublist.map _), fun name d d' hd hsome => ?_,
    fun name d hd hnone => ?_⟩
  · rw [hlookup name d hd] at hsome
    exact h.kept name d d' (List.mem_cons_of_mem _ hd) hsome
  · rw [hlookup name d hd] at hnone
    exact h.dropped name d (List.mem_cons_of_mem _ hd) hnone

end Holds

end Datum

open Datum

/-! ### Steps -/

theorem StepKind.name_readsAs (kind : StepKind) :
    (Datum.string kind.name.toList).ReadsAs StepKind.decode kind := by
  rintro d' ⟨⟩
  cases kind <;> rfl

namespace Step

/-- The text that a step has in a field. -/
def text? (step : Step) (name : String) : Option Text := (step.fields.lookup name).bind (·.text?)

theorem fields_eq (step : Step) :
    step.fields = step.kind.fields.map fun (name, _) => (name, ofOption (step.text? name)) := by
  cases step with
  | extendAttribute name value glue =>
    -- the glue is the only text that may be absent
    cases glue <;> rfl
  | _ => rfl

theorem isSome_text? (step : Step) :
    ∀ x ∈ step.kind.fields, x.2 = true → (step.text? x.1).isSome = true := by
  cases step <;> simp [kind, StepKind.fields, text?, fields, Datum.text?, List.lookup_cons]

/-- A step is that of its kind with its texts. -/
theorem step_text? (step : Step) :
    step.kind.step (fun name => ((step.kind.fields.map fun (name, _) =>
      (name, step.text? name)).lookup name).join) = step := by
  cases step with
  | extendAttribute name value glue => cases glue <;> rfl
  | _ => rfl

theorem decodeField_readsAs (step : Step) {x : String × Bool} (hx : x ∈ step.kind.fields) :
    (ofOption (step.text? x.1)).ReadsAs (StepKind.decodeField x.2) (step.text? x.1) := by
  intro d' hd
  unfold StepKind.decodeField
  cases hmandatory : x.2 with
  | false => exact readsAs_option _ d' hd
  | true =>
    obtain ⟨t, ht⟩ := Option.isSome_iff_exists.mp (step.isSome_text? x hx hmandatory)
    rw [ht] at hd ⊢
    rw [if_pos rfl, readsAs_text t d' hd]
    rfl

section Fields

variable {step : Step} {fields : List (Text × Datum)}

theorem mem_fields {x : String × Bool} (hx : x ∈ step.kind.fields) :
    (x.1, ofOption (step.text? x.1)) ∈ step.fields := by
  rw [fields_eq]
  exact List.mem_map.mpr ⟨x, hx, rfl⟩

variable (h : Holds fields step.fields)

include h

theorem checkField_eq_ok {field : Text × Datum} (hfield : field ∈ fields) :
    step.kind.checkField field = .ok () := by
  unfold StepKind.checkField
  split
  · next name mandatory hfind =>
    have hx := List.mem_of_find?_eq_some hfind
    have hname : name.toList = field.1 := by simpa using List.find?_some hfind
    rw [step.decodeField_readsAs hx _ (h.extendedBy hfield hname (mem_fields hx))]
    rfl
  · rfl

theorem required_eq_ok {name : String} (hx : (name, true) ∈ step.kind.fields) :
    required (StepKind.decodeField true) fields name = .ok (step.text? name) := by
  refine h.required name (mem_fields hx) ?_ (step.decodeField_readsAs hx)
  obtain ⟨t, ht⟩ := Option.isSome_iff_exists.mp (step.isSome_text? _ hx rfl)
  rw [ht]
  exact Datum.noConfusion

theorem decodeFields_eq_ok : step.kind.decodeFields fields = .ok step := by
  refine bind_eq_ok_iff.mpr ⟨(), forM_inNameOrder fun _ => checkField_eq_ok h,
    bind_eq_ok_iff.mpr ⟨_, mapM_eq_ok (List.forall₂_map_right_iff.mpr
      (List.forall₂_same.mpr fun x hx => ?_)), congrArg Except.ok step.step_text?⟩⟩
  obtain ⟨name, mandatory⟩ := x
  cases mandatory with
  | true => exact bind_eq_ok_iff.mpr ⟨_, required_eq_ok h hx, rfl⟩
  | false => exact bind_eq_ok_iff.mpr ⟨_, h.optionalText name _ (mem_fields hx), rfl⟩

end Fields

theorem toDatum_readsAs (step : Step) : step.toDatum.ReadsAs Step.decode step := by
  intro d hd
  have htype : ∀ x ∈ step.fields, x.1 ≠ "type" := by
    cases step <;> simp [fields]
  obtain ⟨fields, rfl, h⟩ := hd.exists_holds (by
    cases step <;> simp [Step.fields])
  have hkind := h.required "type" (by simp) (by simp) step.kind.name_readsAs
  rw [decode, hkind]
  exact decodeFields_eq_ok (h.withoutField rfl htype)

end Step

/-! ### Entries -/

theorem Mod.toDatum_readsAs (entry : Mod) : entry.toDatum.ReadsAs Mod.decode entry := by
  intro d hd
  obtain ⟨fields, rfl, h⟩ := hd.exists_holds (by simp)
  have hid := h.required "id" (by simp) (by simp) (readsAs_text entry.id)
  have hcomponent := h.optionalText "component" entry.component (by simp)
  have hfile := h.optionalText "file" entry.file (by simp)
  have houtput := h.optionalText "output" entry.output (by simp)
  have hcomment := h.optionalText "comment" entry.comment (by simp)
  have hlist := readsAs_list fun step (_ : step ∈ entry.steps) => step.toDatum_readsAs
  have hsteps := h.optional "steps" [] (by simp) (by simp) hlist
  -- every field is also read where the fields are gone through by their names
  have hcheck : (inNameOrder fields).forM checkField = .ok () := by
    refine forM_inNameOrder fun field hfield => ?_
    unfold checkField
    dsimp only
    split_ifs with hany hany hany
    · exact h.decode_of_any hfield hany (by simpa using ⟨_, readsAs_text _⟩)
    · exact h.decode_of_any hfield hany (by
        simpa using ⟨⟨_, readsAs_option _⟩, ⟨_, readsAs_option _⟩, ⟨_, readsAs_option _⟩,
          ⟨_, readsAs_option _⟩⟩)
    · exact h.decode_of_any hfield hany (by simpa using ⟨_, hlist⟩)
    · rfl
  rw [decode, hcheck, hid, hcomponent, hfile, houtput, hcomment, hsteps]
  rfl

theorem Combination.toDatum_readsAs (entry : Combination) :
    entry.toDatum.ReadsAs Combination.decode entry := by
  intro d hd
  obtain ⟨fields, rfl, h⟩ := hd.exists_holds (by simp)
  have hid := h.required "id" (by simp) (by simp) (readsAs_text entry.id)
  have hsource := h.required "source" (by simp) (by simp) (readsAs_text entry.source)
  have hoverride := h.required "override" (by simp) (by simp)
    (readsAs_text entry.override)
  have houtput := h.optionalText "output" entry.output (by simp)
  have htags := h.optional "tags" Section.defaultTags (by simp)
    Datum.noConfusion (readsAs_texts entry.tags)
  have hcheck : (inNameOrder fields).forM checkField = .ok () := by
    refine forM_inNameOrder fun field hfield => ?_
    unfold checkField
    dsimp only
    split_ifs with hany hany hany
    · exact h.decode_of_any hfield hany (by
        simpa using ⟨⟨_, readsAs_text _⟩, ⟨_, readsAs_text _⟩, ⟨_, readsAs_text _⟩⟩)
    · exact h.decode_of_any hfield hany (by simpa using ⟨_, readsAs_option _⟩)
    · exact h.decode_of_any hfield hany (by simpa using ⟨_, readsAs_texts _⟩)
    · rfl
  rw [decode, hcheck, hid, hsource, hoverride, houtput, htags]
  rfl

theorem RecipeInfo.toDatum_readsAs (info : RecipeInfo) :
    info.toDatum.ReadsAs RecipeInfo.decode info := by
  intro d hd
  obtain ⟨fields, rfl, h⟩ := hd.exists_holds (by simp)
  have hname := h.optional "name" [] (by simp) Datum.noConfusion
    (readsAs_text info.name)
  have hdescription := h.optionalText "description" info.description (by simp)
  have hfolders := h.optional "directories" [] (by simp)
    Datum.noConfusion (readsAs_texts info.folders)
  have hextension := h.optional "extension" SearchPath.defaultExtension
    (by simp) Datum.noConfusion (readsAs_text info.extension)
  have hcheck : (inNameOrder fields).forM checkField = .ok () := by
    refine forM_inNameOrder fun field hfield => ?_
    unfold checkField
    dsimp only
    split_ifs with hany hany hany
    · exact h.decode_of_any hfield hany (by
        simpa using ⟨⟨_, readsAs_text _⟩, ⟨_, readsAs_text _⟩⟩)
    · exact h.decode_of_any hfield hany (by simpa using ⟨_, readsAs_option _⟩)
    · exact h.decode_of_any hfield hany (by simpa using ⟨_, readsAs_texts _⟩)
    · rfl
  rw [decode, hcheck, hname, hdescription, hfolders, hextension]
  rfl

/-! ### Recipes -/

namespace Recipe

/-- The entries of a list are read one by one. -/
theorem entriesAt_readsAs {α : Type} {fields : List (Text × Datum)}
    {declared : List (String × Datum)} (h : Holds fields declared) {list : EntryList}
    {decode : Datum → Decoded α} {encode : α → Datum} {xs : List α}
    (hd : (list.name, .array (xs.map encode)) ∈ declared)
    (hreads : ∀ x ∈ xs, (encode x).ReadsAs decode x) :
    (entriesAt fields list >>= decodeEntries list decode) = .ok xs := by
  obtain ⟨d, hlookup, hd⟩ : ∃ d, fields.lookup list.name.toList = some d ∧
      (Datum.array (xs.map encode)).ExtendedBy d := by
    cases hlookup : fields.lookup list.name.toList with
    | none => exact absurd (h.dropped _ _ hd hlookup) Datum.noConfusion
    | some d => exact ⟨d, rfl, h.kept _ _ _ hd hlookup⟩
  obtain ⟨items, rfl, hitems⟩ := hd.exists_items hreads
  unfold entriesAt
  rw [hlookup]
  rw [← List.zipIdx_map_fst 0 items, List.forall₂_map_left_iff] at hitems
  exact mapM_eq_ok (hitems.imp fun _ _ hread => mapError_eq_ok_iff.mpr hread)

/-- A recipe is read back from its data, also where fields are added to any of its objects or fields
that are null are left out. Its parts are read back as a loader reads them. -/
theorem decode_extended (recipe : Recipe) (d : Datum) (h : recipe.toDatum.ExtendedBy d) :
    Recipe.decode d = .ok recipe ∧ ∃ fields, d = .object fields ∧
      optional RecipeInfo.decode fields "meta" {} = .ok recipe.info ∧
      (entriesAt fields .mods >>= decodeEntries .mods Mod.decode) = .ok recipe.mods ∧
      (entriesAt fields .combinations >>= decodeEntries .combinations Combination.decode) =
        .ok recipe.combinations := by
  obtain ⟨fields, rfl, hfields⟩ := h.exists_holds (by simp)
  have hinfo :=
    hfields.optional "meta" {} (by simp) Datum.noConfusion recipe.info.toDatum_readsAs
  have hmods : ∀ entry ∈ recipe.mods, entry.toDatum.ReadsAs Mod.decode entry :=
    fun entry _ => entry.toDatum_readsAs
  have hcombinations :
      ∀ entry ∈ recipe.combinations, entry.toDatum.ReadsAs Combination.decode entry :=
    fun entry _ => entry.toDatum_readsAs
  refine ⟨?_, fields, rfl, hinfo, entriesAt_readsAs hfields (by simp [EntryList.name]) hmods,
    entriesAt_readsAs hfields (by simp [EntryList.name]) hcombinations⟩
  rw [decode, hinfo, hfields.optional "mods" [] (by simp) Datum.noConfusion
      (readsAs_list hmods),
    hfields.optional "combines" [] (by simp) Datum.noConfusion
      (readsAs_list hcombinations)]
  rfl

/-- A step with a note and without its glue, in a mod with an author, in a recipe with a version. -/
theorem decode_extended_note :
    let recipe : Recipe :=
      { info := { name := ['r'] }, mods := [⟨['m'], none, none, none, none,
          [.extendAttribute ['a'] ['1'] none]⟩] }
    let step : Datum := ofFields [("value", .string ['1']), ("note", .boolean true),
      ("name", .string ['a']), ("type", .string "extend-attribute".toList)]
    let entry : Datum := ofFields [("steps", .array [step]), ("author", .object []),
      ("id", .string ['m']), ("file", .null)]
    let d : Datum := ofFields [("version", .integer 1), ("mods", .array [entry]),
      ("meta", recipe.info.toDatum), ("combines", .array [])]
    recipe.toDatum.ExtendedBy d ∧ Recipe.decode d = .ok recipe := by
  intro recipe step entry d
  have hstep : (Step.extendAttribute ['a'] ['1'] none).toDatum.ExtendedBy step :=
    extendedBy_ofFields (by simp) (by
      simp [Step.fields, Step.kind, StepKind.name, List.lookup_cons, ofOption, ExtendedBy.refl])
  have hentry : (Mod.toDatum ⟨['m'], none, none, none, none,
      [.extendAttribute ['a'] ['1'] none]⟩).ExtendedBy entry :=
    extendedBy_ofFields (by simp) (by
      simp [List.lookup_cons, ofOption, ExtendedBy.refl, ExtendedBy.array, hstep])
  have hd : recipe.toDatum.ExtendedBy d :=
    extendedBy_ofFields (by simp) (by
      simp [recipe, List.lookup_cons, ExtendedBy.refl, ExtendedBy.array, hentry])
  exact ⟨hd, (decode_extended recipe d hd).1⟩

end Recipe

end Graft
