import Graft.Proofs.Directive
import Graft.Proofs.Patch
import Graft.Proofs.Selection
import Graft.Section.Combine

/-! The combination of well-formed documents: on the text of forests it is a fold of an operation on
the forests themselves. -/

namespace Graft.Markup

open Text

/-! ### Blocks -/

/-- What stands between the tags of an element of a name. -/
inductive Content (name : Text)
  | raw (text : Text) (isRaw : name ∈ rawNames) (noEnd : ¬('<' :: '/' :: name) <:+: text)
  | nodes (children : Forest) (notVoid : name ∉ voidNames) (notRaw : name ∉ rawNames)

def Content.text {name : Text} : Content name → Text
  | .raw text _ _ => text
  | .nodes children _ _ => children.text

/-- An element of a tag with a closing tag of its own. -/
structure Block (tag : Text) where
  opening : Opening
  named : opening.name = tag
  content : Content tag

/-- One forest after another. -/
def Forest.append : Forest → Forest → Forest
  | .nil, other => other
  | .leaf l rest, other => .leaf l (rest.append other)
  | .element o notVoid notRaw children rest, other =>
    .element o notVoid notRaw children (rest.append other)

/-- A line feed before a forest. -/
def Forest.newline (rest : Forest) : Forest :=
  .leaf (.run ['\n'] fun _ h => by simp [List.suffix_cons_iff] at h) rest

namespace Block

variable {tag : Text}

def text (b : Block tag) : Text :=
  (b.opening.tag false).text ++ b.content.text ++ (CloseTag.ofName tag).text

/-- A forest that begins with a block. -/
def before (b : Block tag) (rest : Forest) : Forest :=
  match b.content with
  | .raw text isRaw noEnd =>
    .leaf (.raw b.opening text (by rwa [b.named]) (by rwa [b.named])) rest
  | .nodes children notVoid notRaw =>
    .element b.opening (by rwa [b.named]) (by rwa [b.named]) children rest

end Block

def Leaf.block? (tag : Text) : Leaf → Option (Block tag)
  | .raw o content isRaw noEnd =>
    if h : o.name = tag then some ⟨o, h, .raw content (h ▸ isRaw) (h ▸ noEnd)⟩ else none
  | _ => none

/-- The first block of a tag, each element coming before its children, and the forest with another
block in its place. -/
def Forest.split? (tag : Text) : Forest → Option (Block tag × (Block tag → Forest))
  | .nil => none
  | .leaf l rest =>
    match l.block? tag with
    | some b => some (b, fun b' => b'.before rest)
    | none => (rest.split? tag).map fun (b, put) => (b, fun b' => .leaf l (put b'))
  | .element o notVoid notRaw children rest =>
    if h : o.name = tag then
      some (⟨o, h, .nodes children (h ▸ notVoid) (h ▸ notRaw)⟩, fun b' => b'.before rest)
    else
      match children.split? tag with
      | some (b, put) => some (b, fun b' => .element o notVoid notRaw (put b') rest)
      | none =>
        (rest.split? tag).map fun (b, put) =>
          (b, fun b' => .element o notVoid notRaw children (put b'))

/-! ### Combination of forests -/

/-- The opening tag without its first directive. -/
def Opening.withoutDirective (o : Opening) : Opening :=
  { o with
    attrs := o.attrs.eraseP Attribute.isDirective
    attrs_wellFormed := fun a ha => o.attrs_wellFormed a (List.mem_of_mem_eraseP ha) }

/-- What the directive of an opening tag asks for, or what its name does without one. -/
def Opening.operation (o : Opening) : Except CombineError Operation :=
  match o.attrs.find? Attribute.isDirective with
  | none => .ok (.ofTag o.name)
  | some a =>
    let value := a.value?.getD []
    match Operation.ofDirective? value with
    | none => .error (.unknownDirective ⟨o.name, value⟩)
    | some op => .ok op

/-- Between the parts of raw content that a line feed separates, no closing tag comes about. -/
theorem not_infix_newline {name text more : Text} (isRaw : name ∈ rawNames)
    (h : ¬('<' :: '/' :: name) <:+: text) (h' : ¬('<' :: '/' :: name) <:+: more) :
    ¬('<' :: '/' :: name) <:+: text ++ '\n' :: more := by
  have hfeed : '\n' ∉ '<' :: '/' :: name := by
    have hnames : ∀ name ∈ rawNames, '\n' ∉ '<' :: '/' :: name := by decide
    exact hnames name isRaw
  rintro ⟨s, t, heq⟩
  rcases List.append_eq_append_iff.mp heq with ⟨a, htext, -⟩ | ⟨a, hs, hmore⟩
  · exact h ⟨s, a, htext.symm⟩
  · cases a with
    | nil => exact h ⟨s, [], by simpa using hs⟩
    | cons c a =>
      obtain ⟨rfl, rfl⟩ : '\n' = c ∧ more = a ++ t := by simpa using hmore
      -- the line feed is no part of a closing tag, so that begins after it
      rcases List.append_eq_append_iff.mp hs with ⟨b, -, hneedle⟩ | ⟨b, -, hrest⟩
      · exact hfeed (by simp [hneedle])
      · cases b with
        | nil => exact hfeed (by simp [← show _ = '<' :: '/' :: name from hrest])
        | cons d b =>
          obtain ⟨rfl, rfl⟩ : '\n' = d ∧ a = b ++ '<' :: '/' :: name := by simpa using hrest
          exact h' ⟨b, t, rfl⟩

/-- A content, a line feed, and more content. -/
def Content.append {name : Text} : Content name → Content name → Content name
  | .raw text isRaw noEnd, .raw more _ noEnd' =>
    .raw (text ++ '\n' :: more) isRaw (not_infix_newline isRaw noEnd noEnd')
  | .nodes children notVoid notRaw, .nodes more _ _ =>
    .nodes (children.append more.newline) notVoid notRaw
  | .raw _ isRaw _, .nodes _ _ notRaw => absurd isRaw notRaw
  | .nodes _ _ notRaw, .raw _ isRaw _ => absurd isRaw notRaw

namespace Block

variable {tag : Text}

def withoutDirective (b : Block tag) : Block tag := { b with opening := b.opening.withoutDirective }

/-- The block with another block's content after its own. -/
def extend (b other : Block tag) : Block tag :=
  { b with content := b.content.append other.content }

end Block

/-- The forest after an operation with a block from elsewhere. -/
def Forest.receive {tag : Text} (forest : Forest) (incoming : Block tag) (op : Operation) :
    Except CombineError Forest :=
  match op, forest.split? tag with
  | .replace, none => .error (.missingTarget tag)
  | .replace, some (_, put) => .ok (put incoming.withoutDirective)
  | .merge, found =>
    if incoming.content.text = [] then .ok forest
    else match found with
      | some (b, put) => .ok (put (b.extend incoming))
      | none => .ok (forest.append (incoming.withoutDirective.before .nil).newline)

/-- The forest after the override's block of a tag. -/
def Forest.combineTag (override forest : Forest) (tag : Text) : Except CombineError Forest :=
  match override.split? tag with
  | none => return forest
  | some (incoming, _) => do
    let op ← incoming.opening.operation
    forest.receive incoming op

/-- A directive of the block that an override's block goes to must be a known one. -/
def Forest.checkTag (forest : Forest) (tag : Text) : Except CombineError Unit :=
  match forest.split? tag with
  | none => return ()
  | some (b, _) => b.opening.operation.map fun _ => ()

/-- The forest after the override's block of a tag, when the directives of both blocks are known. -/
def Forest.combineTagChecked (override forest : Forest) (tag : Text) : Except CombineError Forest :=
  match override.split? tag with
  | none => return forest
  | some (incoming, _) => do
    let op ← incoming.opening.operation
    forest.checkTag tag
    forest.receive incoming op

/-! ### The text of blocks -/

theorem Forest.text_append (forest other : Forest) :
    (forest.append other).text = forest.text ++ other.text := by
  induction forest with
  | nil => rfl
  | leaf l rest ih => simp [append, text, ih]
  | element o notVoid notRaw children rest _ ih => simp [append, text, ih]

theorem Forest.text_newline (rest : Forest) : rest.newline.text = '\n' :: rest.text := rfl

theorem Content.text_append {name : Text} (content more : Content name) :
    (content.append more).text = content.text ++ '\n' :: more.text := by
  cases content with
  | raw text isRaw noEnd =>
    cases more with
    | raw more isRaw' noEnd' => rfl
    | nodes more notVoid notRaw => exact absurd isRaw notRaw
  | nodes children notVoid notRaw =>
    cases more with
    | raw more isRaw noEnd => exact absurd isRaw notRaw
    | nodes more notVoid' notRaw' => exact children.text_append more.newline

namespace Block

variable {tag : Text} (b : Block tag)

theorem text_before (rest : Forest) : (b.before rest).text = b.text ++ rest.text := by
  obtain ⟨o, rfl, content⟩ := b
  cases content <;> simp [before, text, Forest.text, Leaf.text, Content.text]

theorem not_void (b : Block tag) : tag ∉ voidNames := by
  cases b.content with
  | raw text isRaw noEnd => exact not_mem_voidNames_of_raw isRaw
  | nodes children notVoid notRaw => exact notVoid

end Block

/-! ### The first block of a tag -/

/-- Whether an element opens a block of a tag, as far as its opening tag shows. -/
def Element.opens (tag : Text) (e : Element) : Bool :=
  !e.head.tag.selfClosing && e.head.name == tag

theorem Leaf.eq_before {tag : Text} {l : Leaf} {b : Block tag} (h : l.block? tag = some b)
    (rest : Forest) : b.before rest = .leaf l rest := by
  cases l <;> simp only [block?, reduceCtorEq] at h
  split at h
  · obtain rfl := Option.some.inj h
    rfl
  · cases h

theorem Leaf.not_opens {tag : Text} {l : Leaf} (h : l.block? tag = none) (hvoid : tag ∉ voidNames)
    {n : Nat} {e : Element} (he : l.element? n = some e) : e.opens tag = false := by
  cases l with
  | run text h' => cases he
  | comment body h' => cases he
  | declaration mark body hmark hbody hcomment => cases he
  | selfClosing o =>
    obtain rfl := Option.some.inj he
    rfl
  | void o isVoid =>
    obtain rfl := Option.some.inj he
    have hne : o.name ≠ tag := by rintro rfl; exact hvoid isVoid
    simpa [Element.opens, Head.name, Opening.tag] using hne
  | raw o content isRaw noEnd =>
    obtain rfl := Option.some.inj he
    have hne : o.name ≠ tag := by
      intro heq
      simp [block?, heq] at h
    simpa [Element.opens, Head.name, Opening.element, Opening.tag] using hne

/-- A forest without a block of a tag has no element that opens one. -/
theorem Forest.find?_of_split?_eq_none {tag : Text} {forest : Forest}
    (h : forest.split? tag = none) (hvoid : tag ∉ voidNames) (n : Nat) :
    (forest.elements n).find? (Element.opens tag) = none := by
  induction forest generalizing n with
  | nil => rfl
  | leaf l rest ih =>
    rw [split?] at h
    cases hl : l.block? tag with
    | some b => simp [hl] at h
    | none =>
      have hrest : rest.split? tag = none := by simpa [hl] using h
      rw [elements, List.find?_append, ih hrest, Option.or_none, List.find?_eq_none]
      intro e he
      simp [Leaf.not_opens hl hvoid (Option.mem_toList.mp he)]
  | element o notVoid notRaw children rest ihc ihr =>
    rw [split?] at h
    split at h
    · cases h
    · next hne =>
      cases hchildren : children.split? tag with
      | some found => simp [hchildren] at h
      | none =>
        have hrest : rest.split? tag = none := by simpa [hchildren] using h
        have hopens : (o.element n children.text.size).opens tag = false := by
          simpa [Element.opens, Head.name, Opening.element, Opening.tag] using hne
        rw [elements, List.cons_append, List.find?_cons, hopens, List.find?_append, ihc hchildren,
          ihr hrest]
        rfl

/-- What the first block of a tag is in the text of a forest: the text is cut before and after it,
another block goes between the same texts, and its tag is the first that opens a block. -/
structure Forest.Splits {tag : Text} (forest : Forest) (b : Block tag) (put : Block tag → Forest)
    (before after : Text) : Prop where
  text : forest.text = before ++ (b.text ++ after)
  text_put : ∀ b', (put b').text = before ++ (b'.text ++ after)
  find? : ∀ n, (forest.elements n).find? (Element.opens tag) =
    some (b.opening.element (n + before.size) b.content.text.size)

namespace Forest.Splits

variable {tag : Text} {o : Opening} {notVoid : o.name ∉ voidNames} {notRaw : o.name ∉ rawNames}
variable {children rest : Forest} {b : Block tag} {put : Block tag → Forest} {before after : Text}

theorem head (b : Block tag) (rest : Forest) :
    (b.before rest).Splits b (fun b' => b'.before rest) [] rest.text := by
  refine ⟨b.text_before rest, fun b' => b'.text_before rest, fun n => ?_⟩
  have hopens : (b.opening.element n b.content.text.size).opens tag = true := by
    simp [Element.opens, Head.name, Opening.element, Opening.tag, b.named]
  obtain ⟨o, hname, content⟩ := b
  cases content <;>
    exact List.find?_cons_of_pos hopens

theorem leaf {l : Leaf} (h : rest.Splits b put before after) (hl : l.block? tag = none) :
    (Forest.leaf l rest).Splits b (fun b' => .leaf l (put b')) (l.text ++ before) after := by
  refine ⟨?_, fun b' => ?_, fun n => ?_⟩
  · simp [Forest.text, h.text]
  · simp [Forest.text, h.text_put b']
  · have hnone : (l.element? n).toList.find? (Element.opens tag) = none := by
      rw [List.find?_eq_none]
      intro e he
      simp [Leaf.not_opens hl b.not_void (Option.mem_toList.mp he)]
    rw [elements, List.find?_append, hnone, Option.none_or, h.find?, size_append, Nat.add_assoc]

theorem not_opens (hne : o.name ≠ tag) (n content : Nat) :
    (o.element n content).opens tag = false := by
  simpa [Element.opens, Head.name, Opening.element, Opening.tag] using hne

theorem inside (h : children.Splits b put before after) (hne : o.name ≠ tag) :
    (element o notVoid notRaw children rest).Splits b
      (fun b' => element o notVoid notRaw (put b') rest) ((o.tag false).text ++ before)
      (after ++ (CloseTag.ofName o.name).text ++ rest.text) := by
  refine ⟨?_, fun b' => ?_, fun n => ?_⟩
  · simp [Forest.text, h.text]
  · simp [Forest.text, h.text_put b']
  · rw [elements, List.cons_append, List.find?_cons, not_opens hne, List.find?_append, h.find?,
      Option.some_or, size_append, Nat.add_assoc]

theorem later (h : rest.Splits b put before after) (hne : o.name ≠ tag)
    (hchildren : children.split? tag = none) :
    (element o notVoid notRaw children rest).Splits b
      (fun b' => element o notVoid notRaw children (put b'))
      ((o.tag false).text ++ children.text ++ (CloseTag.ofName o.name).text ++ before) after := by
  refine ⟨?_, fun b' => ?_, fun n => ?_⟩
  · simp [Forest.text, h.text]
  · simp [Forest.text, h.text_put b']
  · rw [elements, List.cons_append, List.find?_cons, not_opens hne, List.find?_append,
      find?_of_split?_eq_none hchildren b.not_void, Option.none_or, h.find?]
    simp [Nat.add_assoc]

end Forest.Splits

/-- Where the first block of a tag stands in a forest. -/
inductive Forest.Focus {tag : Text} : Forest → Block tag → (Block tag → Forest) → Prop
  | head (b : Block tag) (rest : Forest) : Focus (b.before rest) b fun b' => b'.before rest
  | leaf {l : Leaf} {rest : Forest} {b : Block tag} {put : Block tag → Forest} :
      l.block? tag = none → Focus rest b put →
      Focus (.leaf l rest) b fun b' => .leaf l (put b')
  | inside {o : Opening} {notVoid : o.name ∉ voidNames} {notRaw : o.name ∉ rawNames}
      {children rest : Forest} {b : Block tag} {put : Block tag → Forest} :
      o.name ≠ tag → Focus children b put →
      Focus (.element o notVoid notRaw children rest) b
        fun b' => .element o notVoid notRaw (put b') rest
  | later {o : Opening} {notVoid : o.name ∉ voidNames} {notRaw : o.name ∉ rawNames}
      {children rest : Forest} {b : Block tag} {put : Block tag → Forest} :
      o.name ≠ tag → children.split? tag = none → Focus rest b put →
      Focus (.element o notVoid notRaw children rest) b
        fun b' => .element o notVoid notRaw children (put b')

theorem Forest.focus_of_split? {tag : Text} {forest : Forest} {b : Block tag}
    {put : Block tag → Forest} (h : forest.split? tag = some (b, put)) : forest.Focus b put := by
  induction forest generalizing b put with
  | nil => cases h
  | leaf l rest ih =>
    rw [split?] at h
    split at h
    · next b' hl =>
      obtain ⟨rfl, rfl⟩ := Prod.mk.inj (Option.some.inj h)
      rw [← Leaf.eq_before hl]
      exact Focus.head b' rest
    · next hl =>
      obtain ⟨⟨b', put'⟩, hrest, heq⟩ := Option.map_eq_some_iff.mp h
      obtain ⟨rfl, rfl⟩ := Prod.mk.inj heq
      exact Focus.leaf hl (ih hrest)
  | element o notVoid notRaw children rest ihc ihr =>
    rw [split?] at h
    split at h
    · obtain ⟨rfl, rfl⟩ := Prod.mk.inj (Option.some.inj h)
      exact Focus.head ⟨o, _, .nodes children _ _⟩ rest
    · next hne =>
      split at h
      · next b' put' hchildren =>
        obtain ⟨rfl, rfl⟩ := Prod.mk.inj (Option.some.inj h)
        exact Focus.inside hne (ihc hchildren)
      · next hchildren =>
        obtain ⟨⟨b', put'⟩, hrest, heq⟩ := Option.map_eq_some_iff.mp h
        obtain ⟨rfl, rfl⟩ := Prod.mk.inj heq
        exact Focus.later hne hchildren (ihr hrest)

theorem Forest.Focus.splits {tag : Text} {forest : Forest} {b : Block tag}
    {put : Block tag → Forest} (h : forest.Focus b put) :
    ∃ before after, forest.Splits b put before after := by
  induction h with
  | head b rest => exact ⟨_, _, Splits.head b rest⟩
  | leaf hl _ ih =>
    obtain ⟨before, after, hsplits⟩ := ih
    exact ⟨_, _, hsplits.leaf hl⟩
  | inside hne _ ih =>
    obtain ⟨before, after, hsplits⟩ := ih
    exact ⟨_, _, hsplits.inside hne⟩
  | later hne hchildren _ ih =>
    obtain ⟨before, after, hsplits⟩ := ih
    exact ⟨_, _, hsplits.later hne hchildren⟩

/-! ### Sections of the text of a forest -/

theorem Forest.elementOf?_of_find? {forest : Forest} {p : Element → Bool} {e : Element}
    (h : (forest.elements 0).find? p = some e) : elementOf? forest.text e.head = some e.bounds := by
  have he := forest.elementFrom?_text [] [] e (List.mem_of_find?_eq_some h)
  rw [List.nil_append, List.append_nil] at he
  exact congrArg Option.join he

theorem Forest.find?_heads (forest : Forest) (tag : Text) :
    ((heads forest.text).find? fun head => !head.tag.selfClosing && head.name == tag) =
      ((forest.elements 0).find? (Element.opens tag)).map (·.head) := by
  rw [forest.heads_text, List.find?_map]
  rfl

theorem Forest.findBlock?_of_split?_eq_none {tag : Text} {forest : Forest}
    (h : forest.split? tag = none) : Section.findBlock? forest.text tag = none := by
  rw [Section.findBlock?, forest.find?_heads]
  cases he : (forest.elements 0).find? (Element.opens tag) with
  | none => rfl
  | some e =>
    -- the tag is void, and so is the element
    have hvoid : tag ∈ voidNames := by
      by_contra hvoid
      rw [find?_of_split?_eq_none h hvoid] at he
      cases he
    have hopens := List.find?_some he
    simp only [Element.opens, Bool.and_eq_true, Bool.not_eq_true', beq_iff_eq] at hopens
    have hclosing : e.closing = .void := by
      cases Forest.written (List.mem_of_find?_eq_some he) with
      | selfClosing o n range => exact absurd hopens.1 (by simp [Opening.tag])
      | void o n isVoid => rfl
      | paired o n content notVoid =>
        have hname : o.name = tag := hopens.2
        exact absurd hvoid (hname ▸ notVoid)
    simp [elementOf?_of_find? he, Element.bounds, hclosing]

theorem Forest.Splits.findBlock? {tag : Text} {forest : Forest} {b : Block tag}
    {put : Block tag → Forest} {before after : Text} (h : forest.Splits b put before after) :
    Section.findBlock? forest.text tag =
      some (⟨before.size, b.opening.tag false⟩,
        ⟨before.size + (b.opening.tag false).text.size + b.content.text.size,
          before.size + b.text.size⟩) := by
  have hfind := h.find? 0
  rw [Nat.zero_add] at hfind
  have helement := elementOf?_of_find? hfind
  rw [Section.findBlock?, forest.find?_heads, hfind]
  simp only [Option.map_some, Option.bind_eq_bind, Option.bind_some, helement]
  simp [Element.bounds, Opening.element, Block.text, b.named, Nat.add_assoc]

theorem Opening.tag_withoutDirective (o : Opening) :
    (o.tag false).withoutDirective = o.withoutDirective.tag false := by
  have hparts (o : Opening) :=
    readAll_innerOf (fun a ha => (o.attrs_wellFormed a ha).readable) o.tail_blank
  have htail : ∀ part ∈ if o.tail = [] then [] else [HeadPart.filler o.tail],
      ¬part.isDirective = true := by
    split <;> simp [HeadPart.isDirective]
  have herase : HeadPart.withoutDirective (HeadPart.readAll (innerOf o.attrs o.tail)) =
      HeadPart.readAll (innerOf o.withoutDirective.attrs o.tail) := by
    refine Eq.trans ?_ (hparts o.withoutDirective).symm
    rw [HeadPart.withoutDirective, hparts o, List.eraseP_append, List.eraseP_map,
      List.eraseP_of_forall_not htail]
    split
    · rfl
    · next hnone =>
      have hno : ∀ a ∈ o.attrs, ¬a.isDirective = true := by
        intro a ha hdirective
        exact hnone (List.any_eq_true.mpr ⟨.attr a, List.mem_map_of_mem ha, hdirective⟩)
      have hsame : o.withoutDirective.attrs = o.attrs := List.eraseP_of_forall_not hno
      rw [hsame]
      rfl
  have hinner := HeadPart.flatMap_text_readAll (innerOf o.withoutDirective.attrs o.tail)
  rw [← herase] at hinner
  exact congrArg (fun inner => OpenTag.mk o.name inner false) hinner

/-- The directive of an opening tag in a document, and the tag's text without it. -/
theorem readDirective_text (o : Opening) {doc before after : Text}
    (hdoc : doc = before ++ ((o.tag false).text ++ after)) :
    (Section.readDirective doc o.name ⟨before.size, o.tag false⟩).mapError .unknownDirective =
      o.operation.map fun op => (op, (o.withoutDirective.tag false).text) := by
  have hread := @readDirective_eq doc before after ⟨before.size, o.tag false⟩ hdoc rfl o.name
  rw [o.attributes_tag, o.tag_withoutDirective] at hread
  rw [hread, Attribute.operation, Opening.operation]
  cases hfind : o.attrs.find? Attribute.isDirective with
  | none => rfl
  | some a =>
    cases hop : Operation.ofDirective? (a.value?.getD []) <;>
      simp [hop, Except.mapError, Except.map]

/-- The section that a block is when its text begins at the given offset. -/
def Block.toSection {tag : Text} (b : Block tag) (op : Operation) (n : Nat) : Section where
  tag := tag
  operation := op
  openTag := (b.opening.withoutDirective.tag false).text
  content := b.content.text
  closeTag := (CloseTag.ofName tag).text
  start := n
  contentStart := n + (b.opening.tag false).text.size
  contentStop := n + (b.opening.tag false).text.size + b.content.text.size
  stop := n + b.text.size

theorem Forest.section_of_split?_eq_none {tag : Text} {forest : Forest}
    (h : forest.split? tag = none) : Section.find? forest.text tag = .ok none := by
  rw [Section.find?, findBlock?_of_split?_eq_none h]

theorem Forest.Splits.find?_text {tag : Text} {forest : Forest} {b : Block tag}
    {put : Block tag → Forest} {before after : Text} (h : forest.Splits b put before after) :
    (Section.find? forest.text tag).mapError .unknownDirective =
      b.opening.operation.map fun op => some (b.toSection op before.size) := by
  have hdoc : forest.text = before ++ ((b.opening.tag false).text ++
      (b.content.text ++ ((CloseTag.ofName tag).text ++ after))) := by
    rw [h.text, Block.text]
    simp
  have hstop : Head.stop ⟨before.size, b.opening.tag false⟩ =
      before.size + (b.opening.tag false).text.size := Head.stop_eq _
  have hcontent : forest.text.slice (before.size + (b.opening.tag false).text.size)
      (before.size + (b.opening.tag false).text.size + b.content.text.size) = b.content.text := by
    have hat : forest.text = before ++ (b.opening.tag false).text ++
        (b.content.text ++ ((CloseTag.ofName tag).text ++ after)) := by
      rw [hdoc, List.append_assoc]
    refine slice_of_eq hat ?_ ?_
    · rw [size_append]
    · rw [size_append]
  have hclose : forest.text.slice
      (before.size + (b.opening.tag false).text.size + b.content.text.size)
      (before.size + b.text.size) = (CloseTag.ofName tag).text := by
    have hat : forest.text = before ++ (b.opening.tag false).text ++ b.content.text ++
        ((CloseTag.ofName tag).text ++ after) := by
      rw [hdoc, List.append_assoc, List.append_assoc]
    refine slice_of_eq hat ?_ ?_
    · rw [size_append, size_append]
    · simp [Block.text, Nat.add_assoc]
  have hread := readDirective_text b.opening hdoc
  rw [b.named] at hread
  rw [Section.find?, h.findBlock?]
  simp only [hstop, hcontent, hclose]
  cases hdirective : Section.readDirective forest.text tag ⟨before.size, b.opening.tag false⟩ with
  | error e =>
    rw [hdirective] at hread
    cases hop : b.opening.operation with
    | error e' =>
      rw [hop] at hread
      simpa [bind, Except.bind, Except.mapError, Except.map] using hread
    | ok op => rw [hop] at hread; cases hread
  | ok found =>
    rw [hdirective] at hread
    cases hop : b.opening.operation with
    | error e' => rw [hop] at hread; cases hread
    | ok op =>
      rw [hop] at hread
      obtain rfl := Except.ok.inj hread
      rfl

/-! ### The combination of the text of forests -/

section

variable [Digest]

/-- A document after the edit that an override's section asks for, if there is one. -/
def receiveText (doc : Text) (incoming : Section) (existing : Option Section) :
    Except CombineError Text := do
  match ← Section.combineEdit? doc incoming existing with
  | none => return doc
  | some edit => return (← (edit.applyTo doc).mapError .edit).1

/-- A document after a section of the override, if it has one. -/
def receiveSection (doc tag : Text) : Option Section → Except CombineError Text
  | none => return doc
  | some incoming => do
    let existing ← (Section.find? doc tag).mapError .unknownDirective
    receiveText doc incoming existing

theorem combineTag_eq (override doc tag : Text) : Section.combineTag override doc tag =
    (Section.find? override tag).mapError .unknownDirective >>= receiveSection doc tag := by
  unfold Section.combineTag
  refine congrArg (_ >>= ·) (funext fun incoming => ?_)
  cases incoming <;> rfl

theorem applyTo_ofExpected (before after old new : Text) :
    ∃ did, (Edit.ofExpected before.size (before.size + old.size) new old).applyTo
      (before ++ (old ++ after)) = .ok (before ++ (new ++ after), did) :=
  Patch.applyTo_append before after (.inr (Patch.holdsOf_ofText old))

theorem applyTo_insertion (before after new : Text) :
    ∃ did, (Edit.insertion before.size new).applyTo (before ++ after) =
      .ok (before ++ (new ++ after), did) :=
  applyTo_ofExpected before after [] new

theorem receiveText_of_edit {doc new : Text} {incoming : Section} {existing : Option Section}
    {edit : Edit} (hedit : Section.combineEdit? doc incoming existing = .ok (some edit))
    (hnew : ∃ did, edit.applyTo doc = .ok (new, did)) :
    receiveText doc incoming existing = .ok new := by
  obtain ⟨did, hdid⟩ := hnew
  rw [receiveText, hedit]
  simp [hdid, bind, Except.bind, Except.mapError, pure, Except.pure]

theorem receiveText_of_none {doc : Text} {incoming : Section} {existing : Option Section}
    (hedit : Section.combineEdit? doc incoming existing = .ok none) :
    receiveText doc incoming existing = .ok doc := by
  rw [receiveText, hedit]
  rfl

/-- Where a forest has no block of a tag, an override's block goes to the end of its text. -/
theorem Forest.receiveText_none {tag : Text} {forest : Forest} (h : forest.split? tag = none)
    (incoming : Block tag) (op : Operation) (n : Nat) :
    receiveText forest.text (incoming.toSection op n) none =
      (forest.receive incoming op).map Forest.text := by
  cases op with
  | replace => simp [receive, h]; rfl
  | merge =>
    by_cases hempty : incoming.content.text = []
    · have hreceive : forest.receive incoming .merge = .ok forest := by
        simp [receive, hempty]
      rw [hreceive]
      exact receiveText_of_none (by simp [Section.combineEdit?, Block.toSection, hempty])
    · have hreceive : forest.receive incoming .merge =
          .ok (forest.append (incoming.withoutDirective.before .nil).newline) := by
        simp [receive, hempty, h]
      have hnew := applyTo_insertion forest.text [] ('\n' :: incoming.withoutDirective.text)
      rw [List.append_nil, List.append_nil] at hnew
      have htext : (forest.append (incoming.withoutDirective.before .nil).newline).text =
          forest.text ++ '\n' :: incoming.withoutDirective.text := by
        rw [forest.text_append, text_newline, Block.text_before, text, List.append_nil]
      rw [hreceive, Except.map, htext]
      refine receiveText_of_edit ?_ hnew
      simp [Section.combineEdit?, Block.toSection, hempty, Block.text, Block.withoutDirective,
        CloseTag.ofName, CloseTag.text]

/-- Where a forest has a block of a tag, an override's block takes its place or adds to it. -/
theorem Forest.Splits.receiveText {tag : Text} {forest : Forest} {b : Block tag}
    {put : Block tag → Forest} {before after : Text} (h : forest.Splits b put before after)
    (hsplit : forest.split? tag = some (b, put)) (incoming : Block tag) (op op' : Operation)
    (n : Nat) :
    receiveText forest.text (incoming.toSection op n) (some (b.toSection op' before.size)) =
      (forest.receive incoming op).map Forest.text := by
  cases op with
  | replace =>
    have hreceive : forest.receive incoming .replace = .ok (put incoming.withoutDirective) := by
      simp [receive, hsplit]
    have hslice : forest.text.slice before.size (before.size + b.text.size) = b.text :=
      slice_of_eq h.text rfl rfl
    have hnew := applyTo_ofExpected before after b.text incoming.withoutDirective.text
    rw [← h.text] at hnew
    rw [hreceive, Except.map, h.text_put]
    refine receiveText_of_edit ?_ hnew
    simp [Section.combineEdit?, Edit.replacement, Block.toSection, hslice]
    rfl
  | merge =>
    by_cases hempty : incoming.content.text = []
    · have hreceive : forest.receive incoming .merge = .ok forest := by
        simp [receive, hempty]
      rw [hreceive]
      exact receiveText_of_none (by simp [Section.combineEdit?, Block.toSection, hempty])
    · have hreceive : forest.receive incoming .merge = .ok (put (b.extend incoming)) := by
        simp [receive, hempty, hsplit]
      let front := before ++ (b.opening.tag false).text ++ b.content.text
      let back := (CloseTag.ofName tag).text ++ after
      have hdoc : forest.text = front ++ back := by
        simp [h.text, Block.text, front, back]
      have hfront : front.size =
          before.size + (b.opening.tag false).text.size + b.content.text.size := by
        simp [front, Nat.add_assoc]
      have hput : (put (b.extend incoming)).text =
          front ++ ('\n' :: incoming.content.text ++ back) := by
        rw [h.text_put]
        simp [Block.extend, Block.text, Content.text_append, front, back]
      have hnew := applyTo_insertion front back ('\n' :: incoming.content.text)
      rw [← hdoc, hfront, ← hput] at hnew
      rw [hreceive]
      refine receiveText_of_edit ?_ hnew
      simp [Section.combineEdit?, Block.toSection, hempty]

/-- On the text of forests, the combination of a tag is that of the forests. -/
theorem Forest.combineTag_text (override forest : Forest) (tag : Text) :
    Section.combineTag override.text forest.text tag =
      (override.combineTagChecked forest tag).map Forest.text := by
  rw [combineTag_eq, combineTagChecked]
  cases hincoming : override.split? tag with
  | none =>
    rw [section_of_split?_eq_none hincoming]
    rfl
  | some found =>
    obtain ⟨incoming, put⟩ := found
    obtain ⟨before, after, hsplits⟩ := (focus_of_split? hincoming).splits
    rw [hsplits.find?_text]
    dsimp only
    cases hop : incoming.opening.operation with
    | error e => rfl
    | ok op =>
      change (Section.find? forest.text tag).mapError .unknownDirective >>=
        receiveText forest.text (incoming.toSection op before.size) = _
      rw [checkTag]
      cases hexisting : forest.split? tag with
      | none =>
        rw [section_of_split?_eq_none hexisting]
        exact receiveText_none hexisting incoming op before.size
      | some found =>
        obtain ⟨b, put'⟩ := found
        obtain ⟨before', after', hsplits'⟩ := (focus_of_split? hexisting).splits
        rw [hsplits'.find?_text]
        dsimp only
        cases hop' : b.opening.operation with
        | error e => rfl
        | ok op' => exact hsplits'.receiveText hexisting incoming op op' before.size

theorem Forest.combine_text (source override : Forest) (tags : List Text) :
    Section.combine source.text override.text tags =
      (tags.foldlM override.combineTagChecked source).map Forest.text := by
  induction tags generalizing source with
  | nil => rfl
  | cons tag tags ih =>
    have hstep : Section.combine source.text override.text (tag :: tags) =
        (Section.combineTag override.text source.text tag >>= fun doc =>
          Section.combine doc override.text tags) := rfl
    rw [hstep, combineTag_text, List.foldlM_cons]
    cases override.combineTagChecked source tag with
    | error e => rfl
    | ok forest => exact ih forest

end

/-! ### Directives -/

/-- The opening tags of the elements that a leaf is. -/
def Leaf.openings : Leaf → List Opening
  | .run _ _ | .comment _ _ | .declaration _ _ _ _ _ => []
  | .selfClosing o | .void o _ | .raw o _ _ _ => [o]

/-- The opening tags of a forest. -/
def Forest.openings : Forest → List Opening
  | .nil => []
  | .leaf l rest => l.openings ++ rest.openings
  | .element o _ _ children rest => o :: children.openings ++ rest.openings

/-- The opening tags that stand inside other elements. -/
def Forest.nested : Forest → List Opening
  | .nil => []
  | .leaf _ rest => rest.nested
  | .element _ _ _ children rest => children.openings ++ rest.nested

def Content.openings {name : Text} : Content name → List Opening
  | .raw _ _ _ => []
  | .nodes children _ _ => children.openings

def Block.openings {tag : Text} (b : Block tag) : List Opening := b.opening :: b.content.openings

theorem Forest.mem_openings_of_nested {forest : Forest} {o : Opening} (h : o ∈ forest.nested) :
    o ∈ forest.openings := by
  induction forest with
  | nil => exact h
  | leaf l rest ih => exact List.mem_append_right _ (ih h)
  | element o' notVoid notRaw children rest _ ih =>
    rcases List.mem_append.mp h with h | h
    · exact List.mem_cons_of_mem _ (List.mem_append_left _ h)
    · exact List.mem_cons_of_mem _ (List.mem_append_right _ (ih h))

theorem Forest.openings_append (forest other : Forest) :
    (forest.append other).openings = forest.openings ++ other.openings := by
  induction forest with
  | nil => rfl
  | leaf l rest ih => simp [append, openings, ih]
  | element o notVoid notRaw children rest _ ih => simp [append, openings, ih]

theorem Forest.openings_newline (rest : Forest) : rest.newline.openings = rest.openings := rfl

theorem Content.openings_append {name : Text} (content more : Content name) :
    (content.append more).openings = content.openings ++ more.openings := by
  cases content with
  | raw text isRaw noEnd =>
    cases more with
    | raw more isRaw' noEnd' => rfl
    | nodes more notVoid notRaw => exact absurd isRaw notRaw
  | nodes children notVoid notRaw =>
    cases more with
    | raw more isRaw noEnd => exact absurd isRaw notRaw
    | nodes more notVoid' notRaw' => exact children.openings_append more.newline

namespace Block

variable {tag : Text} (b : Block tag) (rest : Forest)

theorem openings_before : (b.before rest).openings = b.openings ++ rest.openings := by
  obtain ⟨o, rfl, content⟩ := b
  cases content <;> rfl

theorem nested_before : (b.before rest).nested = b.content.openings ++ rest.nested := by
  obtain ⟨o, rfl, content⟩ := b
  cases content <;> rfl

end Block

namespace Forest.Focus

variable {tag : Text} {forest : Forest} {b : Block tag} {put : Block tag → Forest}

theorem opening_mem (h : forest.Focus b put) : b.opening ∈ forest.openings := by
  induction h with
  | head b rest => simp [Block.openings_before, Block.openings]
  | leaf _ _ ih => simp [openings, ih]
  | inside _ _ ih => simp [openings, ih]
  | later _ _ _ ih => simp [openings, ih]

theorem mem_nested (h : forest.Focus b put) {o : Opening} (ho : o ∈ b.content.openings) :
    o ∈ forest.nested := by
  induction h with
  | head b rest =>
    rw [Block.nested_before]
    exact List.mem_append_left _ ho
  | leaf _ _ ih => exact ih ho
  | inside _ _ ih => exact List.mem_append_left _ (mem_openings_of_nested (ih ho))
  | later _ _ _ ih => exact List.mem_append_right _ (ih ho)

/-- With another block in its place, a forest has that block's opening tags and some of its own. -/
theorem mem_put (h : forest.Focus b put) {b' : Block tag} {o : Opening}
    (ho : o ∈ (put b').openings) : o ∈ b'.openings ∨ o ∈ forest.openings := by
  induction h with
  | head b rest =>
    rw [Block.openings_before, List.mem_append] at *
    tauto
  | leaf _ _ ih =>
    simp only [openings, List.mem_append] at *
    tauto
  | inside _ _ ih =>
    simp only [openings, List.cons_append, List.mem_cons, List.mem_append] at *
    tauto
  | later _ _ _ ih =>
    simp only [openings, List.cons_append, List.mem_cons, List.mem_append] at *
    tauto

end Forest.Focus

/-- The directive of each opening tag is a known one. -/
def Known (openings : List Opening) : Prop := ∀ o ∈ openings, ∃ op, o.operation = .ok op

theorem Opening.operation_of_find?_eq_none {o : Opening}
    (h : o.attrs.find? Attribute.isDirective = none) : o.operation = .ok (.ofTag o.name) := by
  rw [operation, h]

/-- An opening tag with one directive at most has none once that is taken away. -/
theorem Opening.known_withoutDirective {o : Opening}
    (h : o.attrs.countP Attribute.isDirective ≤ 1) :
    ∃ op, o.withoutDirective.operation = .ok op := by
  refine ⟨_, operation_of_find?_eq_none (List.find?_eq_none.mpr fun a ha => ?_)⟩
  change a ∈ o.attrs.eraseP Attribute.isDirective at ha
  rcases List.eraseP_eq_iff.mp (rfl : o.attrs.eraseP Attribute.isDirective = _) with
    ⟨hno, hsame⟩ | ⟨d, first, others, hno, hd, hattrs, herase⟩
  · rw [← hsame] at ha
    exact hno a ha
  · rw [herase, List.mem_append] at ha
    rw [hattrs, List.countP_append, List.countP_cons_of_pos hd] at h
    rcases ha with ha | ha
    · exact hno a ha
    · exact List.countP_eq_zero.mp (by omega) a ha

/-- What a forest receives brings in the opening tags inside the block that it comes from, and that
block's own tag without its directive. -/
theorem Forest.known_of_receive {tag : Text} {forest result : Forest} {incoming : Block tag}
    {op : Operation} (h : forest.receive incoming op = .ok result) (hforest : Known forest.openings)
    (hincoming : Known incoming.withoutDirective.openings) : Known result.openings := by
  have hcontent : ∀ o ∈ incoming.content.openings, ∃ op, o.operation = .ok op :=
    fun o ho => hincoming o (List.mem_cons_of_mem _ ho)
  unfold receive at h
  split at h
  · cases h
  · next b put hsplit =>
    obtain rfl := Except.ok.inj h
    intro o ho
    rcases (focus_of_split? hsplit).mem_put ho with ho | ho
    · exact hincoming o ho
    · exact hforest o ho
  · split at h
    · obtain rfl := Except.ok.inj h
      exact hforest
    · split at h
      · next b put hsplit =>
        obtain rfl := Except.ok.inj h
        have hfocus := focus_of_split? hsplit
        intro o ho
        rcases hfocus.mem_put ho with ho | ho
        · rw [Block.openings, Block.extend, Content.openings_append, List.mem_cons,
            List.mem_append] at ho
          rcases ho with rfl | ho | ho
          · exact hforest _ hfocus.opening_mem
          · exact hforest o (mem_openings_of_nested (hfocus.mem_nested ho))
          · exact hcontent o ho
        · exact hforest o ho
      · obtain rfl := Except.ok.inj h
        intro o ho
        rw [openings_append, openings_newline, Block.openings_before, openings, List.append_nil,
          List.mem_append] at ho
        exact ho.elim (hforest o) (hincoming o)

/-- In a forest whose directives are known, only the override's directive is looked at. -/
theorem Forest.combineTagChecked_of_known {override forest : Forest} (h : Known forest.openings)
    (tag : Text) : override.combineTagChecked forest tag = override.combineTag forest tag := by
  have hcheck : forest.checkTag tag = .ok () := by
    rw [checkTag]
    split
    · rfl
    · next b put hsplit =>
      obtain ⟨op, hop⟩ := h b.opening (focus_of_split? hsplit).opening_mem
      rw [hop]
      rfl
  rw [combineTagChecked, combineTag, hcheck]
  rfl

/-- What a tag's combination leaves has known directives, when those inside the override's elements
are known and none of its opening tags has two. -/
theorem Forest.known_of_combineTag {override forest result : Forest} {tag : Text}
    (h : override.combineTag forest tag = .ok result) (hforest : Known forest.openings)
    (hone : ∀ o ∈ override.openings, o.attrs.countP Attribute.isDirective ≤ 1)
    (hnested : Known override.nested) : Known result.openings := by
  rw [combineTag] at h
  split at h
  · obtain rfl := Except.ok.inj h
    exact hforest
  · next incoming put hsplit =>
    have hfocus := focus_of_split? hsplit
    cases hop : incoming.opening.operation with
    | error e => rw [hop] at h; cases h
    | ok op =>
      rw [hop] at h
      refine known_of_receive h hforest fun o ho => ?_
      rcases List.mem_cons.mp ho with rfl | ho
      · exact Opening.known_withoutDirective (hone _ hfocus.opening_mem)
      · exact hnested o (hfocus.mem_nested ho)

/-- The combination of well-formed documents is that of their forests, tag by tag, where the source
has no directives, no opening tag of the override has two, and those inside its elements are
known. -/
theorem Forest.combine_eq_foldlM [Digest] (source override : Forest) (tags : List Text)
    (hsource : ∀ o ∈ source.openings, ∀ a ∈ o.attrs, ¬a.isDirective)
    (hone : ∀ o ∈ override.openings, o.attrs.countP Attribute.isDirective ≤ 1)
    (hnested : Known override.nested) :
    Section.combine source.text override.text tags =
      (tags.foldlM override.combineTag source).map Forest.text := by
  have hknown : Known source.openings := fun o ho =>
    ⟨_, Opening.operation_of_find?_eq_none (List.find?_eq_none.mpr (hsource o ho))⟩
  rw [combine_text]
  clear hsource
  induction tags generalizing source with
  | nil => rfl
  | cons tag tags ih =>
    rw [List.foldlM_cons, List.foldlM_cons, combineTagChecked_of_known hknown]
    cases hstep : override.combineTag source tag with
    | error e => rfl
    | ok forest => exact ih forest (known_of_combineTag hstep hknown hone hnested)

/-- The attribute `kom` with a value. -/
def Attribute.ofDirective (value : Value) : Attribute :=
  ⟨[' '], "kom".toList, some ⟨['='], value⟩⟩

theorem Attribute.wellFormed_ofDirective {value : Value} (h : value.WellFormed) :
    (ofDirective value).WellFormed := by
  refine ⟨by simp [ofDirective], List.all_eq_true.mp rfl, by simp [ofDirective],
    List.all_eq_true.mp rfl, fun s hs => ?_⟩
  obtain rfl := Option.some.inj hs
  exact ⟨⟨[], [], by simp, by simp, rfl⟩, h⟩

/-- The opening tag `<b>` with a directive. -/
def Opening.ofDirective (value : Value) (h : value.WellFormed) : Opening where
  name := ['b']
  attrs := [.ofDirective value]
  tail := []
  isName := ⟨'b', [], rfl, rfl, by simp⟩
  attrs_wellFormed := by simpa using Attribute.wellFormed_ofDirective h
  tail_blank := by simp

/-- A tag that is named twice adds its content twice. -/
theorem Forest.combine_eq_foldlM_twice :
    let _ := Digest.multiplicative
    ∃ source override : Forest, source.text = "<b>1</b>".toList ∧
      override.text = "<b kom=merge>2</b>".toList ∧
      Section.combine source.text override.text ["b".toList, "b".toList] =
        .ok "<b>1\n2\n2</b>".toList := by
  intro digest
  let plain : Opening := ⟨['b'], [], [], ⟨'b', [], rfl, rfl, by simp⟩, by simp, by simp⟩
  let directed : Opening :=
    .ofDirective (.unquoted "merge".toList) (.unquoted (by decide) (List.all_eq_true.mp rfl))
  let source : Forest := .element plain (by decide) (by decide)
    (.leaf (.run ['1'] fun _ h => by simp [List.suffix_cons_iff] at h) .nil) .nil
  let override : Forest := .element directed (by decide) (by decide)
    (.leaf (.run ['2'] fun _ h => by simp [List.suffix_cons_iff] at h) .nil) .nil
  refine ⟨source, override, rfl, rfl, ?_⟩
  rw [combine_eq_foldlM source override]
  · rfl
  · simp [source, openings, Leaf.openings, plain]
  · decide
  · simp [override, nested, openings, Leaf.openings, Known]

/-- The directive of an element that an earlier tag has brought in from inside an override's block
is read as well when its own tag is combined, and combination fails on it. -/
theorem Forest.not_combine_eq_foldlM_of_nested :
    let _ := Digest.multiplicative
    ¬∀ (source override : Forest) (tags : List Text),
      (∀ o ∈ source.openings, ∀ a ∈ o.attrs, ¬a.isDirective) →
      (∀ o ∈ override.openings, o.attrs.countP Attribute.isDirective ≤ 1) →
      Section.combine source.text override.text tags =
        (tags.foldlM override.combineTag source).map Forest.text := by
  intro digest hall
  let template : Opening :=
    ⟨templateName, [], [], ⟨'t', "emplate".toList, rfl, rfl, List.all_eq_true.mp rfl⟩, by simp,
      by simp⟩
  let plain : Opening := ⟨['b'], [], [], ⟨'b', [], rfl, rfl, by simp⟩, by simp, by simp⟩
  let directed : Opening :=
    .ofDirective (.quoted '"' "bogus".toList true) (.quoted rfl (by decide))
  let source : Forest := .element template (by decide) (by decide) .nil .nil
  let override : Forest := .element plain (by decide) (by decide)
    (.leaf (.run ['1'] fun _ h => by simp [List.suffix_cons_iff] at h) .nil)
    (.element template (by decide) (by decide)
      (.element directed (by decide) (by decide)
        (.leaf (.run ['2'] fun _ h => by simp [List.suffix_cons_iff] at h) .nil) .nil) .nil)
  have hresult := hall source override [templateName, ['b']]
    (by simp [source, openings, template])
    (by decide)
  have hcombine : Section.combine source.text override.text [templateName, ['b']] =
      .error (.unknownDirective ⟨['b'], "bogus".toList⟩) := by
    rw [combine_text]
    rfl
  have hfold : ([templateName, ['b']].foldlM override.combineTag source).map Forest.text =
      .ok "<template><b kom=\"bogus\">2\n1</b></template>".toList := rfl
  rw [hcombine, hfold] at hresult
  cases hresult

end Graft.Markup
