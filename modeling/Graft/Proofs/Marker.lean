import Graft.Proofs.TemplateRevision

/-! The comments that mark the template of a well-formed component. A comment without `-->` in it
comes into the document as one token, and only such a comment does. -/

namespace Graft

open Text Markup

/-! ### The text before a tag of a forest -/

namespace Markup

theorem EndsBefore.append {rest s t : Text} (hs : EndsBefore (t ++ rest) s)
    (ht : EndsBefore rest t) : EndsBefore rest (s ++ t) := by
  induction hs with
  | nil => exact ht
  | plain hread hletter _ ih =>
    rw [← List.append_assoc] at hread hletter
    exact .plain hread hletter ih
  | lexeme hread hsplit _ ih =>
    rw [← List.append_assoc _ t] at hread hsplit
    rw [List.append_assoc, List.append_assoc]
    exact .lexeme hread hsplit ih

theorem EndsBefore.of_lexeme {l : Lexeme} {rest : Text}
    (hread : Lexeme.read? (l.text ++ rest) = some (l, rest)) (hraw : l.rawName? = none) :
    EndsBefore rest l.text := by
  have hsplit : l.splitRaw rest = ([], rest) := by rw [Lexeme.splitRaw, hraw]
  have hends : EndsBefore rest (l.text ++ ([] ++ [])) := .lexeme hread hsplit .nil
  rwa [List.append_nil, List.append_nil] at hends

theorem IsRun.endsBefore {text : Text} (h : IsRun text) (rest : Text) : EndsBefore rest text := by
  induction text with
  | nil => exact .nil
  | cons c cs ih =>
    refine .plain (h.read?_eq_none rest) ?_ (ih h.tail)
    rintro rfl d hd
    obtain ⟨e, es, rfl, he⟩ := h cs List.suffix_rfl
    obtain rfl : e = d := Option.some.inj hd
    rw [startsMarkup, Bool.or_eq_false_iff, Bool.or_eq_false_iff, Bool.or_eq_false_iff] at he
    exact he.1.1.1

/-- Raw content ends before the closing tag of its element. -/
theorem EndsBefore.of_raw (o : Opening) {content : Text} (hraw : o.name ∈ rawNames)
    (hend : ¬('<' :: '/' :: o.name) <:+: content) (rest : Text) :
    EndsBefore ((CloseTag.ofName o.name).text ++ rest) ((o.tag false).text ++ content) := by
  have hsplit : (Lexeme.opening (o.tag false)).splitRaw
      (content ++ ((CloseTag.ofName o.name).text ++ rest)) =
      (content, (CloseTag.ofName o.name).text ++ rest) := by
    rw [Lexeme.splitRaw, rawName?_of_mem hraw rfl]
    simp only [Opening.tag, breakOn?_raw o.isName hend rest, Option.getD_some]
  have hends : EndsBefore ((CloseTag.ofName o.name).text ++ rest)
      ((Lexeme.opening (o.tag false)).text ++ (content ++ [])) :=
    .lexeme (o.read?_tag false _) hsplit .nil
  rwa [List.append_nil] at hends

theorem EndsBefore.of_opening (o : Opening) (selfClosing : Bool)
    (hraw : (Lexeme.opening (o.tag selfClosing)).rawName? = none) (rest : Text) :
    EndsBefore rest (o.tag selfClosing).text :=
  of_lexeme (l := .opening (o.tag selfClosing)) (o.read?_tag selfClosing rest) hraw

theorem EndsBefore.of_close {name : Text} (h : IsTagName name) (rest : Text) :
    EndsBefore rest (CloseTag.ofName name).text :=
  of_lexeme (l := .closing (.ofName name)) (read?_closeTag h rest) rfl

theorem Leaf.endsBefore (l : Leaf) (rest : Text) : EndsBefore rest l.text := by
  cases l with
  | run text h => exact h.endsBefore rest
  | comment body h => exact .of_lexeme (l := .comment body true) (read?_comment h rest) rfl
  | declaration mark body hmark hbody hcomment =>
    exact .of_lexeme (l := .declaration (mark :: body) true)
      (read?_declaration hmark hbody hcomment rest) rfl
  | selfClosing o => exact .of_opening o true (rawName?_of_selfClosing rfl) rest
  | void o h =>
    exact .of_opening o false (rawName?_of_not_mem (not_mem_rawNames_of_void h)) rest
  | raw o content hraw h =>
    exact (EndsBefore.of_raw o hraw h rest).append (.of_close o.isName rest)

theorem Forest.endsBefore (forest : Forest) (rest : Text) : EndsBefore rest forest.text := by
  induction forest generalizing rest with
  | nil => exact .nil
  | leaf l forest ih => exact (l.endsBefore _).append (ih rest)
  | element o hvoid hraw children forest ihc ihf =>
    have hopen := EndsBefore.of_opening o false (rawName?_of_not_mem hraw)
    exact (((hopen _).append (ihc _)).append (.of_close o.isName _)).append (ihf rest)

/-- A token begins in a text, which itself begins at offset `n`, and every tag of the text before
the token has ended there, whatever follows the text. -/
def BeginsAfterTags (n : Nat) (text : Text) (token : Token) : Prop :=
  ∃ before after, text = before ++ after ∧ token.start = n + before.size ∧
    ∀ rest, EndsBefore (after ++ rest) before

namespace BeginsAfterTags

variable {n : Nat} {s t : Text} {token : Token}

theorem of_start (hstart : token.start = n) (text : Text) : BeginsAfterTags n text token :=
  ⟨[], text, rfl, hstart, fun _ => .nil⟩

theorem append_right (h : BeginsAfterTags n s token) (t : Text) :
    BeginsAfterTags n (s ++ t) token := by
  obtain ⟨before, after, rfl, hstart, hends⟩ := h
  refine ⟨before, after ++ t, List.append_assoc before after t, hstart, fun rest => ?_⟩
  rw [List.append_assoc]
  exact hends (t ++ rest)

theorem append_left (hs : ∀ rest, EndsBefore rest s) (h : BeginsAfterTags (n + s.size) t token) :
    BeginsAfterTags n (s ++ t) token := by
  obtain ⟨before, after, rfl, hstart, hends⟩ := h
  refine ⟨s ++ before, after, (List.append_assoc s before after).symm, ?_, fun rest => ?_⟩
  · rw [hstart, size_append, Nat.add_assoc]
  · exact (hs _).append (hends rest)

end BeginsAfterTags

theorem Leaf.beginsAfterTags {l : Leaf} {n : Nat} {token : Token} (h : token ∈ l.tokens n) :
    BeginsAfterTags n l.text token := by
  have hfirst {lexeme : Lexeme} {text : Text} (h : token ∈ [⟨n, lexeme⟩]) :
      BeginsAfterTags n text token := by
    obtain rfl := List.mem_singleton.mp h
    exact .of_start rfl text
  cases l with
  | run text h' => cases h
  | comment body h' => exact hfirst h
  | declaration mark body hmark hbody hcomment => exact hfirst h
  | selfClosing o => exact hfirst h
  | void o h' => exact hfirst h
  | raw o content hraw h' =>
    obtain rfl | hclose := List.mem_cons.mp h
    · exact .of_start rfl _
    · obtain rfl := List.mem_singleton.mp hclose
      refine ⟨(o.tag false).text ++ content, (CloseTag.ofName o.name).text, rfl, ?_,
        EndsBefore.of_raw o hraw h'⟩
      rw [size_append, Nat.add_assoc]

theorem Forest.beginsAfterTags {forest : Forest} {n : Nat} {token : Token}
    (h : token ∈ forest.tokens n) : BeginsAfterTags n forest.text token := by
  induction forest generalizing n with
  | nil => cases h
  | leaf l forest ih =>
    obtain hleaf | hrest := List.mem_append.mp h
    · exact (Leaf.beginsAfterTags hleaf).append_right _
    · exact .append_left l.endsBefore (ih hrest)
  | element o hvoid hraw children forest ihc ihf =>
    have hopen := EndsBefore.of_opening o false (rawName?_of_not_mem hraw)
    have hinside (rest : Text) : EndsBefore rest ((o.tag false).text ++ children.text) :=
      (hopen _).append (children.endsBefore rest)
    rw [tokens, List.cons_append, List.mem_cons, List.mem_append, List.mem_cons] at h
    obtain rfl | hchild | rfl | hrest := h
    · exact .of_start rfl _
    · exact (((BeginsAfterTags.append_left hopen (ihc hchild)).append_right _).append_right _)
    · refine (BeginsAfterTags.append_left hinside (.of_start ?_ _)).append_right _
      rw [size_append, Nat.add_assoc]
    · refine .append_left (fun rest => (hinside _).append (.of_close o.isName rest)) (ihf ?_)
      rwa [size_append, size_append, ← Nat.add_assoc, ← Nat.add_assoc]

/-- In a well-formed document every tag has ended where the next one begins. -/
theorem Forest.tagsEndBefore {forest : Forest} {head : Head} (h : head ∈ heads forest.text) :
    TagsEndBefore forest.text head.start := by
  rw [heads, forest.tokens_text] at h
  obtain ⟨before, after, hdoc, hstart, hends⟩ := Forest.beginsAfterTags (mem_filterMap_head?.mp h)
  have hends := hends []
  rw [List.append_nil] at hends
  exact ⟨before, after, hdoc, by simpa using hstart, hends⟩

/-! ### Texts that end all that they begin -/

/-- A text that has its own tokens, whatever follows it, and no part in those that follow. -/
def IsClosed (text : Text) : Prop :=
  ∀ n rest, place n (items (text ++ rest)) =
    place n (items text) ++ place (n + text.size) (items rest)

theorem Forest.isClosed (forest : Forest) : IsClosed forest.text := by
  intro n rest
  have hown := forest.place_items n []
  rw [List.append_nil, items_nil, place, List.append_nil] at hown
  rw [forest.place_items, hown]

theorem IsClosed.append {s t : Text} (hs : IsClosed s) (ht : IsClosed t) : IsClosed (s ++ t) := by
  intro n rest
  rw [List.append_assoc, hs, ht, hs n t, size_append, List.append_assoc, Nat.add_assoc]

theorem IsClosed.flatMap {α : Type} {f : α → Text} {parts : List α}
    (h : ∀ part ∈ parts, IsClosed (f part)) : IsClosed (parts.flatMap f) := by
  induction parts with
  | nil => exact Forest.nil.isClosed
  | cons part parts ih =>
    rw [List.flatMap_cons]
    exact (h part List.mem_cons_self).append (ih fun p hp => h p (List.mem_cons_of_mem part hp))

theorem isRun_newline : IsRun ['\n'] := by
  intro rest hsuf
  exact absurd (hsuf.subset List.mem_cons_self) (by simp)

/-! ### One comment more -/

/-- The tokens of a document and one comment more, which begins at an offset and has a body. All
tokens after it have moved on by the same number of bytes. -/
def AddsComment (doc doc' : Text) (offset : Nat) (body : Text) (size : Nat) : Prop :=
  ∃ earlier later : List Token, tokens doc = earlier ++ later ∧
    (∀ token ∈ earlier, token.start < offset) ∧ (∀ token ∈ later, offset ≤ token.start) ∧
    tokens doc' = earlier ++ ⟨offset + 1, .comment body true⟩ :: later.map (·.shift size)

/-- How far an offset moves when bytes are put in at another offset. -/
def gap (offset size n : Nat) : Nat := if n < offset then 0 else size

/-- An element ends where it does without a comment in it. -/
theorem match?_comment (opened : List Head) (front : List Token) (n : Nat) (body : Text)
    (ended : Bool) (later : List Token) :
    Bounds.match? opened (front ++ ⟨n, .comment body ended⟩ :: later) =
      Bounds.match? opened (front ++ later) := by
  induction front generalizing opened with
  | nil => rfl
  | cons token front ih => simp only [List.cons_append, Bounds.match?, ih]

theorem Token.head?_move (f : Nat → Nat) (token : Token) :
    (token.move f).head? = token.head?.map (·.move f) := by
  obtain ⟨start, lexeme⟩ := token
  cases lexeme <;> rfl

/-- The elements of two documents are the same up to the offsets of their tags. -/
def KeepsElements (doc doc' : Text) (f : Nat → Nat) : Prop :=
  heads doc' = (heads doc).map (·.move f) ∧
    ∀ head ∈ heads doc, elementOf? doc' (head.move f) = (elementOf? doc head).map (·.move f)

/-- One comment more neither adds nor hides an element, and each element ends as before. -/
theorem AddsComment.keepsElements {doc doc' body : Text} {offset size : Nat}
    (h : AddsComment doc doc' offset body size) : KeepsElements doc doc' (gap offset size) := by
  obtain ⟨earlier, later, hdoc, hearlier, hlater, hdoc'⟩ := h
  let f := gap offset size
  have hkept : earlier.map (·.move f) = earlier := by
    refine List.map_congr_left (fun token htoken => ?_) |>.trans (List.map_id earlier)
    rw [Token.move, show f token.start = 0 from if_pos (hearlier token htoken)]
    rfl
  have hmoved : later.map (·.shift size) = later.map (·.move f) := by
    refine List.map_congr_left fun token htoken => ?_
    rw [Token.move, show f token.start = size from if_neg (Nat.not_lt.mpr (hlater token htoken))]
  rw [hmoved, ← hkept] at hdoc'
  constructor
  · simp only [heads, hdoc, hdoc', List.filterMap_append, List.filterMap_cons, List.filterMap_map,
      Function.comp_def, Token.head?_move, List.map_append, List.map_filterMap]
    rfl
  · intro head hhead
    rw [heads, hdoc, mem_filterMap_head?, List.mem_append] at hhead
    obtain hfront | hback := hhead
    · obtain ⟨front, back, rfl⟩ := List.append_of_mem hfront
      rw [List.append_assoc, List.cons_append] at hdoc
      rw [List.map_append, List.map_cons, List.append_assoc, List.cons_append] at hdoc'
      have hnew : elementOf? doc' (head.move f) = _ := elementOf?_of_tokens hdoc'
      rw [elementOf?_of_tokens hdoc, hnew]
      have hcomment := match?_comment [] ((Token.mk head.start (.opening head.tag) :: back).map
        (·.move f)) (offset + 1) body true (later.map (·.move f))
      rw [← List.map_append] at hcomment
      exact hcomment.trans (match?_move f [] _)
    · obtain ⟨front, back, rfl⟩ := List.append_of_mem hback
      rw [← List.append_assoc] at hdoc
      rw [List.map_append, List.map_cons, ← List.cons_append, ← List.append_assoc] at hdoc'
      have hnew : elementOf? doc' (head.move f) = _ := elementOf?_of_tokens hdoc'
      rw [elementOf?_of_tokens hdoc, hnew]
      exact match?_move f [] (⟨head.start, .opening head.tag⟩ :: back)

end Markup

/-! ### One marker -/

namespace Text

variable {needle s t : Text}

/-- An occurrence lies behind characters that it does not hold. -/
theorem infix_of_infix_append_left (hneedle : needle ≠ []) (hs : ∀ c ∈ s, c ∉ needle)
    (h : needle <:+: s ++ t) : needle <:+: t := by
  induction s with
  | nil => exact h
  | cons c s ih =>
    obtain ⟨d, ds, rfl⟩ := List.exists_cons_of_ne_nil hneedle
    obtain hpre | hlater := List.infix_cons_iff.mp h
    · obtain rfl := (List.cons_prefix_cons.mp hpre).1
      exact absurd List.mem_cons_self (hs d List.mem_cons_self)
    · exact ih (fun e he => hs e (List.mem_cons_of_mem c he)) hlater

theorem infix_of_infix_append_right (hneedle : needle ≠ []) (ht : ∀ c ∈ t, c ∉ needle)
    (h : needle <:+: s ++ t) : needle <:+: s := by
  rw [← List.reverse_infix, List.reverse_append] at h
  rw [← List.reverse_infix]
  refine infix_of_infix_append_left (by simpa using hneedle) (fun c hc => ?_) h
  rw [List.mem_reverse] at hc ⊢
  exact ht c hc

end Text

namespace ComponentFile

/-- What ends a comment. -/
def commentEnd : Text := ['-', '-', '>']

/-- What stands between `<!--` and `-->` in a marker. -/
def markerBody (comment : Text) : Text := " Kombinator: ".toList ++ comment ++ [' ']

theorem marker_eq (comment : Text) : marker comment =
    ['\n'] ++ (['<', '!', '-', '-'] ++ markerBody comment ++ commentEnd ++ ['\n']) := by
  have hfront : "\n<!-- Kombinator: ".toList =
      ['\n'] ++ (['<', '!', '-', '-'] ++ " Kombinator: ".toList) := by decide +kernel
  have hback : " -->\n".toList = [' '] ++ (commentEnd ++ ['\n']) := by decide +kernel
  unfold marker markerBody
  rw [hfront, hback]
  simp only [List.append_assoc]

theorem commentEnd_infix_markerBody {comment : Text} :
    commentEnd <:+: markerBody comment ↔ commentEnd <:+: comment := by
  constructor
  · intro h
    have hend : commentEnd ≠ [] := List.cons_ne_nil _ _
    have hlabel : (" Kombinator: ".toList.all fun c => !commentEnd.contains c) = true := by
      decide +kernel
    have hfront : ∀ c ∈ " Kombinator: ".toList, c ∉ commentEnd := by
      intro c hc
      simpa using List.all_eq_true.mp hlabel c hc
    have hback : ∀ c ∈ [' '], c ∉ commentEnd := by
      intro c hc
      obtain rfl := List.mem_singleton.mp hc
      decide
    exact infix_of_infix_append_left hend hfront (infix_of_infix_append_right hend hback h)
  · intro h
    exact h.trans ⟨_, _, rfl⟩

/-- A marker as a comment between two line ends. -/
def markerForest (comment : Text) (h : ¬commentEnd <:+: comment) : Forest :=
  .leaf (.run ['\n'] isRun_newline) (.leaf
    (.comment (markerBody comment) fun hbody => h (commentEnd_infix_markerBody.mp hbody))
    (.leaf (.run ['\n'] isRun_newline) .nil))

theorem text_markerForest {comment : Text} (h : ¬commentEnd <:+: comment) :
    (markerForest comment h).text = marker comment := by
  rw [marker_eq]
  rfl

theorem isClosed_marker {comment : Text} (h : ¬commentEnd <:+: comment) :
    IsClosed (marker comment) :=
  text_markerForest h ▸ (markerForest comment h).isClosed

theorem place_marker {comment : Text} (h : ¬commentEnd <:+: comment) (n : Nat) (rest : Text) :
    place n (items (marker comment ++ rest)) =
      ⟨n + 1, .comment (markerBody comment) true⟩ ::
        place (n + (marker comment).size) (items rest) := by
  rw [← text_markerForest h]
  exact (markerForest comment h).place_items n rest

/-- The token that begins where the comment of a marker does is that comment only if no `-->` in
the text ends it earlier. -/
theorem not_infix_of_mem_tokens {before rest comment : Text}
    (h : ⟨before.size + 1, .comment (markerBody comment) true⟩ ∈
      tokens (before ++ (marker comment ++ rest))) : ¬commentEnd <:+: comment := by
  have hread := tokenAt?_of_mem h
  have hdoc : before ++ (marker comment ++ rest) = before ++ ['\n'] ++
      (['<', '!', '-', '-'] ++ (markerBody comment ++ (commentEnd ++ ('\n' :: rest)))) := by
    simp [marker_eq]
  have hsize : before.size + 1 = (before ++ ['\n']).size := by
    rw [size_append]
    rfl
  rw [hdoc, hsize, tokenAt?_append_iff] at hread
  obtain ⟨-, after, hread⟩ := hread
  have hcomment := Option.some.inj hread
  rw [Lexeme.readComment] at hcomment
  split at hcomment
  · next body later hbreak =>
    obtain rfl : body = markerBody comment := (Lexeme.comment.inj (Prod.mk.inj hcomment).1).1
    rw [← commentEnd_infix_markerBody]
    exact not_infix_of_breakOn? (by decide) hbreak
  · exact absurd (Lexeme.comment.inj (Prod.mk.inj hcomment).1).2 Bool.false_ne_true

/-! ### Markers of a well-formed component -/

/-- A marker at the end of a template that ends all that it begins. -/
theorem addsComment_of_isClosed {frame : TemplateFrame} (hstable : frame.IsStable)
    {inside comment : Text} (hinside : IsClosed inside) (h : ¬commentEnd <:+: comment) :
    AddsComment (frame.put inside) (frame.put (inside ++ marker comment))
      (frame.before ++ (frame.tag.text ++ inside)).size (markerBody comment)
      (marker comment).size := by
  obtain ⟨front, hfront, htokens⟩ := hstable.tokens
  let start := frame.before.size + frame.tag.text.size
  let own := place start (items inside)
  let later := place (start + inside.size) (items (templateEnd ++ frame.after))
  have hsize : (frame.before ++ (frame.tag.text ++ inside)).size = start + inside.size := by
    rw [size_append, size_append, Nat.add_assoc]
  have hpos := size_pos (Lexeme.opening frame.tag).text_ne_nil
  have hopen : frame.before.size < start := Nat.lt_add_of_pos_right hpos
  rw [hsize]
  refine ⟨front ++ ⟨frame.before.size, .opening frame.tag⟩ :: own, later, ?_, ?_, ?_, ?_⟩
  · rw [htokens, hinside, List.append_assoc, List.cons_append]
  · intro token htoken
    rw [List.mem_append, List.mem_cons] at htoken
    obtain hbefore | rfl | hown := htoken
    · exact (hfront token hbefore).trans (by omega)
    · exact Nat.lt_of_lt_of_le hopen (Nat.le_add_right start _)
    · have hstop := (bounds_of_mem_place hown).2
      have hlength := size_pos token.lexeme.text_ne_nil
      rw [Token.stop] at hstop
      omega
  · exact fun token htoken => (bounds_of_mem_place htoken).1
  · have hlater : later.map (·.shift (marker comment).size) =
        place (start + inside.size + (marker comment).size) (items (templateEnd ++ frame.after)) :=
      (place_shift _ _ _).symm
    rw [htokens, List.append_assoc, hinside, place_marker h, hlater, List.append_assoc,
      List.cons_append]

/-- A well-formed component is a stable frame around its template. -/
theorem exists_frame_of_find? {doc : Forest} {block : TemplateBlock}
    (h : TemplateBlock.find? doc.text = some block) :
    ∃ (frame : TemplateFrame) (inside : Text), doc.text = frame.put inside ∧
      ¬templateEnd <:+: frame.after ∧ frame.IsStable := by
  have hhead := List.mem_of_find?_eq_some (TemplateBlock.head_of_find? h)
  obtain ⟨frame, inside, hdoc, -, hlast, hstable⟩ :=
    TemplateFrame.exists_of_find? h (Forest.tagsEndBefore hhead)
  exact ⟨frame, inside, hdoc, hlast, hstable⟩

/-- The lines of a well-formed body, and the markers after them, end all that they begin. -/
theorem isClosed_inside (body : Forest) {comments : List Text}
    (h : ∀ c ∈ comments, ¬commentEnd <:+: c) :
    IsClosed ('\n' :: body.text ++ ['\n'] ++ comments.flatMap marker) := by
  have hline : IsClosed ['\n'] := (Forest.leaf (.run ['\n'] isRun_newline) .nil).isClosed
  exact ((hline.append body.isClosed).append hline).append
    (.flatMap fun c hc => isClosed_marker (h c hc))

theorem put_append (frame : TemplateFrame) (inside more : Text) :
    frame.put (inside ++ more) =
      frame.before ++ (frame.tag.text ++ inside) ++ (more ++ (templateEnd ++ frame.after)) := by
  simp [TemplateFrame.put]

section

variable [Digest] {file first : ComponentFile}

/-- After a template is put into a well-formed component, and comments without `-->` in them after
it, one more comment is one more token of the text, and no other token changes, if and only if it
does not hold `-->` either. Such a comment leaves every element as it is. -/
theorem addsComment_iff {doc body : Forest} {earlier : List Text} (comment : Text)
    (hcontent : file.content = doc.text) (hset : file.setTemplate body.text = .ok first)
    (hearlier : ∀ c ∈ earlier, ¬commentEnd <:+: c) :
    ∃ before after marked,
      (first.afterCalls (earlier.map .comment)).text = before ++ (templateEnd ++ after) ∧
      (first.afterCalls (earlier.map .comment)).addComment comment = .ok marked ∧
      marked.text = before ++ (marker comment ++ (templateEnd ++ after)) ∧
      ¬templateEnd <:+: after ∧
      (AddsComment (first.afterCalls (earlier.map .comment)).text marked.text before.size
        (markerBody comment) (marker comment).size ↔ ¬commentEnd <:+: comment) ∧
      (¬commentEnd <:+: comment → KeepsElements (first.afterCalls (earlier.map .comment)).text
        marked.text (gap before.size (marker comment).size)) := by
  obtain ⟨block, hblock, -⟩ := bind_eq_ok_iff.mp hset
  have hfind := find?_of_block hblock
  rw [hcontent] at hfind
  obtain ⟨frame, old, hdoc, hlast, hstable⟩ := exists_frame_of_find? hfind
  rw [TemplateFrame.setTemplate_put hstable (hcontent.trans hdoc)] at hset
  have hfirst : first.revised = some (frame.put ('\n' :: body.text ++ ['\n'])) := by
    rw [← Except.ok.inj hset]
  let inside := '\n' :: body.text ++ ['\n'] ++ earlier.flatMap marker
  have hinside : IsClosed inside := isClosed_inside body hearlier
  have hrevised := revised_afterCalls_comments hstable hfirst earlier
  have htext : (first.afterCalls (earlier.map .comment)).text = frame.put inside := by
    rw [text, hrevised, Option.getD_some]
  have hmarked := TemplateFrame.addComment_put hstable hrevised comment
  refine ⟨frame.before ++ (frame.tag.text ++ inside), frame.after, _, ?_, hmarked,
    put_append frame inside (marker comment), hlast, ?_, ?_⟩
  · have hput := put_append frame inside []
    rwa [List.append_nil, ← htext] at hput
  · rw [htext]
    constructor
    · rintro ⟨front, later, -, -, -, htokens⟩
      have htokens : tokens (frame.put (inside ++ marker comment)) = _ := htokens
      rw [put_append] at htokens
      exact not_infix_of_mem_tokens (htokens ▸ List.mem_append_right front List.mem_cons_self)
    · exact addsComment_of_isClosed hstable hinside
  · intro h
    rw [htext]
    exact (addsComment_of_isClosed hstable hinside h).keepsElements

end

/-- The opening tag of a template without attributes. -/
def templateOpening : Opening where
  name := templateName
  attrs := []
  tail := []
  isName := ⟨'t', "emplate".toList, rfl, rfl, List.all_eq_true.mp rfl⟩
  attrs_wellFormed := fun _ ha => absurd ha List.not_mem_nil
  tail_blank := fun _ hc => absurd hc List.not_mem_nil

/-- A component that holds an empty template. -/
def emptyTemplate : Forest := .element templateOpening (by decide) (by decide) .nil .nil

/-- Dashes and tags do not end a comment. -/
theorem addsComment_iff_of_dashes :
    let _ := Digest.multiplicative
    let comment := "a-- ><b>".toList
    let file : ComponentFile := ⟨⟨[]⟩, ⟨[]⟩, none, emptyTemplate.text, none⟩
    ∃ first marked offset, file.setTemplate emptyTemplate.text = .ok first ∧
      (first.afterCalls [.comment "--".toList]).addComment comment = .ok marked ∧
      AddsComment (first.afterCalls [.comment "--".toList]).text marked.text offset
        (markerBody comment) (marker comment).size := by
  intro digest comment file
  let first : ComponentFile :=
    { file with revised := some "<template>\n<template></template>\n</template>".toList }
  have hset : file.setTemplate emptyTemplate.text = .ok first := by decide +kernel
  have hearlier : ∀ c ∈ ["--".toList], ¬commentEnd <:+: c := by decide +kernel
  obtain ⟨before, after, marked, -, hmarked, -, -, hiff, -⟩ :=
    addsComment_iff comment rfl hset hearlier
  exact ⟨first, marked, _, hset, hmarked, hiff.mpr (by decide +kernel)⟩

/-- A comment with `-->` in it ends there, and the tags after that are tags of the component. -/
theorem not_addsComment_of_commentEnd :
    let _ := Digest.multiplicative
    ¬∀ (doc body : Forest) (file first : ComponentFile) (comment : Text),
      file.content = doc.text → file.setTemplate body.text = .ok first →
      ∃ marked offset, first.addComment comment = .ok marked ∧
        AddsComment first.text marked.text offset (markerBody comment) (marker comment).size := by
  intro digest hall
  let comment := "--><b></b>".toList
  let file : ComponentFile := ⟨⟨[]⟩, ⟨[]⟩, none, emptyTemplate.text, none⟩
  let first : ComponentFile :=
    { file with revised := some "<template>\n\n</template>".toList }
  have hset : file.setTemplate (Forest.nil).text = .ok first := by decide +kernel
  obtain ⟨marked, offset, hmarked, front, later, -, -, -, htokens⟩ :=
    hall emptyTemplate .nil file first comment rfl hset
  let final : ComponentFile :=
    { file with revised := some "<template>\n\n\n<!-- Kombinator: --><b></b> -->\n</template>".toList }
  have hfinal : first.addComment comment = .ok final := by decide +kernel
  obtain rfl := Except.ok.inj (hmarked.symm.trans hfinal)
  have hmem : .comment (markerBody comment) true ∈ (tokens final.text).map Token.lexeme := by
    rw [htokens]
    simp
  revert hmem
  decide +kernel

end ComponentFile

end Graft
