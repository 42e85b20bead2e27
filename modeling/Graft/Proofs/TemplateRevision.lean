import Graft.Proofs.Retag
import Graft.Proofs.TemplateSection

/-! A component over any sequence of calls that set its template and add comments to it. Whatever
the new texts hold, the place of the template is found again where it was: the tags before it have
ended, and the `</template>` that ends it stays the last one. -/

namespace Graft

open Text Markup

/-! ### Last occurrences -/

namespace Text

variable {needle t : Text}

theorem not_infix_of_breakOnLast?_eq_none (h : breakOnLast? needle t = none) :
    ¬needle <:+: t := by
  induction t with
  | nil =>
    intro hin
    obtain rfl := List.infix_nil.mp hin
    cases h
  | cons c cs ih =>
    rw [breakOnLast?] at h
    split at h
    · cases h
    · next hlater =>
      split at h
      · cases h
      · next hno =>
        rw [List.infix_cons_iff, not_or, ← List.isPrefixOf_iff_prefix]
        exact ⟨hno, ih hlater⟩

/-- After the last occurrence there is none. -/
theorem not_infix_of_breakOnLast? {c : Char} {cs after : Text}
    (h : breakOnLast? needle (c :: (cs ++ after)) = some ([], c :: (cs ++ after))) :
    ¬needle <:+: after := by
  rw [breakOnLast?] at h
  split at h
  · cases (Prod.mk.inj (Option.some.inj h)).1
  · next hlater =>
    intro hin
    exact not_infix_of_breakOnLast?_eq_none hlater
      (hin.trans (List.suffix_append cs after).isInfix)

end Text

/-! ### The text around a template -/

/-- The text of a component around the body of its template: what stands before the opening tag, the
tag, and what stands after the `</template>`. -/
structure TemplateFrame where
  before : Text
  tag : OpenTag
  after : Text

/-- The template of a component begins at the first opening tag that begins one. -/
theorem TemplateBlock.head_of_find? {doc : Text} {block : TemplateBlock}
    (h : find? doc = some block) :
    ((heads doc).find? fun head => !head.tag.selfClosing && head.name == templateName) =
      some block.head := by
  simp only [find?, Option.bind_eq_bind, Option.bind_eq_some_iff] at h
  obtain ⟨head, hhead, _, -, _, -, hblock⟩ := h
  rw [hhead, ← Option.some.inj hblock]

theorem TemplateBlock.find?_eq_some {doc before tail body rest : Text} {tag : OpenTag}
    (hhead : ((heads doc).find? fun head => !head.tag.selfClosing && head.name == templateName) =
      some ⟨before.size, tag⟩)
    (hdoc : doc = before ++ (tag.text ++ tail))
    (hlast : breakOnLast? templateEnd tail = some (body, rest)) :
    find? doc = some ⟨⟨before.size, tag⟩, before.size + tag.text.size + body.size⟩ := by
  have hstop : Head.stop ⟨before.size, tag⟩ = before.size + tag.text.size := Head.stop_eq _
  have hsplit := splitAt?_append (before ++ tag.text) tail
  rw [size_append, List.append_assoc, ← hdoc] at hsplit
  simp only [find?, hhead, hstop, hsplit, hlast, Option.bind_eq_bind, Option.bind_some]
  rfl

namespace TemplateFrame

variable (frame : TemplateFrame)

/-- The component whose template has the given body. -/
def put (body : Text) : Text :=
  frame.before ++ (frame.tag.text ++ (body ++ (templateEnd ++ frame.after)))

def block (body : Text) : TemplateBlock :=
  ⟨⟨frame.before.size, frame.tag⟩, frame.before.size + frame.tag.text.size + body.size⟩

/-- Whatever body is put into it, a frame stays the text around the template, and the tokens up to
the opening tag stay what they are. -/
structure IsStable : Prop where
  find? : ∀ body, TemplateBlock.find? (frame.put body) = some (frame.block body)
  tokens : ∃ front : List Token, (∀ token ∈ front, token.start < frame.before.size) ∧
    ∀ body, tokens (frame.put body) =
      front ++ ⟨frame.before.size, .opening frame.tag⟩ ::
        place (frame.before.size + frame.tag.text.size)
          (items (body ++ (templateEnd ++ frame.after)))

variable {frame}

/-- The tokens up to the opening tag do not depend on what comes after it. -/
theorem exists_front (frame : TemplateFrame) {after : Text} (hname : frame.tag.name = templateName)
    (hread : Lexeme.read? (frame.tag.text ++ after) = some (.opening frame.tag, after))
    (hends : EndsBefore (frame.tag.text ++ after) frame.before) :
    ∃ front : List Token, (∀ token ∈ front, token.start < frame.before.size) ∧
      ∀ after', tokens (frame.before ++ (frame.tag.text ++ after')) =
        front ++ ⟨frame.before.size, .opening frame.tag⟩ ::
          place (frame.before.size + frame.tag.text.size) (items after') := by
  have hplace (after' : Text) :
      place frame.before.size (items (frame.tag.text ++ after')) =
        ⟨frame.before.size, .opening frame.tag⟩ ::
          place (frame.before.size + frame.tag.text.size) (items after') := by
    have hraw : (Lexeme.opening frame.tag).rawName? = none := by
      rw [Lexeme.rawName?, opensRaw_template hname]
      rfl
    exact place_lexeme _ (Lexeme.read?_replace hread rfl after') rfl hraw
  have hbegins (after' : Text) : BeginsTag (frame.tag.text ++ after') :=
    beginsTag_of_read? (Lexeme.read?_replace hread rfl after')
  obtain ⟨front, hfront, hdoc, -⟩ := hends.exists_front (hbegins after) (hbegins after) 0
  rw [Nat.zero_add] at hfront hdoc
  refine ⟨front, hfront, fun after' => ?_⟩
  obtain ⟨front', -, hdoc', hput⟩ := hends.exists_front (hbegins after) (hbegins after') 0
  rw [Nat.zero_add] at hdoc' hput
  obtain rfl := List.append_cancel_right (hdoc.symm.trans hdoc')
  rw [← hplace, ← hput]
  rfl

/-- A component with a template, all tags before which have ended, is a stable frame around the body
of the template. -/
theorem exists_of_find? {doc : Text} {block : TemplateBlock}
    (h : TemplateBlock.find? doc = some block) (hends : TagsEndBefore doc block.head.start) :
    ∃ frame body, doc = put frame body ∧ block = frame.block body ∧
      ¬templateEnd <:+: frame.after ∧ frame.IsStable := by
  obtain ⟨before, body, after, hdoc, hstart, hclose, hlast⟩ := TemplateBlock.exists_cut h
  obtain ⟨⟨start, tag⟩, closeStart⟩ := block
  obtain rfl : start = before.size := hstart
  obtain rfl : closeStart = before.size + tag.text.size + body.size := by
    rw [← Head.stop_eq ⟨before.size, tag⟩]
    exact hclose
  have hhead := TemplateBlock.head_of_find? h
  let frame : TemplateFrame := ⟨before, tag, after⟩
  have hend : breakOnLast? templateEnd (templateEnd ++ after) = some ([], templateEnd ++ after) := by
    obtain ⟨front, hfront, hend⟩ := breakOnLast?_of_append hlast (Nat.le_refl _)
    obtain rfl : front = [] := List.append_right_eq_self.mp hfront.symm
    exact hend
  have hread : Lexeme.read? (tag.text ++ (body ++ (templateEnd ++ after))) =
      some (.opening tag, body ++ (templateEnd ++ after)) := by
    obtain ⟨before', read, after', hdoc', hstart', hread⟩ :=
      reads_of_mem_heads (List.mem_of_find?_eq_some hhead)
    obtain ⟨rfl, rfl⟩ := eq_of_append_of_size (hdoc.symm.trans hdoc') (by simpa using hstart')
    have hafter := Lexeme.eq_append_of_read? hread
    rw [hread, List.append_cancel_left hafter]
  have hends : EndsBefore (tag.text ++ (body ++ (templateEnd ++ after))) before := by
    obtain ⟨before', rest, hdoc', hstart', hends⟩ := hends
    obtain ⟨rfl, rfl⟩ := eq_of_append_of_size (hdoc.symm.trans hdoc') hstart'
    exact hends
  have hadmits := List.find?_some hhead
  rw [Bool.and_eq_true, Bool.not_eq_true', beq_iff_eq] at hadmits
  obtain ⟨front, hfront, htokens⟩ := exists_front frame hadmits.2 hread hends
  refine ⟨frame, body, hdoc, rfl, not_infix_of_breakOnLast? hend, fun body' => ?_, front,
    hfront, fun _ => htokens _⟩
  have hlast' := breakOnLast?_append body' hend
  rw [List.append_nil] at hlast'
  rw [hdoc] at hhead
  refine TemplateBlock.find?_eq_some ?_ rfl hlast'
  exact find?_heads_of_tokens hfront (htokens _) (htokens _) rfl hhead

/-! ### One call -/

section Calls

variable [Digest] {file : ComponentFile} {inside : Text}

theorem setTemplate_put (hstable : frame.IsStable) (hcontent : file.content = frame.put inside)
    (body : Text) : file.setTemplate body =
      .ok { file with revised := some (frame.put ('\n' :: body ++ ['\n'])) } := by
  have hblock : file.block file.content = .ok (frame.block inside) := by
    rw [ComponentFile.block, hcontent, hstable.find? inside]
  have hopen : file.content.slice (frame.block inside).head.start (frame.block inside).head.stop =
      frame.tag.text := by
    rw [hcontent]
    exact slice_of_eq rfl rfl (Head.stop_eq _)
  have hcut : file.content =
      frame.before ++ (frame.tag.text ++ inside ++ templateEnd ++ frame.after) := by
    simp [hcontent, put]
  have hstart : (frame.block inside).head.start = frame.before.size := rfl
  have hstop : (frame.block inside).stop =
      frame.before.size + (frame.tag.text ++ inside ++ templateEnd).size := by
    simp [TemplateBlock.stop, block, Nat.add_assoc]
  obtain ⟨did, happly⟩ := applyTo_replacement hcut hstart hstop
    (frame.tag.text ++ '\n' :: body ++ '\n' :: templateEnd)
  rw [ComponentFile.setTemplate, hblock]
  simp only [bind, Except.bind, hopen]
  rw [happly]
  simp [put, Except.mapError, pure, Except.pure]

theorem addComment_put (hstable : frame.IsStable) (hrevised : file.revised = some (frame.put inside))
    (comment : Text) : file.addComment comment =
      .ok { file with revised := some (frame.put (inside ++ ComponentFile.marker comment)) } := by
  have hblock : file.block (frame.put inside) = .ok (frame.block inside) := by
    rw [ComponentFile.block, hstable.find? inside]
  have hcut : frame.put inside =
      frame.before ++ frame.tag.text ++ inside ++ (templateEnd ++ frame.after) := by
    simp [put]
  have hoffset : (frame.block inside).closeStart =
      (frame.before ++ frame.tag.text ++ inside).size := by
    simp [block, Nat.add_assoc]
  obtain ⟨did, happly⟩ := applyTo_insertion_of_eq hcut hoffset (ComponentFile.marker comment)
  rw [ComponentFile.addComment, hrevised]
  simp only [bind, Except.bind, hblock]
  rw [happly]
  simp [put, Except.mapError, pure, Except.pure]

end Calls

end TemplateFrame

/-! ### Any calls -/

/-- A call that puts a text into the template of a component. -/
inductive TemplateCall
  | template (body : Text)
  | comment (comment : Text)
  deriving DecidableEq, Repr

namespace ComponentFile

section

variable [Digest]

def call (file : ComponentFile) : TemplateCall → Except ComponentError ComponentFile
  | .template body => file.setTemplate body
  | .comment comment => file.addComment comment

/-- The component after some calls, of which each that fails leaves it as it is. -/
def afterCalls (file : ComponentFile) (calls : List TemplateCall) : ComponentFile :=
  calls.foldl (fun file call => (file.call call).toOption.getD file) file

/-- The text around the template of a component is a frame, before and after its revision. -/
structure HasFrame (file : ComponentFile) (frame : TemplateFrame) : Prop where
  content : ∃ inside, file.content = frame.put inside
  revised : ∀ current ∈ file.revised, ∃ inside, current = frame.put inside

variable {file : ComponentFile} {frame : TemplateFrame}

theorem afterCalls_append (calls calls' : List TemplateCall) :
    file.afterCalls (calls ++ calls') = (file.afterCalls calls).afterCalls calls' :=
  List.foldl_append

theorem afterCalls_cons_of_ok {file' : ComponentFile} {call : TemplateCall}
    (h : file.call call = .ok file') (calls : List TemplateCall) :
    file.afterCalls (call :: calls) = file'.afterCalls calls := by
  rw [afterCalls, List.foldl_cons, h]
  rfl

theorem afterCalls_concat (calls : List TemplateCall) (call : TemplateCall) :
    file.afterCalls (calls ++ [call]) =
      ((file.afterCalls calls).call call).toOption.getD (file.afterCalls calls) := by
  rw [afterCalls_append]
  rfl

/-- A comment alone needs a template that has been set before it. -/
theorem HasFrame.exists_call (hframe : file.HasFrame frame) (hstable : frame.IsStable)
    {call : TemplateCall} (hcall : ∀ comment, call = .comment comment → file.revised.isSome) :
    ∃ file', file.call call = .ok file' ∧ file'.HasFrame frame ∧ file'.revised.isSome := by
  cases call with
  | template body =>
    obtain ⟨inside, hinside⟩ := hframe.content
    exact ⟨_, TemplateFrame.setTemplate_put hstable hinside body,
      ⟨hframe.content, by rintro _ ⟨⟩; exact ⟨_, rfl⟩⟩, rfl⟩
  | comment comment =>
    obtain ⟨current, hcurrent⟩ := Option.isSome_iff_exists.mp (hcall comment rfl)
    obtain ⟨inside, rfl⟩ := hframe.revised current hcurrent
    exact ⟨_, TemplateFrame.addComment_put hstable hcurrent comment,
      ⟨hframe.content, by rintro _ ⟨⟩; exact ⟨_, rfl⟩⟩, rfl⟩

theorem call_comment_eq_error (h : file.revised = none) (comment : Text) :
    file.call (.comment comment) = .error .templateNotSet := by
  rw [call, addComment, h]
  rfl

theorem afterCalls_of_no_template (h : file.revised = none) {calls : List TemplateCall}
    (hcalls : ∀ body, .template body ∉ calls) : file.afterCalls calls = file := by
  induction calls using List.reverseRecOn with
  | nil => rfl
  | append_singleton calls call ih =>
    have hsame := ih fun body hmem => hcalls body (List.mem_append_left _ hmem)
    cases call with
    | template body => exact absurd (List.mem_append_right calls List.mem_cons_self) (hcalls body)
    | comment comment =>
      rw [afterCalls_concat, hsame, call_comment_eq_error h]
      rfl

/-- Calls keep the text around the template, and a template that has been set stays set. -/
theorem HasFrame.afterCalls (hframe : file.HasFrame frame) (hstable : frame.IsStable)
    (calls : List TemplateCall) : (file.afterCalls calls).HasFrame frame ∧
      ∀ body, .template body ∈ calls → (file.afterCalls calls).revised.isSome := by
  induction calls using List.reverseRecOn with
  | nil => exact ⟨hframe, fun body hmem => absurd hmem List.not_mem_nil⟩
  | append_singleton calls call ih =>
    obtain ⟨hkept, hset⟩ := ih
    rw [afterCalls_concat]
    by_cases hcall : ∀ comment, call = .comment comment → (file.afterCalls calls).revised.isSome
    · obtain ⟨file', hok, hframe', hrevised⟩ := hkept.exists_call hstable hcall
      rw [hok]
      exact ⟨hframe', fun _ _ => hrevised⟩
    · simp only [not_forall] at hcall
      obtain ⟨comment, rfl, hnone⟩ := hcall
      rw [call_comment_eq_error (by simpa using hnone)]
      refine ⟨hkept, fun body hmem => hset body ?_⟩
      simpa using hmem

theorem revised_afterCalls_comments (hstable : frame.IsStable) {inside : Text}
    (h : file.revised = some (frame.put inside)) (comments : List Text) :
    (file.afterCalls (comments.map .comment)).revised =
      some (frame.put (inside ++ comments.flatMap marker)) := by
  induction comments generalizing file inside with
  | nil => rw [List.flatMap_nil, List.append_nil]; exact h
  | cons comment comments ih =>
    have hok : file.call (.comment comment) =
        .ok { file with revised := some (frame.put (inside ++ marker comment)) } :=
      TemplateFrame.addComment_put hstable h comment
    rw [List.map_cons, afterCalls_cons_of_ok hok, List.flatMap_cons, ← List.append_assoc]
    exact ih rfl

/-- A component text after any calls, whatever they put into the template. Where every tag before
the template has ended, only a comment that comes before the first template is refused, and the
text is the original one with the last template that was set and the comments since then. -/
theorem text_afterCalls {block : TemplateBlock} (hrevised : file.revised = none)
    (hfind : TemplateBlock.find? file.content = some block)
    (hends : TagsEndBefore file.content block.head.start) :
    ∃ before inside after : Text,
      file.content = before ++ (block.head.tag.text ++ (inside ++ (templateEnd ++ after))) ∧
      block.head.start = before.size ∧ ¬templateEnd <:+: after ∧
      (∀ calls, (∀ body, .template body ∉ calls) → file.afterCalls calls = file ∧
        ∀ comment, (file.afterCalls calls).addComment comment = .error .templateNotSet) ∧
      (∀ calls call, (∀ comment, call = .comment comment → ∃ body, .template body ∈ calls) →
        (file.afterCalls calls).call call = .ok (file.afterCalls (calls ++ [call]))) ∧
      ∀ calls body (comments : List Text),
        (file.afterCalls (calls ++ .template body :: comments.map .comment)).text =
          before ++ (block.head.tag.text ++ ('\n' :: body ++ '\n' :: (comments.flatMap marker ++
            (templateEnd ++ after)))) := by
  obtain ⟨frame, inside, hcontent, rfl, hlast, hstable⟩ :=
    TemplateFrame.exists_of_find? hfind hends
  have hframe : file.HasFrame frame := ⟨⟨inside, hcontent⟩, by simp [hrevised]⟩
  refine ⟨frame.before, inside, frame.after, hcontent, rfl, hlast, ?_, ?_, ?_⟩
  · intro calls hcalls
    have hsame := afterCalls_of_no_template hrevised hcalls
    refine ⟨hsame, fun comment => ?_⟩
    rw [hsame]
    exact call_comment_eq_error hrevised comment
  · intro calls call hcall
    obtain ⟨hkept, hset⟩ := hframe.afterCalls hstable calls
    obtain ⟨file', hok, -⟩ := hkept.exists_call hstable fun comment hcomment => by
      obtain ⟨body, hmem⟩ := hcall comment hcomment
      exact hset body hmem
    rw [afterCalls_concat, hok]
    rfl
  · intro calls body comments
    obtain ⟨inside', hcontent'⟩ := (hframe.afterCalls hstable calls).1.content
    have hset : (file.afterCalls calls).call (.template body) =
        .ok { file.afterCalls calls with revised := some (frame.put ('\n' :: body ++ ['\n'])) } :=
      TemplateFrame.setTemplate_put hstable hcontent' body
    have htext : (file.afterCalls (calls ++ .template body :: comments.map .comment)).revised =
        some (frame.put ('\n' :: body ++ ['\n'] ++ comments.flatMap marker)) := by
      rw [afterCalls_append, afterCalls_cons_of_ok hset]
      exact revised_afterCalls_comments hstable rfl comments
    rw [text, htext]
    simp [TemplateFrame.put, TemplateFrame.block]

end

/-- A template that a comment with an opening tag in it comes before, in a component with a second
`</template>` after the first. -/
theorem text_afterCalls_of_comment :
    let _ := Digest.multiplicative
    let doc := "<!-- <template> --><template a='>'><b></template></template>é".toList
    let file : ComponentFile := ⟨⟨[]⟩, ⟨[]⟩, none, doc, none⟩
    (∀ comment, file.addComment comment = .error .templateNotSet) ∧
    ∃ before after : Text, before.size = 19 ∧ ¬templateEnd <:+: after ∧
      ∀ calls body (comments : List Text),
        (file.afterCalls (calls ++ .template body :: comments.map .comment)).text =
          before ++ ("<template a='>'>".toList ++ ('\n' :: body ++ '\n' ::
            (comments.flatMap marker ++ (templateEnd ++ after)))) := by
  intro digest doc file
  let block : TemplateBlock := ⟨⟨19, ⟨templateName, " a='>'".toList, false⟩⟩, 49⟩
  have hfind : TemplateBlock.find? doc = some block := by decide +kernel
  have hends : TagsEndBefore doc 19 := by
    let comment : Lexeme := .comment " <template> ".toList true
    have hcomment : EndsBefore "<template a='>'><b></template></template>é".toList
        (comment.text ++ ([] ++ [])) := .lexeme (by decide +kernel) (by decide +kernel) .nil
    exact ⟨_, _, by decide +kernel, by decide +kernel, hcomment⟩
  have hrevised : file.revised = none := rfl
  obtain ⟨before, inside, after, -, hstart, hlast, hrefused, -, htext⟩ :=
    text_afterCalls hrevised hfind hends
  exact ⟨(hrefused [] fun body => List.not_mem_nil).2, before, after, hstart.symm, hlast, htext⟩

end ComponentFile

end Graft
