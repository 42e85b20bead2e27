import Graft.Proofs.ElementEnd

/-! The tokens that are read from any offset on: they come one after the other, each is the one that
is read where it begins, all their offsets lie between characters, and reading again from one of
them gives it and those after it. -/

namespace Graft.Markup

open Text

variable {doc : Text} {start : Nat}

/-- The offsets of a token: where it and its name begin and end, and where the delimiter of an
opening tag begins. -/
def Token.offsets (token : Token) : List Nat :=
  match token.lexeme with
  | .opening tag =>
    let head : Head := ⟨token.start, tag⟩
    [head.start, head.nameStart, head.nameEnd, head.delimiterStart, head.stop]
  | .closing tag =>
    [token.start, token.start + 2, token.start + 2 + tag.name.size, token.stop]
  | .comment _ _ | .declaration _ _ => [token.start, token.stop]

/-- The offsets of an opening tag come in order, and the last two tell how it ends. -/
structure Head.InOrder (doc : Text) (head : Head) : Prop where
  start_lt_nameStart : head.start < head.nameStart
  nameStart_lt_nameEnd : head.nameStart < head.nameEnd
  nameEnd_le_delimiterStart : head.nameEnd ≤ head.delimiterStart
  delimiterStart_lt_stop : head.delimiterStart < head.stop
  last : doc.slice? (head.stop - 1) head.stop = some ['>']
  selfClosing_iff : head.tag.selfClosing = true ↔ head.delimiterStart = head.stop - 2

/-- A token stands in a document, is the one that is read there, and has its offsets between
characters. -/
structure Token.StandsIn (doc : Text) (token : Token) : Prop where
  start_lt_stop : token.start < token.stop
  stop_le : token.stop ≤ doc.size
  isBoundary : ∀ n ∈ token.offsets, doc.isBoundary n = true
  tokenAt : tokenAt? doc token.start = some token
  opening : ∀ head, token.head? = some head → head.InOrder doc

/-! ### One token -/

/-- An opening tag ends with `>`, before which `/` stands exactly when it is self-closing. -/
theorem Head.inOrder_of_read? {before rest after : Text} {head : Head} (hdoc : doc = before ++ rest)
    (hstart : head.start = before.size)
    (hread : Lexeme.read? rest = some (.opening head.tag, after)) : head.InOrder doc := by
  have hrest : rest = head.tag.text ++ after := Lexeme.eq_append_of_read? hread
  have hname : 0 < head.tag.name.size := by
    obtain ⟨c, cs, hcons, -, -⟩ := Lexeme.isTagName_of_read? hread
    refine size_pos ?_
    rw [hcons]
    exact List.cons_ne_nil c cs
  obtain ⟨front, hfront⟩ : ∃ front, head.tag.text = front ++ ['>'] := by
    rw [OpenTag.text, OpenTag.delimiter]
    split
    · exact ⟨'<' :: (head.tag.name ++ head.tag.inner ++ ['/']), by simp⟩
    · exact ⟨'<' :: (head.tag.name ++ head.tag.inner), by simp⟩
  have hstop : head.stop = (before ++ front).size + 1 := by
    rw [stop_eq, hfront, hstart, size_append, size_append]
    rfl
  constructor
  case start_lt_nameStart => exact Nat.lt_succ_self head.start
  case nameStart_lt_nameEnd =>
    rw [nameEnd]
    omega
  case nameEnd_le_delimiterStart => exact Nat.le_add_right head.nameEnd _
  case delimiterStart_lt_stop =>
    have hdelimiter := head.tag.delimiter_size_pos
    rw [stop]
    omega
  case last =>
    have hcut : doc = before ++ front ++ (['>'] ++ after) := by
      rw [hdoc, hrest, hfront]
      simp
    refine slice?_of_eq hcut ?_ ?_
    · omega
    · rw [hstop]
      rfl
  case selfClosing_iff =>
    have hdelimiter : head.tag.delimiter.size = if head.tag.selfClosing then 2 else 1 := by
      rw [OpenTag.delimiter]
      split <;> rfl
    have hpos : 0 < head.delimiterStart := by
      rw [delimiterStart, nameEnd]
      omega
    rw [stop, hdelimiter]
    split
    · simp [*]
    · simp [*]
      omega

theorem Token.isBoundary_offsets {before rest after : Text} {token : Token}
    (hdoc : doc = before ++ rest) (hstart : token.start = before.size)
    (hread : Lexeme.read? rest = some (token.lexeme, after)) :
    ∀ n ∈ token.offsets, doc.isBoundary n = true := by
  have hrest := Lexeme.eq_append_of_read? hread
  have hfirst : doc.isBoundary token.start = true := isBoundary_of_eq hdoc hstart
  have hlast : doc.isBoundary token.stop = true := by
    have hcut : doc = before ++ token.lexeme.text ++ after := by
      rw [hdoc, hrest, List.append_assoc]
    refine isBoundary_of_eq hcut ?_
    rw [stop, hstart, size_append]
  obtain ⟨start, lexeme⟩ := token
  cases lexeme with
  | comment body ended => simp [offsets, hfirst, hlast]
  | declaration body ended => simp [offsets, hfirst, hlast]
  | closing tag =>
    have hcut : doc = before ++ ['<', '/'] ++ (tag.name ++ (tag.junk ++ ['>'] ++ after)) := by
      rw [hdoc, hrest]
      simp [Lexeme.text, CloseTag.text]
    have hcut' : doc = before ++ ['<', '/'] ++ tag.name ++ (tag.junk ++ ['>'] ++ after) := by
      rw [hcut, List.append_assoc _ tag.name]
    have hname : start + 2 = (before ++ ['<', '/']).size := by
      rw [size_append, ← hstart]
      rfl
    simp only [offsets, List.forall_mem_cons]
    refine ⟨hfirst, isBoundary_of_eq hcut hname, isBoundary_of_eq hcut' ?_, hlast, by simp⟩
    rw [size_append, ← hname]
  | opening tag =>
    let head : Head := ⟨start, tag⟩
    have htext : doc = before ++ (tag.text ++ after) := by
      rw [hdoc, hrest]
      rfl
    have hname := htext.trans (tag.append_name before after)
    have hinner := htext.trans (tag.append_text before after)
    have hdelimiter : doc = before ++ '<' :: tag.name ++ tag.inner ++ (tag.delimiter ++ after) := by
      rw [hinner, List.append_assoc _ tag.inner]
    simp only [offsets, List.forall_mem_cons]
    refine ⟨hfirst, isBoundary_of_eq hname (head.nameStart_eq hstart),
      isBoundary_of_eq hinner (head.nameEnd_eq hstart), isBoundary_of_eq hdelimiter ?_, ?_,
      by simp⟩
    · rw [Head.delimiterStart, head.nameEnd_eq hstart, size_append _ tag.inner]
    · rw [Head.stop_eq]
      exact hlast

theorem Token.standsIn_of_read? {before rest after : Text} {token : Token}
    (hdoc : doc = before ++ rest) (hstart : token.start = before.size)
    (hread : Lexeme.read? rest = some (token.lexeme, after)) : token.StandsIn doc := by
  have hrest := Lexeme.eq_append_of_read? hread
  have hpos : 0 < token.lexeme.text.size := size_pos token.lexeme.text_ne_nil
  constructor
  case start_lt_stop =>
    rw [stop]
    omega
  case stop_le =>
    rw [stop, hdoc, hrest, hstart, size_append, size_append]
    omega
  case isBoundary => exact isBoundary_offsets hdoc hstart hread
  case tokenAt =>
    rw [hdoc, hstart, tokenAt?_append_iff]
    exact ⟨hstart, after, hread⟩
  case opening =>
    intro head hhead
    obtain rfl := head?_eq_some_iff.mp hhead
    exact Head.inOrder_of_read? hdoc hstart hread

/-! ### The tokens from an offset on -/

/-- Tokens are read from every offset that is not inside a character. -/
theorem isSome_tokensFrom? : (tokensFrom? doc start).isSome = true ↔
    doc.isBoundary start = true ∨ doc.size ≤ start := by
  unfold tokensFrom?
  split
  · next hpast => simp [hpast]
  · next hpast => simp [hpast, isBoundary]

/-- The tokens from an offset on are those of the text that begins there. -/
theorem tokensFrom?_eq_some {ts : List Token} (h : tokensFrom? doc start = some ts) :
    ts = [] ∨ ∃ before rest, doc = before ++ rest ∧ start = before.size ∧
      ts = place before.size (items rest) := by
  unfold tokensFrom? at h
  split at h
  · exact .inl (Option.some.inj h).symm
  · obtain ⟨⟨before, rest⟩, hsplit, rfl⟩ := Option.map_eq_some_iff.mp h
    obtain ⟨rfl, rfl⟩ := eq_append_of_splitAt? hsplit
    exact .inr ⟨before, rest, rfl, rfl, rfl⟩

theorem tokensFrom?_zero (doc : Text) : tokensFrom? doc 0 = some (tokens doc) :=
  tokensFrom?_append [] doc

theorem standsIn_of_mem_place {before rest : Text} {token : Token} (hdoc : doc = before ++ rest)
    (h : token ∈ place before.size (items rest)) : token.StandsIn doc := by
  obtain ⟨between, tail, after, rfl, hstart, hread⟩ := reads_of_mem_place h
  have hcut : doc = before ++ between ++ tail := by
    rw [hdoc, List.append_assoc]
  refine Token.standsIn_of_read? hcut ?_ hread
  rw [hstart, size_append]

/-- Reading again from a token gives it and those after it. -/
theorem tokensFrom?_of_place_append {before rest : Text} {front later : List Token} {token : Token}
    (h : place before.size (items rest) = front ++ token :: later) :
    tokensFrom? (before ++ rest) token.start = some (token :: later) := by
  obtain ⟨between, tail, after, rfl, hstart, -, hplace⟩ := exists_of_place_append h
  have hsize : token.start = (before ++ between).size := by
    rw [hstart, size_append]
  rw [← List.append_assoc, hsize, tokensFrom?_append, ← hsize, hplace]

/-- Whatever the document, tokens are read from every offset but those inside characters. They come
one after the other, each stands in the document and is the one that is read where it begins, and
reading again from one of them gives it and those after it. -/
theorem tokensFrom?_inOrder (doc : Text) :
    tokensFrom? doc 0 = some (tokens doc) ∧ ∀ start,
      ((tokensFrom? doc start).isSome = true ↔ doc.isBoundary start = true ∨ doc.size ≤ start) ∧
      ∀ ts, tokensFrom? doc start = some ts →
        ts.Pairwise (fun token later => token.stop ≤ later.start) ∧
        (∀ token ∈ ts, start ≤ token.start ∧ token.StandsIn doc) ∧
        ∀ front token later, ts = front ++ token :: later →
          tokensFrom? doc token.start = some (token :: later) := by
  refine ⟨tokensFrom?_zero doc, fun start => ⟨isSome_tokensFrom?, fun ts hts => ?_⟩⟩
  obtain rfl | ⟨before, rest, hdoc, hstart, rfl⟩ := tokensFrom?_eq_some hts
  · simp
  refine ⟨pairwise_place _ rest, fun token hmem => ⟨?_, standsIn_of_mem_place hdoc hmem⟩, ?_⟩
  · rw [hstart]
    exact (bounds_of_mem_place hmem).1
  · intro front token later hplace
    rw [hdoc]
    exact tokensFrom?_of_place_append hplace

/-- From the middle of a document on: a `>` in a value, raw content, and a comment that is never
ended. -/
theorem tokensFrom?_inOrder_raw :
    let doc := "é<p a='ü>'/><script><b></script ><!--ü".toList
    ∃ first raw close comment, tokensFrom? doc 2 = some [first, raw, close, comment] ∧
      [first, raw, close, comment].Pairwise (fun token later => token.stop ≤ later.start) ∧
      (∀ token ∈ [first, raw, close, comment], 2 ≤ token.start ∧ token.StandsIn doc) ∧
      tokensFrom? doc raw.start = some [raw, close, comment] := by
  intro doc
  let tag : OpenTag := ⟨['p'], " a='ü>'".toList, true⟩
  let script : OpenTag := ⟨"script".toList, [], false⟩
  let ts : List Token := [⟨2, .opening tag⟩, ⟨14, .opening script⟩,
    ⟨25, .closing ⟨"script".toList, [' ']⟩⟩, ⟨35, .comment ['ü'] false⟩]
  have hread : tokensFrom? doc 2 = some ts := by decide +kernel
  obtain ⟨-, hall⟩ := tokensFrom?_inOrder doc
  obtain ⟨hapart, hstands, hagain⟩ := (hall 2).2 ts hread
  exact ⟨_, _, _, _, hread, hapart, hstands, hagain [⟨2, .opening tag⟩] _ _ rfl⟩

end Graft.Markup
