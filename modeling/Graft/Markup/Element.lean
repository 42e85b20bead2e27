import Graft.Markup.Token

/-!
The pairing of opening tags with their closing tags.

A closing tag closes the innermost open element of its name and everything inside that one; where
no open element has its name, it counts for nothing.
-/

namespace Graft.Markup

/-- A range of byte offsets `[start, stop)`. -/
structure Range where
  start : Nat
  stop : Nat
  deriving DecidableEq, Repr

/-- How an element ends: with a closing tag, with the `/>` of its only tag, or, when it is void,
with that tag and no more. -/
inductive Closing
  | explicit (range : Range)
  | selfClosing (range : Range)
  | void
  deriving DecidableEq, Repr

/-- An element: its opening tag and how it ends. -/
structure Bounds where
  head : Head
  closing : Closing
  deriving DecidableEq, Repr

namespace Bounds

/-- The element that a tag makes up by itself, when it opens no content. -/
def alone? (head : Head) : Option Bounds :=
  if head.tag.selfClosing then some ⟨head, .selfClosing ⟨head.stop - 2, head.stop⟩⟩
  else if head.tag.isVoid then some ⟨head, .void⟩
  else none

/-- The first element that the tokens complete, where `opened` are the tags still open, the
innermost first. -/
def match? (opened : List Head) : List Token → Option Bounds
  | [] => none
  | token :: rest =>
    match token.lexeme with
    | .opening tag =>
      let head : Head := ⟨token.start, tag⟩
      match alone? head, opened with
      | none, _ => match? (head :: opened) rest
      | some bounds, [] => some bounds
      | some _, _ :: _ => match? opened rest
    | .closing tag =>
      match opened.dropWhile (fun head => head.name != tag.name) with
      | [] => match? opened rest
      | [head] => some ⟨head, .explicit ⟨token.start, token.stop⟩⟩
      | _ :: outer => match? outer rest
    | _ => match? opened rest

end Bounds

/-- The first element that opens at or after an offset; no answer when the offset lies inside a
character. -/
def elementFrom? (doc : Text) (start : Nat) : Option (Option Bounds) :=
  (tokensFrom? doc start).map (Bounds.match? [])

/-- The element that an opening tag of the document begins. -/
def elementOf? (doc : Text) (head : Head) : Option Bounds := (elementFrom? doc head.start).join

end Graft.Markup
