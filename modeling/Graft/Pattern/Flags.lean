import Graft.Text.Blank

/-!
The ways of reading that a pattern can switch, and the filler between the parts of a pattern.
-/

namespace Graft.Pattern

open Text

/-- The ways of reading: ignore case, let `^` and `$` match at lines, let `.` match the ends of
lines, swap greedy and reluctant repetitions, end lines also with a carriage return, allow filler,
and take characters in the Unicode sense. -/
structure Flags where
  ignoreCase : Bool := false
  lines : Bool := false
  dotAll : Bool := false
  swapGreed : Bool := false
  carriageReturn : Bool := false
  filler : Bool := false
  unicode : Bool := true

namespace Flags

/-- The flags with one of them switched. -/
def switch? (flags : Flags) (c : Char) (on : Bool) : Option Flags :=
  match c with
  | 'i' => some { flags with ignoreCase := on }
  | 'm' => some { flags with lines := on }
  | 's' => some { flags with dotAll := on }
  | 'U' => some { flags with swapGreed := on }
  | 'R' => some { flags with carriageReturn := on }
  | 'x' => some { flags with filler := on }
  | 'u' => some { flags with unicode := on }
  | _ => none

/-- The flags after letters that switch them on and off, and the text from the `:` or `)` that ends
the letters. No letter comes twice, and at most one hyphen, which letters must follow. -/
def read? (flags : Flags) (on : Bool) (seen : Text) : Text → Option (Flags × Text)
  | ':' :: cs => if seen.head? = some '-' then none else some (flags, ':' :: cs)
  | ')' :: cs =>
    if seen.isEmpty ∨ seen.head? = some '-' then none else some (flags, ')' :: cs)
  | '-' :: cs => if on then read? flags false ('-' :: seen) cs else none
  | c :: cs =>
    if seen.contains c then none
    else do read? (← flags.switch? c on) on (c :: seen) cs
  | [] => none

/-! ### Filler -/

/-- The text after white space and comments, each of which ends with its line. -/
def afterFiller (inComment : Bool) : Text → Text
  | [] => []
  | c :: cs =>
    if inComment then afterFiller (c ≠ '\n') cs
    else if isSpace c then afterFiller false cs
    else if c = '#' then afterFiller true cs
    else c :: cs

variable (flags : Flags)

/-- The text after any filler that is allowed. -/
def skipFiller (cs : Text) : Text := if flags.filler then afterFiller false cs else cs

/-- The characters of a kind at the front of a text with the filler before, between and after them
left out, and the text after them. -/
def takeSpaced (p : Char → Bool) (inComment : Bool) : Text → Text × Text
  | [] => ([], [])
  | c :: cs =>
    if inComment then takeSpaced p (c ≠ '\n') cs
    else if flags.filler && isSpace c then takeSpaced p false cs
    else if flags.filler && c = '#' then takeSpaced p true cs
    else if p c then
      let (taken, rest) := takeSpaced p false cs
      (c :: taken, rest)
    else ([], c :: cs)

end Flags

end Graft.Pattern
