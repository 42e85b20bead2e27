import Graft.Text

/-!
Patterns as the rest of the library uses them.

How patterns are written and matched is left to an engine. Whatever it is, a text is read as a
pattern or refused, in the same way whenever it is read.
-/

namespace Graft

/-- A pattern that was read: what becomes of a text when a replacement is put in place of each of
its matches. -/
structure Matcher where
  replaceAll : (text replacement : Text) → Text

/-- The reading of patterns, with what is wrong with a text that is refused. -/
class Patterns where
  read : Text → Except Text Matcher

end Graft
