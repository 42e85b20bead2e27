import Graft.Text.Property

/-!
The characters of words, of numbers and of names, in the Unicode sense.
-/

namespace Graft.Text

/-- The decimal digits of all scripts. -/
def digitRanges : Ranges := ofCategories ["nd"]

/-- The characters of words: letters, marks, decimal digits, connecting punctuation and the joiners
of adjacent characters. -/
def wordRanges : Ranges :=
  Ranges.unions [alphabetic, ofCategories ["mn", "mc", "me", "nd", "pc"], written "joincontrol"]

def isWordChar (c : Char) : Bool := wordRanges.contains c.toNat

/-- A character of words in the narrow sense: a letter from `a` to `z` in either case, a digit from
`0` to `9`, or an underscore. -/
def isAsciiWordChar (c : Char) : Bool := c.isAlphanum || c = '_'

/-- The letters of names, those of the latest version of Unicode among them. -/
def letterRanges : Ranges :=
  alphabetic.union (Ranges.ofLines [
    "88F C5C CDC A7CE-A7CF A7D2 A7D4 A7F1 10940-10959 10EC5-10EC7 10EFA-10EFB 11B60-11B67",
    "11DB0-11DDB 16EA0-16EB8 16EBB-16ED3 16FF2-16FF6 187F8-187FF 18D09-18D1E 18D80-18DF2",
    "1E6C0-1E6DE 1E6E0-1E6F5 1E6FE-1E6FF 2B73A-2B73F 2CEA2-2CEAD 323B0-33479"])

/-- The characters of numbers of all kinds, those of the latest version of Unicode among them. -/
def numberRanges : Ranges :=
  (ofCategories ["nd", "nl", "no"]).union (Ranges.ofLines ["11DE0-11DE9 16FF4-16FF6"])

end Graft.Text
