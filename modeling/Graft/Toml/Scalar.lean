import Graft.Toml

/-!
The values of a document that are written without brackets: numbers, dates, times, truth values and
strings.
-/

namespace Graft.Toml

open Text

/-- A blank within a line. -/
def isLineBlank (c : Char) : Bool := c = ' ' || c = '\t'

/-- A control character that may stand neither in a string nor in a comment. -/
def isControl (c : Char) : Bool := (c.toNat < 0x20 && c ≠ '\t') || c = '\x7f'

/-- The text after a line feed, which a carriage return may come before. -/
def readNewline? : Text → Option Text
  | '\n' :: cs => some cs
  | '\r' :: '\n' :: cs => some cs
  | _ => none

/-! ### Numbers -/

/-- The value of a digit, if there is one below the base. -/
def digitValue? (base : Nat) (c : Char) : Option Nat :=
  let value? :=
    if c.isDigit then some (c.toNat - '0'.toNat)
    else if 'a' ≤ c ∧ c ≤ 'f' then some (c.toNat - 'a'.toNat + 10)
    else if 'A' ≤ c ∧ c ≤ 'F' then some (c.toNat - 'A'.toNat + 10)
    else none
  value?.filter (· < base)

/-- The digits of a text in which single underscores may separate them. -/
def digits? (base : Nat) : Text → Option (List Nat)
  | [] => none
  | [c] => do return [← digitValue? base c]
  | c :: '_' :: cs => do return (← digitValue? base c) :: (← digits? base cs)
  | c :: d :: cs => do return (← digitValue? base c) :: (← digits? base (d :: cs))

def ofDigits (base : Nat) (digits : List Nat) : Nat := digits.foldl (fun n d => base * n + d) 0

/-- The digits of a whole number without zeros in front. -/
def wholeDigits? (cs : Text) : Option (List Nat) := do
  let digits ← digits? 10 cs
  match digits with
  | 0 :: _ :: _ => none
  | _ => some digits

/-- The sign of a text, and the text after it. -/
def splitSign : Text → Bool × Text
  | '-' :: cs => (true, cs)
  | '+' :: cs => (false, cs)
  | cs => (false, cs)

/-- The number of whole numbers of 64 bits that are not negative. -/
def integerLimit : Nat := Nat.pow 2 63

/-- A whole number of 64 bits with a sign. -/
def fitInteger? (n : Int) : Option Toml :=
  if -(integerLimit : Int) ≤ n ∧ n < integerLimit then some (.integer n) else none

def integer? : Text → Option Toml
  | '0' :: 'x' :: cs => do fitInteger? (ofDigits 16 (← digits? 16 cs))
  | '0' :: 'o' :: cs => do fitInteger? (ofDigits 8 (← digits? 8 cs))
  | '0' :: 'b' :: cs => do fitInteger? (ofDigits 2 (← digits? 2 cs))
  | cs => do
    let (negative, cs) := splitSign cs
    let n := ofDigits 10 (← wholeDigits? cs)
    fitInteger? (if negative then -(n : Int) else n)

/-- The number that an exponent is, which its sign may come before and zeros may begin. -/
def exponent? (cs : Text) : Option Int := do
  let (negative, cs) := splitSign cs
  let n := ofDigits 10 (← digits? 10 cs)
  return if negative then -(n : Int) else n

/-- A number with a point, an exponent, or both. -/
def float? (cs : Text) : Option Toml := do
  let (negative, unsigned) := splitSign cs
  if unsigned = "inf".toList ∨ unsigned = "nan".toList then return .float none
  let isMark (c : Char) : Bool := c = 'e' || c = 'E'
  let significand := unsigned.takeWhile (!isMark ·)
  let exponent ← match unsigned.dropWhile (!isMark ·) with
    | [] => some (0 : Int)
    | _ :: power => exponent? power
  let (digits, places) ← match splitOn '.' significand with
    | [whole] =>
      if significand.length = unsigned.length then none
      else (wholeDigits? whole).map (·, 0)
    | [whole, fraction] =>
      match wholeDigits? whole, digits? 10 fraction with
      | some before, some after => some (before ++ after, after.length)
      | _, _ => none
    | _ => none
  let x ← Binary64.ofDecimal? negative ⟨ofDigits 10 digits, exponent - (places : Nat)⟩
  return .float (some x)

/-! ### Dates and times -/

/-- A number of exactly as many digits, at most as great as a limit, and the text after it. -/
def readPart? (width least greatest : Nat) (cs : Text) : Option (Nat × Text) :=
  let part := cs.take width
  let n := ofDigits 10 (part.map fun c => c.toNat - '0'.toNat)
  if part.length = width ∧ part.all Char.isDigit ∧ least ≤ n ∧ n ≤ greatest then
    some (n, cs.drop width)
  else none

def isLeapYear (year : Nat) : Bool := year % 4 = 0 && (year % 100 ≠ 0 || year % 400 = 0)

def daysIn (year month : Nat) : Nat :=
  if month = 2 then if isLeapYear year then 29 else 28
  else if month = 4 ∨ month = 6 ∨ month = 9 ∨ month = 11 then 30
  else 31

/-- The text after a date. -/
def readDate? (cs : Text) : Option Text := do
  let (year, rest) ← readPart? 4 0 9999 cs
  let '-' :: rest := rest | none
  let (month, rest) ← readPart? 2 1 12 rest
  let '-' :: rest := rest | none
  let (_, rest) ← readPart? 2 1 (daysIn year month) rest
  return rest

/-- The text after a time of day, whose seconds may be left out. -/
def readTime? (cs : Text) : Option Text := do
  let (_, rest) ← readPart? 2 0 23 cs
  let ':' :: rest := rest | none
  let (_, rest) ← readPart? 2 0 59 rest
  match rest with
  | ':' :: rest =>
    let (_, rest) ← readPart? 2 0 60 rest
    match rest with
    | '.' :: fraction =>
      if (fraction.takeWhile Char.isDigit).isEmpty then none
      else some (fraction.dropWhile Char.isDigit)
    | _ => some rest
  | _ => some rest

/-- Whether a text is a distance from universal time. -/
def isOffset : Text → Bool
  | ['Z'] | ['z'] => true
  | sign :: cs =>
    (sign = '+' || sign = '-') && ((do
      let (_, rest) ← readPart? 2 0 23 cs
      let ':' :: rest := rest | none
      let (_, rest) ← readPart? 2 0 59 rest
      return rest.isEmpty) = some true)
  | [] => false

/-- Whether a text is a date, a time of day, or a date with a time of day. -/
def isDatetime (cs : Text) : Bool :=
  match readDate? cs with
  | none => readTime? cs = some []
  | some [] => true
  | some (c :: rest) =>
    (c = 'T' || c = 't' || c = ' ') &&
      match readTime? rest with
      | some [] => true
      | some offset => isOffset offset
      | none => false

/-- The value that a text without blanks stands for. -/
def scalar? (cs : Text) : Option Toml :=
  if cs = "true".toList then some (.boolean true)
  else if cs = "false".toList then some (.boolean false)
  else if isDatetime cs then some (.datetime cs)
  else integer? cs <|> float? cs

/-- Whether a character ends a value that is written without brackets or quotes. -/
def endsScalar (c : Char) : Bool :=
  isLineBlank c || c = '\n' || c = '\r' || c = ',' || c = ']' || c = '\x7d' || c = '#'

/-- A number, truth value, date or time at the front of a text, and the text after it. A date and a
time may have one space between them. -/
def readScalar? (cs : Text) : Option (Toml × Text) := do
  let atom := cs.takeWhile (!endsScalar ·)
  let rest := cs.dropWhile (!endsScalar ·)
  match readDate? atom, rest with
  | some [], ' ' :: c :: tail =>
    if c.isDigit then
      let time := (c :: tail).takeWhile (!endsScalar ·)
      return (← scalar? (atom ++ ' ' :: time), (c :: tail).dropWhile (!endsScalar ·))
    else return (← scalar? atom, rest)
  | _, _ => return (← scalar? atom, rest)

/-! ### Strings -/

/-- The character of a code point in as many hexadecimal digits, and the text after it. -/
def readCodePoint? (width : Nat) (cs : Text) : Option (Char × Text) := do
  if cs.length < width then none
  let digits ← (cs.take width).mapM (digitValue? 16)
  let n := ofDigits 16 digits
  if n.isValidChar then some (Char.ofNat n, cs.drop width) else none

/-- The character of an escape whose backslash stands before a text. -/
def readEscape? : Text → Option (Char × Text)
  | 'b' :: cs => some ('\x08', cs)
  | 't' :: cs => some ('\t', cs)
  | 'n' :: cs => some ('\n', cs)
  | 'f' :: cs => some ('\x0c', cs)
  | 'r' :: cs => some ('\r', cs)
  | 'e' :: cs => some ('\x1b', cs)
  | '"' :: cs => some ('"', cs)
  | '\\' :: cs => some ('\\', cs)
  | 'x' :: cs => readCodePoint? 2 cs
  | 'u' :: cs => readCodePoint? 4 cs
  | 'U' :: cs => readCodePoint? 8 cs
  | _ => none

/-- A string on one line, after its first quote. -/
def readBasic? (cs : Text) : Option (Text × Text) :=
  match cs with
  | [] => none
  | '"' :: rest => some ([], rest)
  | '\\' :: rest =>
    match readEscape? rest with
    | none => none
    | some (c, after) =>
      if _h : after.length ≤ rest.length then
        (readBasic? after).map fun (t, r) => (c :: t, r)
      else none
  | c :: rest =>
    if isControl c then none else (readBasic? rest).map fun (t, r) => (c :: t, r)
termination_by cs.length

/-- A string on one line without escapes, after its first quote. -/
def readLiteral? : Text → Option (Text × Text)
  | [] => none
  | '\'' :: rest => some ([], rest)
  | c :: rest =>
    if isControl c then none else (readLiteral? rest).map fun (t, r) => (c :: t, r)

/-- The end of a string on several lines: up to two quotes that belong to it, and the text after the
three that close it. -/
def readClosing? (quote : Char) (cs : Text) : Option (Text × Text) :=
  let count := min 5 (cs.takeWhile (· = quote)).length
  if count < 3 then none else some (List.replicate (count - 3) quote, cs.drop count)

/-- The text after blanks and ends of lines. -/
def skipBlankLines : Text → Text
  | '\r' :: '\n' :: cs => skipBlankLines cs
  | c :: cs => if isLineBlank c ∨ c = '\n' then skipBlankLines cs else c :: cs
  | [] => []

/-- The text after a backslash at the end of a line, and after the blank lines and blanks that
follow. -/
def readContinuation? (cs : Text) : Option Text :=
  (readNewline? (cs.dropWhile isLineBlank)).map skipBlankLines

/-- A string on several lines, after its first quotes. Its ends of lines stand in it as they are
written. -/
def readLines? (cs : Text) : Option (Text × Text) :=
  match readClosing? '"' cs with
  | some ending => some ending
  | none =>
    match cs with
    | [] => none
    | '\\' :: rest =>
      match readContinuation? rest with
      | some after => if _h : after.length ≤ rest.length then readLines? after else none
      | none =>
        match readEscape? rest with
        | none => none
        | some (c, after) =>
          if _h : after.length ≤ rest.length then
            (readLines? after).map fun (t, r) => (c :: t, r)
          else none
    | '\r' :: '\n' :: rest => (readLines? rest).map fun (t, r) => ('\r' :: '\n' :: t, r)
    | c :: rest =>
      if isControl c ∧ c ≠ '\n' then none else (readLines? rest).map fun (t, r) => (c :: t, r)
termination_by cs.length

/-- A string on several lines without escapes, after its first quotes. Its ends of lines stand in it
as they are written. -/
def readLiteralLines? (cs : Text) : Option (Text × Text) :=
  match readClosing? '\'' cs with
  | some ending => some ending
  | none =>
    match cs with
    | [] => none
    | '\r' :: '\n' :: rest =>
      (readLiteralLines? rest).map fun (t, r) => ('\r' :: '\n' :: t, r)
    | c :: rest =>
      if isControl c ∧ c ≠ '\n' then none
      else (readLiteralLines? rest).map fun (t, r) => (c :: t, r)
termination_by cs.length

/-- A text without the line feed at its start. -/
def dropNewline (cs : Text) : Text := (readNewline? cs).getD cs

/-- The string at the front of a text that begins with a quote, and the text after it. -/
def readString? : Text → Option (Text × Text)
  | '"' :: '"' :: '"' :: cs => readLines? (dropNewline cs)
  | '"' :: cs => readBasic? cs
  | '\'' :: '\'' :: '\'' :: cs => readLiteralLines? (dropNewline cs)
  | '\'' :: cs => readLiteral? cs
  | _ => none

end Graft.Toml
