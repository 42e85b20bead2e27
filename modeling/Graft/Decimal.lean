import Graft.Text

/-!
Decimal numbers and the binary floating point numbers of 64 bits nearest to them.

A number is written with the fewest digits that read back as the same number; of two texts with as
few digits the nearer one is taken.
-/

namespace Graft

/-- A decimal number `digits * 10 ^ exponent`. -/
structure Decimal where
  digits : Nat
  exponent : Int
  deriving DecidableEq, Repr

/-- A positive fraction, or zero. -/
structure Ratio where
  num : Nat
  den : Nat

def Decimal.ratio (d : Decimal) : Ratio :=
  if 0 ≤ d.exponent then ⟨d.digits * Nat.pow 10 d.exponent.toNat, 1⟩
  else ⟨d.digits, Nat.pow 10 (-d.exponent).toNat⟩

/-- A number `mantissa * 2 ^ exponent` with its sign. -/
structure Binary64 where
  negative : Bool
  mantissa : Nat
  exponent : Int
  deriving DecidableEq, Repr

namespace Binary64

def leastExponent : Int := -1074

def greatestExponent : Int := 971

/-- The exponents of two by which a quotient of about 53 binary digits is found. -/
def scaled (r : Ratio) (exponent : Int) : Ratio :=
  if 0 ≤ exponent then ⟨r.num, r.den * Nat.pow 2 exponent.toNat⟩
  else ⟨r.num * Nat.pow 2 (-exponent).toNat, r.den⟩

/-- A quotient rounded to the nearest whole number, a half to the even one. -/
def roundEven (r : Ratio) : Nat :=
  let floor := r.num / r.den
  let rest := 2 * (r.num % r.den)
  if r.den < rest ∨ (rest = r.den ∧ floor % 2 = 1) then floor + 1 else floor

/-- The mantissa and exponent nearest to a fraction; none where it is too great. -/
def nearest? (r : Ratio) : Option (Nat × Int) :=
  if r.num = 0 then some (0, leastExponent)
  else
    let estimate : Int := (Nat.log2 r.num : Int) - Nat.log2 r.den - 52
    let whole (e : Int) := let s := scaled r e; s.num / s.den
    let exponent := if whole estimate < Nat.pow 2 52 then estimate - 1 else estimate
    let exponent := max exponent leastExponent
    let mantissa := roundEven (scaled r exponent)
    let (mantissa, exponent) :=
      if mantissa = Nat.pow 2 53 then (Nat.pow 2 52, exponent + 1) else (mantissa, exponent)
    if greatestExponent < exponent then none else some (mantissa, exponent)

/-- The number of decimal digits. -/
def width (n : Nat) : Nat := (Nat.toDigits 10 n).length

/-- The floating point number nearest to a decimal one. One of more than 400 places before the point
is too great, and one that begins more than 400 places after it is nearest to zero. -/
def ofDecimal? (negative : Bool) (d : Decimal) : Option Binary64 :=
  let point : Int := width d.digits + d.exponent
  if d.digits = 0 ∨ point < -400 then some ⟨negative, 0, leastExponent⟩
  else if 400 < point then none
  else (nearest? d.ratio).map fun (m, e) => ⟨negative, m, e⟩

/-- The fraction that a floating point number is. -/
def ratio (x : Binary64) : Ratio :=
  if 0 ≤ x.exponent then ⟨x.mantissa * Nat.pow 2 x.exponent.toNat, 1⟩
  else ⟨x.mantissa, Nat.pow 2 (-x.exponent).toNat⟩

/-- The number `p` for which a fraction that is not zero lies between `10 ^ p` and
`10 ^ (p + 1)`. -/
def magnitude (r : Ratio) : Int :=
  let estimate : Int := (width r.num : Int) - width r.den
  let reaches : Bool :=
    if 0 ≤ estimate then r.den * Nat.pow 10 estimate.toNat ≤ r.num
    else r.den ≤ r.num * Nat.pow 10 (-estimate).toNat
  if reaches then estimate else estimate - 1

/-- The decimal with a number of digits that reads back as a floating point number, if there is
one. -/
def withWidth? (x : Binary64) (n : Nat) : Option Decimal :=
  let r := x.ratio
  let exponent := magnitude r - n + 1
  let scaledBy : Ratio :=
    if 0 ≤ exponent then ⟨r.num, r.den * Nat.pow 10 exponent.toNat⟩
    else ⟨r.num * Nat.pow 10 (-exponent).toNat, r.den⟩
  let floor := scaledBy.num / scaledBy.den
  let rest := 2 * (scaledBy.num % scaledBy.den)
  let readsBack (digits : Nat) : Bool :=
    nearest? (Decimal.ratio ⟨digits, exponent⟩) = some (x.mantissa, x.exponent)
  let upFirst : Bool := scaledBy.den < rest ∨ (rest = scaledBy.den ∧ floor % 2 = 1)
  let order := if upFirst then [floor + 1, floor] else [floor, floor + 1]
  (order.find? readsBack).map fun digits => ⟨digits, exponent⟩

/-- The decimal with the fewest digits that reads back as a floating point number. -/
def shortestDecimal (x : Binary64) : Decimal :=
  if x.mantissa = 0 then ⟨0, 0⟩
  else ((List.range 17).findSome? fun n => withWidth? x (n + 1)).getD ⟨0, 0⟩

/-- Digits without the zeros at their end, which go to the exponent. -/
def dropZeros : List Char → Int → List Char × Int
  | digits, exponent =>
    let kept := (digits.reverse.dropWhile (· = '0')).reverse
    (kept, exponent + (digits.length - kept.length : Nat))

/-- An exponent with its sign. -/
def signedExponent (n : Int) : Text :=
  (if n < 0 then '-' else '+') :: Nat.toDigits 10 n.natAbs

/-- A number as messages show it. It is written with a point where at most sixteen digits come
before the point or at most four zeros right after it, and else with an exponent. -/
def shortest (x : Binary64) : Text :=
  let sign : Text := if x.negative then ['-'] else []
  if x.mantissa = 0 then sign ++ "0.0".toList
  else
    let d := shortestDecimal x
    let (digits, exponent) := dropZeros (Nat.toDigits 10 d.digits) d.exponent
    let point : Int := digits.length + exponent
    let unsigned : Text :=
      if 0 ≤ exponent ∧ point ≤ 16 then
        digits ++ List.replicate exponent.toNat '0' ++ ['.', '0']
      else if 0 < point ∧ point ≤ 16 then
        digits.take point.toNat ++ '.' :: digits.drop point.toNat
      else if -5 < point ∧ point ≤ 0 then
        ['0', '.'] ++ List.replicate (-point).toNat '0' ++ digits
      else
        let power := signedExponent (point - 1)
        match digits with
        | [d] => d :: 'e' :: power
        | d :: ds => d :: '.' :: ds ++ 'e' :: power
        | [] => power
    sign ++ unsigned

end Binary64

end Graft
