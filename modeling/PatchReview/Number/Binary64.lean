/-! Binary floating point in the 64-bit format, in exact arithmetic.

A finite number is `mantissa * 2 ^ exponent` with a sign. Where the mantissa is below
`2 ^ 52` the exponent is the least one, so each value has one form. `ofRatio` rounds a
quotient to the nearest number, a tie to the even mantissa. -/
namespace PatchReview

/-- A number of the 64-bit binary format. -/
inductive Binary64 where
  | nan
  | infinite (negative : Bool)
  | finite (negative : Bool) (mantissa : Nat) (exponent : Int)
  deriving DecidableEq, Repr

namespace Binary64

/-- Positive zero. -/
def zero : Binary64 := .finite false 0 0

/-- Rounds `num / den` to a natural number, a tie to the even one. -/
def roundQuotient (num den : Nat) : Nat :=
  let q := num / den
  let r := num % den
  if den < 2 * r || (2 * r == den && q % 2 == 1) then q + 1 else q

/-- `num / den` over `2 ^ e`, as a quotient of naturals. -/
def scaled (num den : Nat) (e : Int) : Nat × Nat :=
  if e < 0 then (num * Nat.pow 2 (-e).toNat, den) else (num, den * Nat.pow 2 e.toNat)

/-- The exponent for which `num / den` has a mantissa of 53 bits, or the least exponent. -/
def exponentFor (num den : Nat) : Int :=
  let guess := (num.log2 : Int) - (den.log2 : Int) - 52
  let (a, b) := scaled num den guess
  max (-1074) (if a < Nat.pow 2 52 * b then guess - 1 else guess)

/-- The number nearest to the positive quotient `num / den`. -/
def ofPositiveRatio (negative : Bool) (num den : Nat) : Binary64 :=
  let e := exponentFor num den
  let (a, b) := scaled num den e
  let m := roundQuotient a b
  let (m, e) := if m = Nat.pow 2 53 then (Nat.pow 2 52, e + 1) else (m, e)
  if 971 < e then .infinite negative
  else if m = 0 then .finite negative 0 0
  else .finite negative m e

/-- The number nearest to `num / den`; `den` is not zero. -/
def ofRatio (negative : Bool) (num den : Nat) : Binary64 :=
  if num = 0 then .finite negative 0 0 else ofPositiveRatio negative num den

/-- How many decimal digits a natural number is written with. -/
def decimalLength (n : Nat) : Nat := (Nat.toDigits 10 n).length

/-- The number nearest to `digits * 10 ^ scale`. A value far beyond either end of the range
is settled by its length alone. -/
def ofDecimal (negative : Bool) (digits : Nat) (scale : Int) : Binary64 :=
  let magnitude := scale + decimalLength digits
  if digits = 0 || magnitude < -400 then .finite negative 0 0
  else if 400 < magnitude then .infinite negative
  else if scale < 0 then ofRatio negative digits (Nat.pow 10 (-scale).toNat)
  else ofRatio negative (digits * Nat.pow 10 scale.toNat) 1

/-- The number nearest to an integer. -/
def ofInt (i : Int) : Binary64 := ofRatio (i < 0) i.natAbs 1

/-- Numerator and denominator of `mantissa * 2 ^ exponent`. -/
def ratio (mantissa : Nat) (exponent : Int) : Nat × Nat :=
  if exponent < 0 then (mantissa, Nat.pow 2 (-exponent).toNat)
  else (mantissa * Nat.pow 2 exponent.toNat, 1)

/-- The integer part, toward zero; neither an infinity nor a non-number has one. -/
def truncate? : Binary64 → Option Int
  | .finite negative m e =>
    let (num, den) := ratio m e
    let n : Int := (num / den : Nat)
    some (if negative then -n else n)
  | _ => none

def isZero : Binary64 → Bool
  | .finite _ m _ => m == 0
  | _ => false

/-! ### Decimal text -/

/-- The exponent of the leading decimal digit of the positive quotient `num / den`. -/
def leadingExponent (num den : Nat) : Int :=
  if den ≤ num then (decimalLength (num / den) : Int) - 1
  else -(decimalLength ((den + num - 1) / num - 1) : Int)

/-- The reals that round to `mantissa * 2 ^ exponent`, as bounds over the denominator `den`. -/
structure Interval where
  low : Nat
  value : Nat
  high : Nat
  den : Nat
  /-- Whether the bounds themselves round to the value. -/
  closed : Bool

/-- Half a unit on either side, a quarter below a power of two. -/
def interval (mantissa : Nat) (exponent : Int) : Interval :=
  let (unit, den) := ratio 1 (exponent - 2)
  let below := if mantissa = Nat.pow 2 52 ∧ -1074 < exponent then 1 else 2
  { low := (4 * mantissa - below) * unit
    value := 4 * mantissa * unit
    high := (4 * mantissa + 2) * unit
    den := den
    closed := mantissa % 2 = 0 }

/-- Whether `digits * 10 ^ scale` rounds to the value of the interval. -/
def Interval.holds (i : Interval) (digits : Nat) (scale : Int) : Bool :=
  let (n, d) :=
    if scale < 0 then (digits * i.den, Nat.pow 10 (-scale).toNat)
    else (digits * Nat.pow 10 scale.toNat * i.den, 1)
  if i.closed then i.low * d ≤ n && n ≤ i.high * d else i.low * d < n && n < i.high * d

/-- The neighbour of the value on the grid of step `10 ^ scale` that rounds to it: the nearer
of two, of two equally near the even one. -/
def Interval.neighbour? (i : Interval) (scale : Int) : Option Nat :=
  let (num, den) :=
    if scale < 0 then (i.value * Nat.pow 10 (-scale).toNat, i.den)
    else (i.value, i.den * Nat.pow 10 scale.toNat)
  let below := num / den
  let nearest := roundQuotient num den
  let other := if nearest = below then below + 1 else below
  if i.holds nearest scale then some nearest
  else if i.holds other scale then some other
  else none

/-- Tries grids of `digits`, `digits + 1`, … digits, `fuel` of them. -/
def Interval.shortestFrom (i : Interval) (lead : Int) (digits : Nat) : Nat → Nat × Int
  | 0 => (0, 0)
  | fuel + 1 =>
    let scale := lead - digits + 1
    match i.neighbour? scale with
    | some n => (n, scale)
    | none => i.shortestFrom lead (digits + 1) fuel

/-- The fewest decimal digits that read back as `mantissa * 2 ^ exponent`, and their scale. -/
def shortest (mantissa : Nat) (exponent : Int) : Nat × Int :=
  let i := interval mantissa exponent
  i.shortestFrom (leadingExponent i.value i.den) 1 17

/-- How a decimal text is laid out. -/
structure DecimalLayout where
  /-- The least exponent of the leading digit that is written positionally. -/
  leastPositional : Int
  /-- From this exponent on scientific notation is used again. -/
  firstScientific : Int
  /-- The least number of digits of an exponent. -/
  exponentDigits : Nat
  nan : String
  infinity : String

/-- Positional from a ten-thousandth up to sixteen digits, and two digits of exponent. -/
def plainLayout : DecimalLayout :=
  { leastPositional := -4, firstScientific := 16, exponentDigits := 2,
    nan := "nan", infinity := "inf" }

/-- Digits of a natural number. -/
def digitsOf (n : Nat) : List Char := Nat.toDigits 10 n

/-- Without the zeros at the end. -/
def dropTrailingZeros (digits : List Char) : List Char :=
  (digits.reverse.dropWhile (· == '0')).reverse

/-- `0.00ddd`, `dd.ddd` or `ddd00.0` for the digits with the leading one at `10 ^ lead`. -/
def positional (digits : List Char) (lead : Int) : List Char :=
  if lead < 0 then '0' :: '.' :: List.replicate ((-lead).toNat - 1) '0' ++ digits
  else
    let whole := lead.toNat + 1
    let padded := digits ++ List.replicate (whole - digits.length) '0'
    let fraction := padded.drop whole
    padded.take whole ++ '.' :: (if fraction.isEmpty then ['0'] else fraction)

/-- `d.ddde+xx` for the digits with the leading one at `10 ^ lead`. -/
def scientific (layout : DecimalLayout) (digits : List Char) (lead : Int) : List Char :=
  let exponent := digitsOf lead.natAbs
  let point := if digits.length ≤ 1 then [] else '.' :: digits.drop 1
  digits.take 1 ++ point ++ 'e' :: (if lead < 0 then '-' else '+') ::
    (List.replicate (layout.exponentDigits - exponent.length) '0' ++ exponent)

/-- The shortest decimal text that reads back, in a layout. -/
def textIn (layout : DecimalLayout) : Binary64 → String
  | .nan => layout.nan
  | .infinite negative => (if negative then "-" else "") ++ layout.infinity
  | .finite negative m e =>
    let body :=
      if m = 0 then ['0', '.', '0']
      else
        let (n, scale) := shortest m e
        let written := digitsOf n
        let lead := scale + written.length - 1
        let digits := dropTrailingZeros written
        if layout.leastPositional ≤ lead ∧ lead < layout.firstScientific then positional digits lead
        else scientific layout digits lead
    (if negative then "-" else "") ++ String.ofList body

/-- The usual text of a number. -/
def text (x : Binary64) : String := x.textIn plainLayout

end Binary64

end PatchReview
