/-! Decimal text of binary64 values, and binary64 values of decimal parts. Texts
have the fewest digits that read back as the same value. Values are given by
their bits; all digit work is done in natural numbers. -/
namespace ComponentDocs.Decimal

/-- A finite value: `significand · 2 ^ exponent`, negated if `negative`. -/
structure Binary where
  negative : Bool
  significand : Nat
  exponent : Int
deriving DecidableEq

def fraction (bits : UInt64) : Nat := bits.toNat % Nat.pow 2 52

def biasedExponent (bits : UInt64) : Nat := bits.toNat / Nat.pow 2 52 % Nat.pow 2 11

def isNegative (bits : UInt64) : Bool := Nat.pow 2 63 ≤ bits.toNat

def isFinite (bits : UInt64) : Bool := biasedExponent bits < 2047

/-- The value of finite bits. -/
def decode (bits : UInt64) : Binary where
  negative := isNegative bits
  significand := if biasedExponent bits = 0 then fraction bits else fraction bits + Nat.pow 2 52
  exponent := if biasedExponent bits = 0 then -1074 else (biasedExponent bits : Int) - 1075

/-- The numbers `numerator · 2 ^ exponent` that round to a value, with both ends.
Numerators are quarters of the value's last place. -/
structure Rounding where
  low : Nat
  value : Nat
  high : Nat
  closed : Bool
  exponent : Int

/-- Below a power of two the neighbour is half as far away. -/
def rounding (bits : UInt64) : Rounding :=
  let binary := decode bits
  let nearer := fraction bits = 0 ∧ 1 < biasedExponent bits
  { low := 4 * binary.significand - (if nearer then 1 else 2)
    value := 4 * binary.significand
    high := 4 * binary.significand + 2
    closed := binary.significand % 2 = 0
    exponent := binary.exponent - 2 }

/-- Decimal digits as a number, and the power of ten that scales it. -/
structure Digits where
  digits : Nat
  exponent : Int
deriving DecidableEq

namespace Rounding

/-- What one unit of `10 ^ ten` measures on the common integer scale. -/
def tenUnit (rounding : Rounding) (ten : Int) : Nat :=
  Nat.pow 10 ten.toNat * Nat.pow 2 (-rounding.exponent).toNat

/-- What one quarter measures on the same scale. -/
def twoUnit (rounding : Rounding) (ten : Int) : Nat :=
  Nat.pow 2 rounding.exponent.toNat * Nat.pow 10 (-ten).toNat

/-- The number `digits · 10 ^ ten` rounds to the value. -/
def holds (rounding : Rounding) (ten : Int) (digits : Nat) : Bool :=
  let point := digits * rounding.tenUnit ten
  let low := rounding.low * rounding.twoUnit ten
  let high := rounding.high * rounding.twoUnit ten
  if rounding.closed then low ≤ point && point ≤ high else low < point && point < high

/-- The nearest number of the grid `10 ^ ten` that rounds to the value: one of the
value's two neighbours on the grid. A tie goes to the even one. -/
def onGrid? (rounding : Rounding) (ten : Int) : Option Nat :=
  let scaled := rounding.value * rounding.twoUnit ten
  let unit := rounding.tenUnit ten
  let below := scaled / unit
  let gapBelow := scaled - below * unit
  let gapAbove := (below + 1) * unit - scaled
  let upperFirst := gapAbove < gapBelow || (gapAbove == gapBelow && below % 2 == 1)
  match rounding.holds ten below, rounding.holds ten (below + 1) with
  | true, true => some (if upperFirst then below + 1 else below)
  | true, false => some below
  | false, true => some (below + 1)
  | false, false => none

end Rounding

/-- The exponent of the leading decimal digit of a value that is not zero. -/
def magnitude (binary : Binary) : Int :=
  let scaled := binary.significand * Nat.pow 10 400 * Nat.pow 2 binary.exponent.toNat
    / Nat.pow 2 (-binary.exponent).toNat
  ((Nat.toDigits 10 scaled).length : Int) - 401

/-- Drops zeros at the end of at most `limit` digits. -/
def dropZeros : Nat → Digits → Digits
  | 0, decimal => decimal
  | limit + 1, decimal =>
    if decimal.digits % 10 = 0 then dropZeros limit ⟨decimal.digits / 10, decimal.exponent + 1⟩
    else decimal

/-- The fewest digits that read back as the value; of those the nearest. Seventeen
are always enough. -/
def shortest (bits : UInt64) : Digits :=
  let range := rounding bits
  let top := magnitude (decode bits)
  let found := (List.range 17).findSome? fun count =>
    let ten := top - (count : Nat)
    (range.onGrid? ten).map fun digits => ⟨digits, ten⟩
  dropZeros 17 (found.getD ⟨0, 0⟩)

/-- Digits with a point: positional for leading exponents from -5 to 15, else with
an exponent of a sign and at least two digits. -/
def Digits.text (decimal : Digits) : List Char :=
  let digits := Nat.toDigits 10 decimal.digits
  let count := digits.length
  let top := decimal.exponent + count - 1
  if -5 ≤ top ∧ top ≤ 15 then
    if 0 ≤ decimal.exponent then
      digits ++ List.replicate decimal.exponent.toNat '0' ++ ['.', '0']
    else if 0 ≤ top then
      digits.take (top.toNat + 1) ++ '.' :: digits.drop (top.toNat + 1)
    else
      ['0', '.'] ++ List.replicate (-top - 1).toNat '0' ++ digits
  else
    let mantissa := match digits with
      | leading :: [] => [leading]
      | leading :: following => leading :: '.' :: following
      | [] => []
    let power := Nat.toDigits 10 top.natAbs
    mantissa ++ 'e' :: (if top < 0 then '-' else '+') :: (if power.length < 2 then '0' :: power else power)

/-- The text of finite bits. Zero keeps its sign. -/
def text (bits : UInt64) : List Char :=
  (if isNegative bits then ['-'] else []) ++
    if (decode bits).significand = 0 then ['0', '.', '0'] else (shortest bits).text

/-- Scales by a power of ten in binary64 arithmetic: one rounded product or quotient
per step of at most 308 places. There is no value beyond the greatest finite one. -/
def scale (value : Float) (exponent : Int) : Option Float :=
  if exponent.natAbs ≤ 308 then
    let power := Float.ofScientific 1 false exponent.natAbs
    if 0 ≤ exponent then
      let product := value * power
      if product.isInf then none else some product
    else some (value / power)
  else if value == 0 then some value
  else if 0 ≤ exponent then none
  else scale (value / Float.ofScientific 1 false 308) (exponent + 308)
  termination_by (-exponent).toNat

/-- The bits of `significand · 10 ^ exponent`, for a significand of 64 bits. -/
def ofParts (negative : Bool) (significand : Nat) (exponent : Int) : Option UInt64 :=
  (scale (UInt64.ofNat significand).toFloat exponent).map fun value =>
    (if negative then -value else value).toBits

end ComponentDocs.Decimal
