import MailDomain.Decimal.Power

/-!
# Binary floating-point magnitudes

The non-negative finite numbers of the IEEE 754 format binary64, as a significand and a power
of two, with the operations rounded to the nearest number of the format, ties to the even
significand.

## Main definitions

* `Binary64` — `significand · 2 ^ exponent`.
* `Binary64.round?` — the number nearest to a ratio, if the ratio is not too large.
* `Binary64.ofNat`, `add`, `mul?`, `div?` — correctly rounded operations.
-/

set_option relaxedAutoImplicit false
set_option autoImplicit false

namespace MailDomain

/-- The number `significand · 2 ^ exponent`. The exponent is at least `-1074`, the significand
has at most 53 bits, and it has 53 unless the exponent is `-1074`. -/
structure Binary64 where
  significand : Nat
  exponent : Int
  deriving DecidableEq, Repr

namespace Binary64

/-- The quotient `num / den` rounded to the nearest integer, a tie going to the even one. -/
def roundQuotient (num den : Nat) : Nat :=
  let q := num / den
  let r := 2 * (num % den)
  if r > den || (r == den && q % 2 == 1) then q + 1 else q

/-- The least exponent of the format, which numbers of less than 53 bits have. -/
def leastExponent : Int := -1074

/-- The largest exponent of the format, beyond which `round?` has no number. -/
def greatestExponent : Int := 971

/-- The least number of 53 bits, `2 ^ 52`. -/
def leastFull : Nat := 4503599627370496

/-- The least number of more than 53 bits, `2 ^ 53`. -/
def leastWide : Nat := 9007199254740992

/-- The number zero. Its significand is not full, so that it has the least exponent. -/
def zero : Binary64 := ⟨0, leastExponent⟩

/-- The largest number of the format, which `round` gives for everything beyond it. -/
def largest : Binary64 := ⟨leastWide - 1, greatestExponent⟩

/-- The ratio `num / den` in units of `2 ^ e`, as a numerator and a denominator again. -/
def scaled (num den : Nat) (e : Int) : Nat × Nat :=
  if 0 ≤ e then (num, den * Decimal.twoTo e.toNat) else (num * Decimal.twoTo (-e).toNat, den)

/-- The exponent with which the significand of `num / den` has 53 bits, be it one of the format or
not. -/
def fittingExponent (num den : Nat) : Int :=
  let e : Int := (num.log2 : Int) - (den.log2 : Int) - 52
  let (n, d) := scaled num den e
  if n / d < leastFull then e - 1 else e

/-- The number of the format nearest to `num / den`, or `none` if that is beyond the format. -/
def round? (num den : Nat) : Option Binary64 :=
  if num = 0 || den = 0 then some zero
  else
    let e := max (fittingExponent num den) leastExponent
    let (n, d) := scaled num den e
    let m := roundQuotient n d
    let (m, e) := if m = leastWide then (leastFull, e + 1) else (m, e)
    if greatestExponent < e then none else some ⟨m, e⟩

/-- The number of the format nearest to `num / den`, and `largest` if that is beyond the format. -/
def round (num den : Nat) : Binary64 := (round? num den).getD largest

/-- The magnitude `x` as a numerator and a denominator, without rounding. -/
def toRatio (x : Binary64) : Nat × Nat :=
  if 0 ≤ x.exponent then (x.significand * Decimal.twoTo x.exponent.toNat, 1)
  else (x.significand, Decimal.twoTo (-x.exponent).toNat)

/-- The number of the format nearest to the natural number `n`. -/
def ofNat (n : Nat) : Binary64 := round n 1

/-- The sum of `x` and `y`, rounded to the format. -/
def add (x y : Binary64) : Binary64 :=
  let (a, b) := x.toRatio
  let (c, d) := y.toRatio
  round (a * d + c * b) (b * d)

/-- The product of `x` and `y`, rounded to the format, or `none` if it is beyond the format. -/
def mul? (x y : Binary64) : Option Binary64 :=
  let (a, b) := x.toRatio
  let (c, d) := y.toRatio
  round? (a * c) (b * d)

/-- The quotient of `x` and `y`, rounded to the format, or `none` if it is beyond the format. -/
def div? (x y : Binary64) : Option Binary64 :=
  let (a, b) := x.toRatio
  let (c, d) := y.toRatio
  round? (a * d) (b * c)

/-- Whether the magnitude `x` is at most `y`. -/
def ble (x y : Binary64) : Bool :=
  let (a, b) := x.toRatio
  let (c, d) := y.toRatio
  a * d ≤ c * b

end Binary64

end MailDomain
