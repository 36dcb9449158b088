import MailDomain.Decimal.Binary64

/-!
# Shortest decimal texts

A magnitude is written with the fewest digits that read back as the same number, and among
those with the digits nearest to it. Where the point goes is a matter of the layout.

## Main definitions

* `Decimal.Digits` — digits and the position of the point.
* `Decimal.shortest` — the fewest digits that read back.
* `Decimal.positional` — digits with the point in place.
* `Decimal.scientific` — digits with the point in place, or an exponent for very small and
  very large numbers.
-/

set_option relaxedAutoImplicit false
set_option autoImplicit false

namespace MailDomain.Decimal

/-- The number `0.d₁d₂…dₖ · 10 ^ point`, where `d₁d₂…dₖ` are the digits of `digits`. -/
structure Digits where
  digits : Nat
  point : Int
  deriving DecidableEq, Repr

/-- The numerator and the denominator of `num / den` in units of `10 ^ k`. -/
def inUnits (num den : Nat) (k : Int) : Nat × Nat :=
  if 0 ≤ k then (num, den * tenTo k.toNat) else (num * tenTo (-k).toNat, den)

/-- The number of decimal digits of `n`, which is one for zero. -/
def width (n : Nat) : Nat := (Nat.toDigits 10 n).length

/-- The number of zeros between the point and the first digit of `num / den`, when that is
less than one: how often `num` times ten stays below `den`. -/
def leadingZeros (den : Nat) : (fuel num : Nat) → Nat
  | 0, _ => 0
  | fuel + 1, num => if den ≤ num * 10 then 0 else leadingZeros den fuel (num * 10) + 1

/-- The position of the point of `num / den`: the least `p` with `num / den < 10 ^ p`. -/
def pointOf (num den : Nat) : Int :=
  if den ≤ num then width (num / den) else -(leadingZeros den (width den) num : Int)

/-- The reals that round to a magnitude, in quarters of its last unit: how far they reach
below and above, and whether the ends belong to them. -/
structure Reach where
  below : Nat
  above : Nat
  closed : Bool

/-- The reach of the magnitude `x`. Below a power of two the numbers are twice as dense, so that it
reaches only half as far; the ends belong to it if its significand is even. -/
def reachOf (x : Binary64) : Reach where
  below := if x.significand = Binary64.leastFull ∧ Binary64.leastExponent < x.exponent then 1 else 2
  above := 2
  closed := x.significand % 2 = 0

/-- Whether `c` units of `10 ^ k` round to the magnitude `x`. -/
def readsBack (x : Binary64) (c : Nat) (k : Int) : Bool :=
  let r := reachOf x
  -- both sides in quarters of the last unit of `x`
  let (u, v) := Binary64.toRatio ⟨1, x.exponent⟩
  let (a, b) := if 0 ≤ k then (c * tenTo k.toNat, 1) else (c, tenTo (-k).toNat)
  let value := 4 * a * v
  let low := (4 * x.significand - r.below) * (u * b)
  let high := (4 * x.significand + r.above) * (u * b)
  if r.closed then low ≤ value && value ≤ high else low < value && value < high

/-- The digits on the grid of `10 ^ k` that read back as `x`, the nearer of the two neighbours of
`x` if both do. -/
def onGrid? (x : Binary64) (k : Int) : Option Nat :=
  let (num, den) := x.toRatio
  let (n, d) := inUnits num den k
  let lower := n / d
  let upper := lower + 1
  match readsBack x lower k && lower != 0, readsBack x upper k with
  | true, true => some (Binary64.roundQuotient n d)
  | true, false => some lower
  | false, true => some upper
  | false, false => none

/-- The digits of the first grid, from `count` digits on, on which some read back as `x`, with the
exponent of the grid. -/
def firstGrid (x : Binary64) (point : Int) : (fuel count : Nat) → Nat × Int
  | 0, count => (((onGrid? x (point - count)).getD 0), point - count)
  | fuel + 1, count =>
    match onGrid? x (point - count) with
    | some c => (c, point - count)
    | none => firstGrid x point fuel (count + 1)

/-- The number `n` without the zeros at the end of its digits. -/
def dropZeros : (fuel n : Nat) → Nat
  | 0, n => n
  | fuel + 1, n => if n % 10 = 0 && n != 0 then dropZeros fuel (n / 10) else n

/-- The fewest digits that read back as the magnitude `x`, and where the point is in them. -/
def shortest (x : Binary64) : Digits :=
  if x.significand = 0 then ⟨0, 1⟩
  else
    let (num, den) := x.toRatio
    let (c, k) := firstGrid x (pointOf num den) 17 1
    ⟨dropZeros 20 c, k + width c⟩

/-- A run of `n` zeros. -/
def zeros (n : Nat) : List Char := List.replicate n '0'

/-- The digits with the point in place and without an exponent. An integer gets no fraction. -/
def positional (d : Digits) : String :=
  let cs := Nat.toDigits 10 d.digits
  let n : Int := cs.length
  String.ofList <|
    if n ≤ d.point then cs ++ zeros (d.point - n).toNat
    else if 0 < d.point then cs.take d.point.toNat ++ '.' :: cs.drop d.point.toNat
    else '0' :: '.' :: zeros (-d.point).toNat ++ cs

/-- An exponent with its sign, which is `+` for zero. -/
def exponentText (e : Int) : String := (if 0 ≤ e then "+" else "") ++ toString e

/-- Digits with the point in place when it lies after the fifth zero and before the
seventeenth digit, with a fraction always; with a signed exponent otherwise. -/
def scientific (d : Digits) : String :=
  let cs := Nat.toDigits 10 d.digits
  let n : Int := cs.length
  String.ofList <|
    if n ≤ d.point && d.point ≤ 16 then cs ++ zeros (d.point - n).toNat ++ ['.', '0']
    else if 0 < d.point && d.point ≤ 16 then
      cs.take d.point.toNat ++ '.' :: cs.drop d.point.toNat
    else if -5 < d.point && d.point ≤ 0 then '0' :: '.' :: zeros (-d.point).toNat ++ cs
    else
      let e := (exponentText (d.point - 1)).toList
      match cs with
      | [c] => c :: 'e' :: e
      | c :: rest => c :: '.' :: rest ++ 'e' :: e
      | [] => e

end MailDomain.Decimal
