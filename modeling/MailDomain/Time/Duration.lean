import MailDomain.Decimal.Binary64

/-!
# Durations

A duration is a number of nanoseconds.

## Main definitions

* `Duration` — with `ofSecs`, `ofMillis`, `ofParts`, `secs`, `millis` and the usual order and
  sum.
* `Duration.text` — a duration in its largest unit, with the digits after the point that it
  needs.
* `Duration.toBinary64` — a duration in seconds, rounded.

## Main results

* `Duration.secs_ofSecs`, `Duration.millis_ofMillis` — whole units are read back.
-/

set_option relaxedAutoImplicit false
set_option autoImplicit false

namespace MailDomain

/-- A length of time in nanoseconds. -/
structure Duration where
  nanos : Nat
  deriving DecidableEq, Repr, Inhabited

namespace Duration

instance : LE Duration := ⟨fun a b => a.nanos ≤ b.nanos⟩
instance : LT Duration := ⟨fun a b => a.nanos < b.nanos⟩
instance : Add Duration := ⟨fun a b => ⟨a.nanos + b.nanos⟩⟩
instance : Sub Duration := ⟨fun a b => ⟨a.nanos - b.nanos⟩⟩

instance (a b : Duration) : Decidable (a ≤ b) := inferInstanceAs (Decidable (a.nanos ≤ b.nanos))
instance (a b : Duration) : Decidable (a < b) := inferInstanceAs (Decidable (a.nanos < b.nanos))

/-- No time at all. -/
def zero : Duration := ⟨0⟩

/-- A number of seconds. -/
def ofSecs (n : Nat) : Duration := ⟨n * 1000000000⟩

/-- A number of milliseconds. -/
def ofMillis (n : Nat) : Duration := ⟨n * 1000000⟩

/-- A number of seconds and a number of nanoseconds. -/
def ofParts (secs nanos : Nat) : Duration := ⟨secs * 1000000000 + nanos⟩

/-- The whole seconds of a duration. -/
def secs (d : Duration) : Nat := d.nanos / 1000000000

/-- The whole milliseconds of a duration. -/
def millis (d : Duration) : Nat := d.nanos / 1000000

/-- Whole seconds are read back: `(ofSecs n).secs = n`. -/
@[simp] theorem secs_ofSecs (n : Nat) : (ofSecs n).secs = n := by
  simp [ofSecs, secs]

/-- Whole milliseconds are read back: `(ofMillis n).millis = n`. -/
@[simp] theorem millis_ofMillis (n : Nat) : (ofMillis n).millis = n := by
  simp [ofMillis, millis]

/-- The number `n` as the digits after a point, of which there are `places`, without the zeros at
their end and without the point if none is left. -/
def fraction (places n : Nat) : List Char :=
  let ds := Nat.toDigits 10 n
  let ds := List.replicate (places - ds.length) '0' ++ ds
  let ds := (ds.reverse.dropWhile (· == '0')).reverse
  if ds.isEmpty then [] else '.' :: ds

/-- A number of units of `10 ^ places` parts each, with as many digits after the point as it
needs. -/
def inUnit (places nanos : Nat) (unit : String) : String :=
  let parts := Decimal.tenTo places
  toString (nanos / parts) ++ String.ofList (fraction places (nanos % parts)) ++ unit

/-- A duration in the largest unit of which it holds a whole one, from nanoseconds up to seconds. -/
def text (d : Duration) : String :=
  if 1000000000 ≤ d.nanos then inUnit 9 d.nanos "s"
  else if 1000000 ≤ d.nanos then inUnit 6 d.nanos "ms"
  else if 1000 ≤ d.nanos then inUnit 3 d.nanos "µs"
  else inUnit 0 d.nanos "ns"

/-- A duration in seconds: its whole seconds and its rest are rounded, and so is their sum. -/
def toBinary64 (d : Duration) : Binary64 :=
  (Binary64.ofNat d.secs).add (Binary64.round (d.nanos % 1000000000) 1000000000)

end Duration

end MailDomain
