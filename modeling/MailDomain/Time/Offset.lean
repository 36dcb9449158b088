import MailDomain.Time.Fault

/-!
# Numbers, fractions and offsets

What points in time are made of is read from the start of a list of octets; what follows is
handed on. The offset of a time zone is a sign, hours, and perhaps minutes and seconds, with
colons between all of them or none.

## Main definitions

* `TimePart.read` — a number of fixed width.
* `UtcOffset` — by how much a time zone is ahead of UTC, with `text` and `read`.

## Main results

* `TimePart.read_bounds` — a number that is read lies in the range of its part.
-/

set_option relaxedAutoImplicit false
set_option autoImplicit false

namespace MailDomain

namespace Octet

/-- Whether an octet is a digit. -/
def isDigit (b : UInt8) : Bool := 48 ≤ b && b ≤ 57

/-- Whether a list of octets goes on with two digits. -/
def twoDigits : List UInt8 → Bool
  | a :: b :: _ => isDigit a && isDigit b
  | _ => false

/-- Whether a list of octets goes on with another number, and what follows the colon before it.
When the numbers have colons between them a colon must come, and otherwise two digits. -/
def another (colons : Bool) (bs : List UInt8) : Option (List UInt8) :=
  if colons then
    match bs with
    | 58 :: rest => some rest
    | _ => none
  else if twoDigits bs then some bs
  else none

end Octet

namespace TimePart

/-- The number of a list of digits that is read after `n`; the first octet that is no digit is a
fault of the part `p`. -/
def number (p : TimePart) : (n : Nat) → List UInt8 → Except TimeFault Nat
  | n, [] => .ok n
  | n, b :: bs =>
    if Octet.isDigit b then p.number (n * 10 + (b.toNat - 48)) bs else .error (.noDigit p b)

/-- The number at the start of a list of octets: as many digits as the `width` of the part, in its
`range`. -/
def read (p : TimePart) (bs : List UInt8) : Except TimeFault (Nat × List UInt8) :=
  if bs.length < p.width then .error (.cut p)
  else match p.number 0 (bs.take p.width) with
    | .error f => .error f
    | .ok n =>
      if p.range.1 ≤ n ∧ (n : Int) ≤ p.range.2 then .ok (n, bs.drop p.width)
      else .error (.outOfRange p)

/-- A number that is read lies in the `range` of its part. -/
theorem read_bounds {p : TimePart} {bs rest : List UInt8} {n : Nat}
    (h : p.read bs = .ok (n, rest)) : p.range.1 ≤ n ∧ (n : Int) ≤ p.range.2 := by
  unfold read at h
  split at h
  · simp at h
  · split at h
    · simp at h
    · split at h
      · next hr =>
        simp only [Except.ok.injEq, Prod.mk.injEq] at h
        rwa [← h.1]
      · simp at h

end TimePart

/-- The digits of a fraction of a second and what follows it. There may be nine digits; without a
point or a comma there is no fraction. -/
def fraction (bs : List UInt8) : Except TimeFault (List UInt8 × List UInt8) :=
  match bs with
  | 46 :: rest | 44 :: rest =>
    let digits := (rest.take 9).takeWhile Octet.isDigit
    if digits.isEmpty then .error .noFraction else .ok (digits, rest.drop digits.length)
  | _ => .ok ([], bs)

/-- By how many seconds a time zone is ahead of UTC, negative where it is behind. -/
structure UtcOffset where
  seconds : Int
  deriving DecidableEq, Repr

namespace UtcOffset

/-- The offset of UTC itself. -/
def zero : UtcOffset := ⟨0⟩

/-- An offset as a sign, hours, and the minutes and seconds that there are, as messages show it. -/
def text (o : UtcOffset) : String :=
  let s := o.seconds.natAbs
  let sign := if o.seconds < 0 then "-" else "+"
  let hours := Timestamp.padded 2 (s / 3600)
  let minutes := ":" ++ Timestamp.padded 2 (s / 60 % 60)
  let seconds := ":" ++ Timestamp.padded 2 (s % 60)
  if s % 3600 = 0 then sign ++ hours
  else if s % 60 = 0 then sign ++ hours ++ minutes
  else sign ++ hours ++ minutes ++ seconds

/-- The most seconds that an offset may have, ahead or behind. -/
def most : Nat := 93599

/-- The offset of some seconds whose sign is `negative` or not. -/
def ofSigned (negative : Bool) (seconds : Nat) : UtcOffset :=
  ⟨if negative then -(seconds : Int) else seconds⟩

/-- The seconds of an offset after its sign, rounded to whole ones. Without `fine`, there must
not be more than minutes. -/
def magnitude (fine : Bool) (bs : List UInt8) : Except TimeFault (Nat × List UInt8) := do
  let (hours, bs) ← TimePart.offsetHours.read bs
  let colons := bs.head? = some 58
  match Octet.another colons bs with
  | none => return (hours * 3600, bs)
  | some bs =>
    let (minutes, bs) ← TimePart.offsetMinutes.read bs
    let whole := hours * 3600 + minutes * 60
    if !fine then
      if bs.head? = some 58 then throw .finerThanMinutes
      return (whole, bs)
    match Octet.another colons bs with
    | none => return (whole, bs)
    | some bs =>
      let (seconds, bs) ← TimePart.offsetSeconds.read bs
      let (digits, bs) ← fraction bs
      -- a fraction of a half or more counts as one
      let up := digits.head?.any (53 ≤ ·)
      return (whole + seconds + (if up then 1 else 0), bs)

/-- An offset with a sign at the start of a list of octets, its `magnitude` after the sign. -/
def readSigned (fine : Bool) : List UInt8 → Except TimeFault (UtcOffset × List UInt8)
  | 43 :: bs => do
    let (s, bs) ← magnitude fine bs
    return (ofSigned false s, bs)
  | 45 :: bs => do
    let (s, bs) ← magnitude fine bs
    return (ofSigned true s, bs)
  | _ => .error .noSign

/-- The offset at the start of a list of octets, if there is one: the letter of UTC or an offset
with a sign. -/
def read (bs : List UInt8) : Except TimeFault (Option UtcOffset × List UInt8) :=
  match bs with
  | [] => .ok (none, [])
  | b :: rest =>
    if b = 90 || b = 122 then .ok (some zero, rest)
    else if b = 43 || b = 45 then do
      let (o, rest) ← readSigned true bs
      return (some o, rest)
    else .ok (none, bs)

end UtcOffset

end MailDomain
