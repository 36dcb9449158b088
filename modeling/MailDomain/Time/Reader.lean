import MailDomain.Time.Bracket

/-!
# Reading points in time

The text of a point in time is a date, a time of the day, the offset of its time zone, and
annotations. The date and the time have hyphens and colons between their numbers, or nothing;
minutes and seconds may be left out. A fraction of a second is dropped.

## Main definitions

* `CivilDate`, `CivilTime` — a date, and a time of the day.
* `Timestamp.read` — the point in time of a text.

## Main results

* `CivilDate.read_valid` — a date that is read is one of the calendar.
-/

set_option relaxedAutoImplicit false
set_option autoImplicit false

namespace MailDomain

/-- A date of the Gregorian calendar. -/
structure CivilDate where
  year : Int
  month : Nat
  day : Nat
  deriving DecidableEq, Repr

/-- A time of the day, to the second. -/
structure CivilTime where
  hour : Nat
  minute : Nat := 0
  second : Nat := 0
  deriving DecidableEq, Repr

namespace CivilDate

/-- The year at the start of a list of octets: four digits, or six after a sign. The year zero has
no negative sign. -/
def readYear (bs : List UInt8) : Except TimeFault (Int × List UInt8) :=
  match bs with
  | 43 :: rest => do
    let (n, rest) ← TimePart.signedYear.read rest
    return ((n : Int), rest)
  | 45 :: rest => do
    let (n, rest) ← TimePart.signedYear.read rest
    if n = 0 then throw .negativeZero
    return (-(n : Int), rest)
  | _ => do
    let (n, rest) ← TimePart.year.read bs
    return ((n : Int), rest)

/-- What follows the separator of a date, which is a hyphen throughout or missing throughout. -/
def separator (hyphens : Bool) (bs : List UInt8) : Except TimeFault (List UInt8) :=
  match hyphens, bs with
  | true, 45 :: rest => .ok rest
  | true, bs => .error (.noHyphen bs.head?)
  | false, 45 :: _ => .error .strayHyphen
  | false, bs => .ok bs

/-- The date at the start of a list of octets. Whether `hyphens` separate its parts is decided after
the year. -/
def read (bs : List UInt8) : Except TimeFault (CivilDate × List UInt8) := do
  let (year, bs) ← readYear bs
  let hyphens := bs.head? = some 45
  let (month, bs) ← TimePart.month.read (← separator hyphens bs)
  let (day, bs) ← TimePart.day.read (← separator hyphens bs)
  let days := Timestamp.daysInMonth year month
  if days < day then .error (.noSuchDay year month days) else .ok (⟨year, month, day⟩, bs)

/-- A date that is read is one of the calendar: its month is one of twelve, and its day lies in
`Timestamp.daysInMonth`. -/
theorem read_valid {bs rest : List UInt8} {d : CivilDate} (h : read bs = .ok (d, rest)) :
    1 ≤ d.month ∧ d.month ≤ 12 ∧ 1 ≤ d.day ∧ d.day ≤ Timestamp.daysInMonth d.year d.month := by
  simp only [read, bind, Except.bind] at h
  repeat' split at h
  all_goals simp only [reduceCtorEq, Except.ok.injEq, Prod.mk.injEq] at h
  rename_i _ hm _ _ _ _ _ hd hn
  have hm := TimePart.read_bounds hm
  have hd := TimePart.read_bounds hd
  simp only [TimePart.range] at hm hd
  obtain ⟨rfl, -⟩ := h
  simp only
  omega

end CivilDate

namespace CivilTime

/-- The time at the start of a list of octets, of which minutes and seconds may be missing. A leap
second is the second before it, and a fraction is dropped. -/
def read (bs : List UInt8) : Except TimeFault (CivilTime × List UInt8) := do
  let (hour, bs) ← TimePart.hour.read bs
  let colons := bs.head? = some 58
  match Octet.another colons bs with
  | none => return ({ hour }, bs)
  | some bs =>
    let (minute, bs) ← TimePart.minute.read bs
    match Octet.another colons bs with
    | none => return ({ hour, minute }, bs)
    | some bs =>
      let (second, bs) ← TimePart.second.read bs
      let (_, bs) ← fraction bs
      return ({ hour, minute, second := min second 59 }, bs)

end CivilTime

namespace Timestamp

/-- The time and the offset at the start of a list of octets, where there may be none. A time
follows a `T` or a space. -/
def readTime (bs : List UInt8) :
    Except TimeFault (Option CivilTime × Option UtcOffset × List UInt8) :=
  match bs with
  | [] => .ok (none, none, [])
  | b :: rest =>
    if b = 84 || b = 116 || b = 32 then do
      let (time, rest) ← CivilTime.read rest
      let (offset, rest) ← UtcOffset.read rest
      return (some time, offset, rest)
    else .ok (none, none, bs)

/-- The first and the last point in time, in seconds since 1970. -/
def bounds : Int × Int := (-377705023201, 253402207200)

/-- The point in time of a date and a time in the time zone with the given `offset`, if it is within
`bounds`. -/
def ofCivil (date : CivilDate) (time : CivilTime) (offset : UtcOffset) :
    Except TimeFault Timestamp :=
  let s := daysOfDate date.year date.month date.day * 86400 +
    (time.hour * 3600 + time.minute * 60 + time.second : Nat) - offset.seconds
  if bounds.1 ≤ s ∧ s ≤ bounds.2 then .ok ⟨s⟩ else .error (.beyond offset.text)

/-- The point in time of a text: a date, a time, an offset and annotations, up to the end of the
text. -/
def read (s : String) : Except TimeFault Timestamp := do
  let bs := Text.octets s
  let (date, rest) ← CivilDate.read bs
  let (time, offset, rest) ← readTime rest
  let rest ← Bracket.skip rest
  if !rest.isEmpty then throw (.leftOver (bs.take (bs.length - rest.length)) rest)
  match time, offset with
  | none, _ => .error .noTime
  | _, none => .error .noOffset
  | some time, some offset =>
    if UtcOffset.most < offset.seconds.natAbs then .error .offsetTooLarge
    else ofCivil date time offset

end Timestamp

end MailDomain
