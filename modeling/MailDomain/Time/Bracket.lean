import MailDomain.Time.Offset

/-!
# Annotations of points in time

Annotations stand in brackets after a point in time. The first may name a time zone or give an
offset; any other has a key and values. They do not change what the point in time is, but they
must be well formed, and one with a flag that it must be understood is refused.

## Main definitions

* `Bracket.skip` — what follows the annotations at the start of a list of octets.
-/

set_option relaxedAutoImplicit false
set_option autoImplicit false

namespace MailDomain.Bracket

/-- Whether an octet is a small letter. -/
def isLower (b : UInt8) : Bool := 97 ≤ b && b ≤ 122

/-- Whether an octet is a letter. -/
def isLetter (b : UInt8) : Bool := isLower b || (65 ≤ b && b ≤ 90)

/-- Whether the name of a time zone may begin with an octet. -/
def startsZone (b : UInt8) : Bool := b = 95 || b = 46 || isLetter b

/-- Whether an octet may stand in the name of a time zone. -/
def inZone (b : UInt8) : Bool := startsZone b || b = 43 || b = 45 || Octet.isDigit b

/-- Whether a key may begin with an octet. -/
def startsKey (b : UInt8) : Bool := b = 95 || isLower b

/-- Whether an octet may stand in a key after its first. -/
def inKey (b : UInt8) : Bool := startsKey b || b = 45 || Octet.isDigit b

/-- Whether an octet may stand in a value. -/
def inValue (b : UInt8) : Bool := isLetter b || Octet.isDigit b

/-- What follows one octet that must satisfy `p`; any other is a fault of the `part`. -/
def one (part : BracketPart) (p : UInt8 → Bool) : List UInt8 → Except TimeFault (List UInt8)
  | [] => .error (.bracket part none)
  | b :: bs => if p b then .ok bs else .error (.bracket part (some b))

/-- What follows a word: an octet that satisfies `starts`, and then those that satisfy `inside`. -/
def word (part : BracketPart) (starts inside : UInt8 → Bool) (bs : List UInt8) :
    Except TimeFault (List UInt8) :=
  (one part starts bs).map (·.dropWhile inside)

/-- What follows words with `sep` between them. The `fuel` bounds their number. -/
def words (part : BracketPart) (starts inside : UInt8 → Bool) (sep : UInt8) :
    (fuel : Nat) → List UInt8 → Except TimeFault (List UInt8)
  | 0, bs => .ok bs
  | fuel + 1, bs =>
    match word part starts inside bs with
    | .error f => .error f
    | .ok [] => .ok []
    | .ok (b :: rest) =>
      if b = sep then words part starts inside sep fuel rest else .ok (b :: rest)

/-- What follows the flag `!` that an annotation must be understood, and whether there is one. -/
def flag : List UInt8 → Bool × List UInt8
  | 33 :: bs => (true, bs)
  | bs => (false, bs)

/-- What follows an annotation of a time zone after its opening bracket, or `none` if it is an
annotation with a key, which its equals sign shows. A zone is an offset or a name. -/
def zone? (bs : List UInt8) : Except TimeFault (Option (List UInt8)) := do
  let (_, bs) := flag bs
  if bs.head? = some 43 || bs.head? = some 45 then
    let (_, bs) ← UtcOffset.readSigned false bs
    some <$> one .zoneEnd (· == 93) bs
  else
    let first ← word .zoneName startsZone inZone bs
    if first.head? = some 61 then return none
    else
      let bs ← words .zoneName startsZone inZone 47 (bs.length + 1) bs
      some <$> one .zoneEnd (· == 93) bs

/-- What follows an annotation with a key after its opening bracket. One that must be understood is
refused, since no key is known. -/
def keyed (bs : List UInt8) : Except TimeFault (List UInt8) := do
  let (critical, bs) := flag bs
  let bs ← word .key startsKey inKey bs
  let bs ← one .equals (· == 61) bs
  let bs ← words .value inValue inValue 45 (bs.length + 1) bs
  let bs ← one .ending (· == 93) bs
  if critical then throw .critical
  return bs

/-- What follows annotations with keys, of which there may be any number. -/
def skipKeyed : (fuel : Nat) → List UInt8 → Except TimeFault (List UInt8)
  | 0, bs => .ok bs
  | fuel + 1, bs =>
    match bs with
    | 91 :: rest => do skipKeyed fuel (← keyed rest)
    | _ => .ok bs

/-- What follows the annotation of a time zone, if there is one. -/
def skipZone (bs : List UInt8) : Except TimeFault (List UInt8) :=
  match bs with
  | 91 :: rest => (zone? rest).map fun after => after.getD bs
  | _ => .ok bs

/-- What follows the annotations at the start of a list of octets: first that of a time zone, then
those with keys. -/
def skip (bs : List UInt8) : Except TimeFault (List UInt8) := do
  let bs ← skipZone bs
  skipKeyed bs.length bs

end MailDomain.Bracket
