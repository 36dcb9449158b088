import MailDomain.Text.Quoted
import MailDomain.Text.Utf8
import MailDomain.Time.Timestamp

/-!
# Why a text is no point in time

The text of a point in time is made of numbers of fixed width, each with its range, of the
characters between them, and of annotations in brackets. It is read octet by octet.

## Main definitions

* `TimePart` — what a number says, with its `width` and `range`.
* `BracketPart` — what an annotation goes on with.
* `TimeFault` — why a text is no point in time, with its `message`.
-/

set_option relaxedAutoImplicit false
set_option autoImplicit false

namespace MailDomain

/-- What a number within a point in time says, by which its `width` and its `range` are known. -/
inductive TimePart
  | year
  /-- A year after a sign. -/
  | signedYear
  | month
  | day
  | hour
  | minute
  | second
  | offsetHours
  | offsetMinutes
  | offsetSeconds
  deriving DecidableEq, Repr

namespace TimePart

/-- The number of digits, which is fixed for each part. -/
def width : TimePart → Nat
  | .year => 4
  | .signedYear => 6
  | _ => 2

/-- What messages call the number. -/
def name : TimePart → String
  | .year | .signedYear => "year"
  | .month => "month"
  | .day => "day"
  | .hour => "hour"
  | .minute => "minute"
  | .second => "second"
  | .offsetHours => "time zone offset hours"
  | .offsetMinutes => "time zone offset minutes"
  | .offsetSeconds => "time zone offset seconds"

/-- The range of the number. The second may be a leap second. -/
def range : TimePart → Int × Int
  | .year | .signedYear => (-9999, 9999)
  | .month => (1, 12)
  | .day => (1, 31)
  | .hour => (0, 23)
  | .minute => (0, 59)
  | .second => (0, 60)
  | .offsetHours => (-25, 25)
  | .offsetMinutes | .offsetSeconds => (-59, 59)

/-- What is missing when a text ends before the number does, in a `TimeFault.cut`. -/
def due : TimePart → String
  | .year => "four digit year (or leading sign for six digit year)"
  | .signedYear => "six digit year (because of a leading sign)"
  | .offsetHours => "two digit hour after sign"
  | .offsetMinutes => "two digit minute after hours"
  | .offsetSeconds => "two digit second after minutes"
  | p => "two digit " ++ p.name

/-- What fails when the digits are no number in the `range` of the part. -/
def reading : TimePart → String
  | .year => "four digit integer as year"
  | .signedYear => "six digit integer as year"
  | .offsetHours => "hours (requires a two digit integer)"
  | .offsetMinutes => "minutes (requires a two digit integer)"
  | .offsetSeconds => "seconds (requires a two digit integer)"
  | p => "two digit integer as " ++ p.name

end TimePart

/-- What an annotation must go on with, see `BracketPart.expectations`. -/
inductive BracketPart
  /-- A part of the name of a time zone, or the start of an annotation. -/
  | zoneName
  /-- The end of the name of a time zone. -/
  | zoneEnd
  | key
  /-- The sign between a key and its values. -/
  | equals
  | value
  /-- The end of an annotation. -/
  | ending
  deriving DecidableEq, Repr

/-- The wording of what an annotation must go on with, when the text ends and when something
else is found. -/
def BracketPart.expectations : BracketPart → String × String
  | .zoneName => (
      "the start of an RFC 9557 annotation or IANA time zone component name",
      "ASCII alphabetic byte (or underscore or period) at the start of an RFC 9557 annotation " ++
        "or time zone component name")
  | .zoneEnd => both "an `]` after parsing an RFC 9557 time zone annotation"
  | .key => (
      "the start of an RFC 9557 annotation key",
      "lowercase alphabetic byte (or underscore) at the start of an RFC 9557 annotation key")
  | .equals => both "an `=` after parsing an RFC 9557 annotation key"
  | .value => (
      "the start of an RFC 9557 annotation value",
      "alphanumeric ASCII byte at the start of an RFC 9557 annotation value")
  | .ending => both "an `]` after parsing an RFC 9557 annotation key and value"
where
  both (s : String) : String × String := (s, s)

/-- Why a text is no point in time, see `TimeFault.message`. -/
inductive TimeFault
  /-- The text ends before a number does. -/
  | cut (part : TimePart)
  /-- Something within a number is no digit. -/
  | noDigit (part : TimePart) (found : UInt8)
  | outOfRange (part : TimePart)
  /-- The year zero has a negative sign. -/
  | negativeZero
  /-- A hyphen is missing in a date that has one after its year. -/
  | noHyphen (found : Option UInt8)
  /-- A date has a hyphen, but none after its year. -/
  | strayHyphen
  /-- A month does not have the day. -/
  | noSuchDay (year : Int) (month days : Nat)
  /-- No digits follow the point of a fraction. -/
  | noFraction
  /-- The offset of a time zone has no sign. -/
  | noSign
  /-- The offset of an annotation goes on with seconds. -/
  | finerThanMinutes
  /-- A rounded offset is too large. -/
  | offsetTooLarge
  | bracket (expected : BracketPart) (found : Option UInt8)
  /-- An annotation has a flag that it must be understood. -/
  | critical
  /-- More text follows. -/
  | leftOver (parsed rest : List UInt8)
  /-- A date has no time. -/
  | noTime
  /-- A time has no offset. -/
  | noOffset
  /-- A point in time is too early or too late; `offset` is the text of its offset. -/
  | beyond (offset : String)
  deriving DecidableEq, Repr

namespace TimeFault

/-- The form of an octet below 128 in a message, with hexadecimal digits written by `digit`. -/
def asciiForm (digit : Nat → Char) (n : Nat) : List Char :=
  if n = 9 then ['\\', 't']
  else if n = 10 then ['\\', 'n']
  else if n = 13 then ['\\', 'r']
  else if n = 34 || n = 39 || n = 92 then ['\\', Char.ofNat n]
  else if 0x20 ≤ n && n < 0x7F then [Char.ofNat n]
  else ['\\', 'x', digit (n / 16), digit (n % 16)]

/-- The form of one octet in a message, with capital hexadecimal digits. -/
def octetText (b : UInt8) : String :=
  String.ofList (asciiForm (fun n => (Nat.digitChar n).toUpper) b.toNat)

/-- The form of one character of a text in a message, with small hexadecimal digits. -/
def charForm (c : Char) : List Char :=
  if c = '\x00' then ['\\', '0']
  else if c.toNat < 0x80 then asciiForm Nat.digitChar c.toNat
  else Text.escape c

/-- The form of octets in a message, after `Text.decode` has made a text of them. -/
def octetsText (bs : List UInt8) : String :=
  String.ofList ((Text.decode bs).toList.flatMap charForm)

/-- The wording of a fault, as the reason in a message of the reader. -/
def message : TimeFault → String
  | .cut p => "expected " ++ p.due ++ ", but found end of input"
  | .noDigit p b =>
    "failed to parse " ++ p.reading ++ ": invalid digit, expected 0-9 but got " ++ octetText b
  | .outOfRange p =>
    "failed to parse " ++ p.reading ++ ": parameter '" ++ p.name ++
      "' is not in the required range of " ++ toString p.range.1 ++ "..=" ++ toString p.range.2
  | .negativeZero =>
    "year zero must be written without a sign or a positive sign, but not a negative sign"
  | .noHyphen none => "expected `-` separator, but found end of input"
  | .noHyphen (some b) => "expected `-` separator, but found `" ++ octetText b ++ "`"
  | .strayHyphen =>
    "expected no separator since none was found after the year, but found a `-` separator"
  | .noSuchDay y m d =>
    "parsed date is not valid: parameter 'day' for `" ++ Timestamp.yearText y ++ "-" ++
      Timestamp.padded 2 m ++ "` is invalid, must be in range `1..=" ++ toString d ++ "`"
  | .noFraction =>
    "found decimal after seconds component, but did not find any decimal digits after decimal"
  | .noSign => "expected `+` or `-` sign at start of UTC numeric offset"
  | .finerThanMinutes =>
    "subminute precision for UTC numeric offset is not enabled in this context " ++
      "(must provide only integral minutes)"
  | .offsetTooLarge =>
    "due to precision loss, offset is rounded to a value that is out of bounds"
  | .bracket .equals (some 47) =>
    "expected an `=` after parsing an RFC 9557 annotation key, but found `/` instead " ++
      "(time zone annotations must come first)"
  | .bracket p none =>
    "expected " ++ p.expectations.1 ++ ", but found end of input instead"
  | .bracket p (some b) =>
    "expected " ++ p.expectations.2 ++ ", but found `" ++ octetText b ++ "` instead"
  | .critical => "found unsupported RFC 9557 annotation with the critical flag (`!`) set"
  | .leftOver parsed rest =>
    "parsed value '" ++ octetsText parsed ++ "', but unparsed input \"" ++ octetsText rest ++
      "\" remains (expected no unparsed input)"
  | .noTime => "failed to find time component, which is required for parsing a timestamp"
  | .noOffset => "failed to find offset component, which is required for parsing a timestamp"
  | .beyond o =>
    "failed to convert civil datetime to timestamp with offset " ++ o ++
      ": converting datetime with time zone offset `" ++ o ++
      "` to timestamp overflowed: parameter 'Unix timestamp seconds' is not in the required " ++
      "range of -377705023201..=253402207200"

end TimeFault

end MailDomain
