import MailDomain.Json.Draft

/-!
# Reading JSON text

A reader of JSON text on lists of characters. It makes a draft of a text, which holds the faults
of the text in their places. When the text goes on after a value, so does the reader.

An integer that fits into 64 bits is read as an integer, any other number as a floating-point
number: its digits as an integer of 64 bits, digits beyond those being dropped, scaled by one
rounded product or quotient with a power of ten.

## Main definitions

* `Json.Reader.draft` — the draft at the start of a text, and the text after it.
* `Json.read` — the value of a text, in which containers may be nested 127 deep.
-/

set_option relaxedAutoImplicit false
set_option autoImplicit false

namespace MailDomain.Json

namespace Reader

/-- The space characters of the format: space, line feed, tab and carriage return. -/
def isSpace (c : Char) : Bool := c == ' ' || c == '\n' || c == '\t' || c == '\r'

/-- A text without the spaces at its start, by `isSpace`. -/
def skip (cs : List Char) : List Char := cs.dropWhile isSpace

/-- The rest of a text after `letters`, with which it must go on. Where it ends before them the
fault is `endInValue`, where it differs `expectedWord`. -/
def word : (letters : List Char) → List Char → Except Fault (List Char)
  | [], cs => .ok cs
  | _ :: _, [] => .error .endInValue
  | l :: ls, c :: cs => if c = l then word ls cs else .error .expectedWord

/-- The value of a hexadecimal digit, in small or capital letters. -/
def hexDigit? (c : Char) : Option Nat :=
  let n := c.toNat
  if 48 ≤ n && n ≤ 57 then some (n - 48)
  else if 97 ≤ n && n ≤ 102 then some (n - 87)
  else if 65 ≤ n && n ≤ 70 then some (n - 55)
  else none

/-- The octets of a text in UTF-8. -/
def octets : List Char → Nat
  | [] => 0
  | c :: cs => c.utf8Size + octets cs

/-- The number of four hexadecimal digits, and the rest of the text. A text ends before them, with
`endInString`, if it has less than four `octets`; else the escape is bad. -/
def hexQuad : List Char → Except Fault (Nat × List Char)
  | a :: b :: c :: d :: cs =>
    match hexDigit? a, hexDigit? b, hexDigit? c, hexDigit? d with
    | some a, some b, some c, some d => .ok (((a * 16 + b) * 16 + c) * 16 + d, cs)
    | _, _, _, _ => .error .badEscape
  | cs => .error (if octets cs < 4 then .endInString else .badEscape)

/-- The character of a surrogate pair whose first half is `high`, given the text from its second
half on, which must be another numeric escape. -/
def lowSurrogate (high : Nat) : List Char → Except Fault (Char × List Char)
  | '\\' :: 'u' :: cs => do
    let (low, cs) ← hexQuad cs
    if 0xDC00 ≤ low && low ≤ 0xDFFF then
      return (Char.ofNat (0x10000 + (high - 0xD800) * 0x400 + (low - 0xDC00)), cs)
    else throw .loneSurrogate
  | [] => .error .endInString
  | ['\\'] => .error .endInString
  | _ => .error .endOfEscape

/-- The character of a numeric escape, given the text after its `u`. A first half of a pair goes on
with `lowSurrogate`; a second half on its own is a `loneSurrogate`. -/
def numericEscape (cs : List Char) : Except Fault (Char × List Char) := do
  let (n, cs) ← hexQuad cs
  if 0xDC00 ≤ n && n ≤ 0xDFFF then throw .loneSurrogate
  else if 0xD800 ≤ n && n ≤ 0xDBFF then lowSurrogate n cs
  else return (Char.ofNat n, cs)

/-- The character of an escape, given the text after its backslash. -/
def escape : List Char → Except Fault (Char × List Char)
  | [] => .error .endInString
  | c :: cs =>
    match c with
    | '"' => .ok ('"', cs)
    | '\\' => .ok ('\\', cs)
    | '/' => .ok ('/', cs)
    | 'b' => .ok ('\x08', cs)
    | 'f' => .ok ('\x0c', cs)
    | 'n' => .ok ('\n', cs)
    | 'r' => .ok ('\r', cs)
    | 't' => .ok ('\t', cs)
    | 'u' => numericEscape cs
    | _ => .error .badEscape

/-- The rest of a string after its opening quote; `acc` holds its characters in reverse. The `fuel`
bounds the characters and escapes that are read. -/
def string (fuel : Nat) (acc : List Char) (cs : List Char) : Except Fault (String × List Char) :=
  match fuel, cs with
  | 0, _ => .error .endInString
  | _, [] => .error .endInString
  | fuel + 1, c :: cs =>
    if c = '"' then .ok (String.ofList acc.reverse, cs)
    else if c = '\\' then
      match escape cs with
      | .ok (e, cs) => string fuel (e :: acc) cs
      | .error f => .error f
    else if c.toNat < 0x20 then .error .controlCharacter
    else string fuel (c :: acc) cs

/-- The rest of a text after an escape, which `passString` passes over: the four digits of a numeric
one need not make a character, unlike in `escape`. -/
def passEscape : List Char → Except Fault (List Char)
  | [] => .error .endInString
  | c :: cs =>
    if c = 'u' then (hexQuad cs).map Prod.snd
    else if ['"', '\\', '/', 'b', 'f', 'n', 'r', 't'].contains c then .ok cs
    else .error .badEscape

/-- The rest of a text after a string, given what follows its opening quote. It differs from
`string` only in its `passEscape`. -/
def passString (fuel : Nat) (cs : List Char) : Except Fault (List Char) :=
  match fuel, cs with
  | 0, _ => .error .endInString
  | _, [] => .error .endInString
  | fuel + 1, c :: cs =>
    if c = '"' then .ok cs
    else if c = '\\' then
      match passEscape cs with
      | .ok cs => passString fuel cs
      | .error f => .error f
    else if c.toNat < 0x20 then .error .controlCharacter
    else passString fuel cs

/-- The number of a run of digits, the first being the highest. -/
def ofDigits (ds : List Char) : Nat := ds.foldl (fun n d => n * 10 + (d.toNat - 48)) 0

/-- The number of words of 64 bits, `2 ^ 64`. -/
def words : Nat := 18446744073709551616

/-- Digits added one by one to `n` as long as the number stays below `words`, with the count of
those that do. -/
def significand : (n : Nat) → List Char → Nat × Nat
  | n, [] => (n, 0)
  | n, d :: ds =>
    let m := n * 10 + (d.toNat - 48)
    if m < words then
      let (r, k) := significand m ds
      (r, k + 1)
    else (n, 0)

/-- The magnitude `x · 10 ^ e`, by one rounded operation for each factor of at most `10 ^ 308`. A
positive exponent that does not fit is `numberTooLarge`, a negative one is divided by `10 ^ 308`
until it fits. -/
def scaled : (fuel : Nat) → Binary64 → Int → Except Fault Binary64
  | 0, x, _ => .ok x
  | fuel + 1, x, e =>
    if e.natAbs ≤ 308 then
      let p := Binary64.ofNat (Decimal.tenTo e.natAbs)
      match if 0 ≤ e then x.mul? p else x.div? p with
      | some y => .ok y
      | none => .error .numberTooLarge
    else if x.significand = 0 then .ok x
    else if 0 ≤ e then .error .numberTooLarge
    else match x.div? (Binary64.ofNat (Decimal.tenTo 308)) with
      | some y => scaled fuel y (e + 308)
      | none => .error .numberTooLarge

/-- A floating-point number of a significand and a decimal exponent: `n` rounded, then `scaled` by
`10 ^ e`. -/
def float (negative : Bool) (n : Nat) (e : Int) : Except Fault Number :=
  (scaled 3000 (Binary64.ofNat n) e).map (.float negative)

/-- The exponent of a number after its letter: a sign, which may be missing, and at least one
digit. -/
def exponent (cs : List Char) : Except Fault (Int × List Char) :=
  let (sign, cs) : Int × List Char := match cs with
    | '+' :: cs => (1, cs)
    | '-' :: cs => (-1, cs)
    | cs => (1, cs)
  let ds := cs.takeWhile Char.isDigit
  if ds.isEmpty then .error (if cs.isEmpty then .endInValue else .badNumber)
  else .ok (sign * ofDigits ds, cs.dropWhile Char.isDigit)

/-- The floating-point number `n · 10 ^ e · 10 ^ x`, when an exponent `x` was written. An `x` of at
least `2 ^ 31` in size is decided here, without `scaled`. -/
def withExponent (negative : Bool) (n : Nat) (e x : Int) : Except Fault Number :=
  if n = 0 then .ok (.float negative Binary64.zero)
  else if 2147483648 ≤ x then .error .numberTooLarge
  else if x ≤ -2147483648 then .ok (.float negative Binary64.zero)
  else float negative n (e + x)

/-- A number whose digits have been read as the integer `n` scaled by `10 ^ e`, with the exponent
that may follow. It stays an integer if it is `integral`, no digit was dropped, no exponent follows
and it fits into 64 bits, signed where `negative`. -/
def scale (negative integral : Bool) (n : Nat) (e : Int) (cs : List Char) :
    Except Fault (Number × List Char) :=
  match cs with
  | 'e' :: rest | 'E' :: rest =>
    match exponent rest with
    | .ok (x, cs) => (withExponent negative n e x).map fun v => (v, cs)
    | .error f => .error f
  | cs =>
    if !integral || e != 0 then (float negative n e).map fun v => (v, cs)
    else if !negative then .ok (.int n, cs)
    else if n = 0 || 9223372036854775808 < n then .ok (.float true (Binary64.ofNat n), cs)
    else .ok (.int (-n), cs)

/-- The number with the digits `whole` before the point, and the text that goes on after it. Digits
beyond the `significand` count towards the exponent of ten. -/
def number (negative : Bool) (whole : List Char) (cs : List Char) :
    Except Fault (Number × List Char) :=
  let (n, kept) := significand 0 whole
  let e : Int := (whole.length - kept : Nat)
  match cs with
  | '.' :: rest =>
    let ds := rest.takeWhile Char.isDigit
    let rest := rest.dropWhile Char.isDigit
    if ds.isEmpty then .error (if rest.isEmpty then .endInValue else .badNumber)
    else
      let (n, more) := significand n ds
      scale negative false n (e - more) rest
  | cs => scale negative true n e cs

/-- A number after its sign. A `0` at its start must be its only digit before the point. -/
def unsigned (negative : Bool) : List Char → Except Fault (Number × List Char)
  | [] => .error .endInValue
  | c :: cs =>
    if c = '0' then
      match cs with
      | d :: _ => if d.isDigit then .error .badNumber else number negative ['0'] cs
      | [] => number negative ['0'] []
    else if c.isDigit then
      number negative (c :: cs.takeWhile Char.isDigit) (cs.dropWhile Char.isDigit)
    else .error .badNumber

/-- The rest of a text after digits, of which there must be some, else the fault is `badNumber`. -/
def passDigits (cs : List Char) : Except Fault (List Char) :=
  if (cs.takeWhile Char.isDigit).isEmpty then .error .badNumber
  else .ok (cs.dropWhile Char.isDigit)

/-- The rest of a text after the exponent of a number, if it has one. A text that ends here is no
`endInValue`, unlike in `exponent`. -/
def passExponent : List Char → Except Fault (List Char)
  | 'e' :: '+' :: cs | 'e' :: '-' :: cs | 'E' :: '+' :: cs | 'E' :: '-' :: cs => passDigits cs
  | 'e' :: cs | 'E' :: cs => passDigits cs
  | cs => .ok cs

/-- The rest of a text after the fraction and the exponent of a number, as far as it has them. -/
def passFraction : List Char → Except Fault (List Char)
  | '.' :: cs => passDigits cs >>= passExponent
  | cs => passExponent cs

/-- The rest of a text after a number without its sign, whose size does not matter here, unlike in
`unsigned`. -/
def passNumber : List Char → Except Fault (List Char)
  | '0' :: cs => if cs.head?.any Char.isDigit then .error .badNumber else passFraction cs
  | cs => passDigits cs >>= passFraction

/-- What was read at the start of a text, and the text after it if it goes on, `none` where the
reader stopped. -/
abbrev Found := Draft × Option (List Char)

/-- The text breaks off with the fault `f`, which readers meet alike whether they keep the value or
pass over it. -/
def breaksOff (f : Fault) : Found := (.broken f f, none)

/-- A draft of what was read as `read`, or else could be passed over as `passed`: `unreadable` where
only the reading fails, and `broken` with both faults where both fail. -/
def taken {α : Type} (make : α → Draft) (read : Except Fault (α × List Char))
    (passed : Except Fault (List Char)) : Found :=
  match read, passed with
  | .ok (a, rest), _ => (make a, some rest)
  | .error f, .ok rest => (.unreadable f, some rest)
  | .error f, .error g => (.broken f g, none)

/-- The draft `d` of a word, if the text goes on with its remaining `letters`. -/
def wordDraft (d : Draft) (letters cs : List Char) : Found :=
  match word letters cs with
  | .ok rest => (d, some rest)
  | .error f => breaksOff f

/-- A draft of a string after its opening quote, of `string` and `passString` with fuel for the
whole text. -/
def stringDraft (cs : List Char) : Found :=
  let fuel := cs.length + 1
  taken .str (string fuel [] cs) (passString fuel cs)

/-- A draft of a number after its sign, of `unsigned` and `passNumber`. -/
def numberDraft (negative : Bool) (cs : List Char) : Found :=
  taken .num (unsigned negative cs) (passNumber cs)

mutual

/-- The draft at the start of a text, which its first character after the spaces decides. The `fuel`
bounds the calls, see `Draft.ofText`. -/
def draft : (fuel : Nat) → List Char → Found
  | 0, _ => breaksOff .endInValue
  | fuel + 1, cs =>
    match skip cs with
    | [] => breaksOff .endInValue
    | c :: cs =>
      match c with
      | 'n' => wordDraft .null ['u', 'l', 'l'] cs
      | 't' => wordDraft (.bool true) ['r', 'u', 'e'] cs
      | 'f' => wordDraft (.bool false) ['a', 'l', 's', 'e'] cs
      | '"' => stringDraft cs
      | '-' => numberDraft true cs
      | '[' => elems fuel true [] cs
      | '\x7b' => members fuel true [] cs
      | c => if c.isDigit then numberDraft false (c :: cs) else breaksOff .expectedValue

/-- The elements of an array, at its start or after an element; `acc` holds those read, in reverse.
The `Ending` of the array tells what a reader that goes on, one that stops after the last field and
one that passes over the array meet there. -/
def elems : (fuel : Nat) → (first : Bool) → List Draft → List Char → Found
  | 0, _, acc, _ => (.arr acc.reverse (.broken .endInArray .endInArray .endInArray), none)
  | fuel + 1, first, acc, cs =>
    match skip cs with
    | [] => (.arr acc.reverse (.broken .endInArray .endInArray .endInArray), none)
    | c :: cs =>
      if c = ']' then (.arr acc.reverse .closed, some cs)
      else if first then elem fuel acc (c :: cs)
      else if c = ',' then
        match skip cs with
        | [] => (.arr acc.reverse (.broken .endInValue .endInValue .trailingText), none)
        | d :: cs =>
          if d = ']' then
            (.arr acc.reverse (.broken .trailingComma .expectedValue .trailingComma), none)
          else elem fuel acc (d :: cs)
      else
        (.arr acc.reverse
          (.broken .expectedCommaOrBracket .expectedCommaOrBracket .trailingText), none)

/-- An element of an array, and the elements that follow. Where the text breaks off in the element
the fault is in its draft, so the array itself counts as closed. -/
def elem : (fuel : Nat) → List Draft → List Char → Found
  | 0, acc, _ => (.arr acc.reverse (.broken .endInArray .endInArray .endInArray), none)
  | fuel + 1, acc, cs =>
    match draft fuel cs with
    | (d, none) => (.arr (d :: acc).reverse .closed, none)
    | (d, some cs) => elems fuel false (d :: acc) cs

/-- The members of an object, at its start or after a member; `acc` holds those read, in reverse.
After a comma a name must follow. -/
def members : (fuel : Nat) → (first : Bool) → List (Except Fault String × Draft) → List Char →
    Found
  | 0, _, acc, _ => (.obj acc.reverse (.broken .endInObject .endInObject .endInObject), none)
  | fuel + 1, first, acc, cs =>
    let broken (reading passing : Fault) : Found :=
      (.obj acc.reverse (.broken reading passing reading), none)
    match skip cs with
    | [] => broken .endInObject .endInObject
    | c :: cs =>
      if c = '\x7d' then (.obj acc.reverse .closed, some cs)
      else if first then
        if c = '"' then member fuel acc cs else broken .keyNotString .keyNotString
      else if c = ',' then
        match skip cs with
        | [] => broken .endInValue .endInObject
        | d :: cs =>
          if d = '"' then member fuel acc cs
          else if d = '\x7d' then broken .trailingComma .keyNotString
          else broken .keyNotString .keyNotString
      else broken .expectedCommaOrBrace .expectedCommaOrBrace

/-- A member after the opening quote of its name, and the members that follow. A name that cannot be
read but passed over is kept as its fault. -/
def member : (fuel : Nat) → List (Except Fault String × Draft) → List Char → Found
  | 0, acc, _ => (.obj acc.reverse (.broken .endInObject .endInObject .endInObject), none)
  | fuel + 1, acc, cs =>
    match stringDraft cs with
    | (.broken f g, _) => (.obj acc.reverse (.broken f g f), none)
    | (.unreadable f, some cs) => memberValue fuel (.error f) acc cs
    | (.str name, some cs) => memberValue fuel (.ok name) acc cs
    | (_, _) => (.obj acc.reverse .closed, none)

/-- The value of a member after its `name`, and the members that follow. A text without a colon
breaks off inside the draft of the value. -/
def memberValue : (fuel : Nat) → Except Fault String → List (Except Fault String × Draft) →
    List Char → Found
  | 0, _, acc, _ => (.obj acc.reverse (.broken .endInObject .endInObject .endInObject), none)
  | fuel + 1, name, acc, cs =>
    let last (d : Draft) : Found := (.obj ((name, d) :: acc).reverse .closed, none)
    match skip cs with
    | [] => last (.broken .endInObject .endInObject)
    | c :: cs =>
      if c = ':' then
        match draft fuel cs with
        | (d, none) => last d
        | (d, some cs) => members fuel false ((name, d) :: acc) cs
      else last (.broken .expectedColon .expectedColon)

end

end Reader

/-- The draft at the start of a text, and the text after it, which is empty where the reader
stopped. -/
def Draft.ofText (s : String) : Draft × List Char :=
  let cs := s.toList
  -- of three calls in a row one takes a character, so this many calls are enough
  let (d, rest) := Reader.draft (3 * cs.length + 3) cs
  (d, rest.getD [])

/-- Refuses a text in which more than spaces is left, with `trailingText`. -/
def atEnd (cs : List Char) : Except Fault Unit :=
  if (Reader.skip cs).isEmpty then .ok () else .error .trailingText

/-- How many containers may be nested in a value that is read whole, by `read` or `whole`. -/
def maxDepth : Nat := 127

/-- The value of a text: its draft, nested at most `maxDepth` deep, with nothing but spaces after
it. -/
def read (s : String) : Except Fault Json := do
  let (d, rest) := Draft.ofText s
  let v ← d.value maxDepth
  atEnd rest
  return v

end MailDomain.Json
