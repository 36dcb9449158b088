/-!
# Octets read as text

Octets are read as UTF-8. A sequence that is no character is read as the replacement
character: each longest beginning of a character that is not completed counts for one, and so
does each octet that begins none.

## Main definitions

* `Text.Opening` — what one octet is at the start of a character.
* `Text.decode` — the text of a list of octets.
* `Text.octets` — the octets of a text.

## Main results

* `Text.octets_append` — the octets of a text that goes on.
-/

set_option relaxedAutoImplicit false
set_option autoImplicit false

namespace MailDomain.Text

/-- The replacement character, which stands for octets that are no character. -/
def replacement : Char := '\uFFFD'

/-- A character under way: its bits so far, how many octets are due, and the range of the
next one. -/
structure Pending where
  bits : Nat
  due : Nat
  low : Nat
  high : Nat

/-- What an octet is at the start of a character, see `Opening.of`. -/
inductive Opening
  /-- A character of its own. -/
  | whole (c : Char)
  /-- The start of a longer character, which is `Pending` now. -/
  | begins (p : Pending)
  /-- No start of a character. -/
  | stray

/-- What the octet `b` is at the start of a character. Octets that could only begin a form longer
than needed or a code point that is no character are strays, or narrow the range of the next one. -/
def Opening.of (b : UInt8) : Opening :=
  let n := b.toNat
  if n < 0x80 then .whole (Char.ofNat n)
  else if n < 0xC2 then .stray
  else if n < 0xE0 then .begins ⟨n - 0xC0, 1, 0x80, 0xBF⟩
  else if n == 0xE0 then .begins ⟨n - 0xE0, 2, 0xA0, 0xBF⟩
  else if n == 0xED then .begins ⟨n - 0xE0, 2, 0x80, 0x9F⟩
  else if n < 0xF0 then .begins ⟨n - 0xE0, 2, 0x80, 0xBF⟩
  else if n == 0xF0 then .begins ⟨n - 0xF0, 3, 0x90, 0xBF⟩
  else if n < 0xF4 then .begins ⟨n - 0xF0, 3, 0x80, 0xBF⟩
  else if n == 0xF4 then .begins ⟨n - 0xF0, 3, 0x80, 0x8F⟩
  else .stray

/-- The text of the octets that follow, with the character that is under way. Where that cannot go
on, one `replacement` stands for its octets, and the octet that broke it is looked at anew. -/
def decodeFrom : Option Pending → List UInt8 → List Char
  | none, [] => []
  | some _, [] => [replacement]
  | none, b :: bs =>
    match Opening.of b with
    | .whole c => c :: decodeFrom none bs
    | .begins p => decodeFrom (some p) bs
    | .stray => replacement :: decodeFrom none bs
  | some p, b :: bs =>
    if p.low ≤ b.toNat && b.toNat ≤ p.high then
      let bits := p.bits * 64 + (b.toNat - 0x80)
      if p.due ≤ 1 then Char.ofNat bits :: decodeFrom none bs
      else decodeFrom (some ⟨bits, p.due - 1, 0x80, 0xBF⟩) bs
    else
      replacement :: match Opening.of b with
        | .whole c => c :: decodeFrom none bs
        | .begins q => decodeFrom (some q) bs
        | .stray => replacement :: decodeFrom none bs

/-- The text of a list of octets, whatever they are. -/
def decode (bs : List UInt8) : String := String.ofList (decodeFrom none bs)

/-- The octets of a text in UTF-8. -/
def octets (s : String) : List UInt8 := s.toByteArray.data.toList

/-- The octets of a text that goes on are those of its parts:
`octets (s ++ t) = octets s ++ octets t`. -/
theorem octets_append (s t : String) : octets (s ++ t) = octets s ++ octets t := by
  simp [octets]

end MailDomain.Text
