import MailDomain.Net.Digits

/-!
# IPv4 addresses

## Main definitions

* `Ipv4` — four octets.
* `Ipv4.read?` — reads four decimal numbers without leading zeros, points between them.
* `Ipv4.text` — writes them.
-/

set_option relaxedAutoImplicit false
set_option autoImplicit false

namespace MailDomain

/-- An IPv4 address, `a` being the first octet of its text. -/
structure Ipv4 where
  a : UInt8
  b : UInt8
  c : UInt8
  d : UInt8
  deriving DecidableEq, Repr

namespace Ipv4

/-- An octet in decimal at the start of a text, of at most three digits and without a zero in
front. -/
def octet? (cs : List Char) : Option (UInt8 × List Char) :=
  (Net.number? 10 3 255 false cs).map fun p => (p.1.toUInt8, p.2)

/-- An address at the start of a text: four times `octet?`, with points between them. -/
def take? (cs : List Char) : Option (Ipv4 × List Char) := do
  let (a, cs) ← octet? cs
  let (b, cs) ← octet? (← Net.symbol? '.' cs)
  let (c, cs) ← octet? (← Net.symbol? '.' cs)
  let (d, cs) ← octet? (← Net.symbol? '.' cs)
  return (⟨a, b, c, d⟩, cs)

/-- The address that the whole text `s` stands for. -/
def read? (s : String) : Option Ipv4 := Net.whole? (take? s.toList)

/-- An address as a text, which `read?` accepts. -/
def text (x : Ipv4) : String :=
  toString x.a.toNat ++ "." ++ toString x.b.toNat ++ "." ++ toString x.c.toNat ++ "." ++
    toString x.d.toNat

end Ipv4

end MailDomain
