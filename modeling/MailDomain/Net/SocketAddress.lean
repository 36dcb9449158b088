import MailDomain.Net.Ipv6

/-!
# Socket addresses

## Main definitions

* `SocketAddress` — an IPv4 or IPv6 address and a port.
* `SocketAddress.read?`, `SocketAddress.text` — its text, an IPv6 address in brackets.
-/

set_option relaxedAutoImplicit false
set_option autoImplicit false

namespace MailDomain

/-- An address and a port; an IPv6 address may have the number of a zone, its `scope`. -/
inductive SocketAddress
  | v4 (ip : Ipv4) (port : UInt16)
  | v6 (ip : Ipv6) (scope : UInt32) (port : UInt16)
  deriving DecidableEq

namespace SocketAddress

/-- A port after a colon, a number of any length that fits into sixteen bits. -/
def port? (cs : List Char) : Option (UInt16 × List Char) := do
  let rest ← Net.symbol? ':' cs
  let (n, rest) ← Net.number? 10 rest.length 65535 true rest
  return (n.toUInt16, rest)

/-- The number of a zone after a percent sign, zero if there is none that can be read. -/
def takeScope (cs : List Char) : UInt32 × List Char :=
  match (Net.symbol? '%' cs).bind fun r => Net.number? 10 r.length 4294967295 true r with
  | some (n, rest) => (n.toUInt32, rest)
  | none => (0, cs)

/-- An IPv4 address and a `port?`, up to the end of the text. -/
def readV4? (cs : List Char) : Option SocketAddress := do
  let (ip, rest) ← Ipv4.take? cs
  let port ← Net.whole? (port? rest)
  return .v4 ip port

/-- An IPv6 address in brackets, its zone within them, and a `port?` up to the end of the text. -/
def readV6? (cs : List Char) : Option SocketAddress := do
  let (ip, rest) ← Ipv6.take? (← Net.symbol? '[' cs)
  let (scope, rest) := takeScope rest
  let port ← Net.whole? (port? (← Net.symbol? ']' rest))
  return .v6 ip scope port

/-- The socket address that the text `s` stands for, by `readV4?` or else by `readV6?`. -/
def read? (s : String) : Option SocketAddress := readV4? s.toList <|> readV6? s.toList

/-- A socket address as a text, a zone of zero being left out. -/
def text : SocketAddress → String
  | .v4 ip port => ip.text ++ ":" ++ toString port.toNat
  | .v6 ip scope port =>
    "[" ++ ip.text ++ (if scope = 0 then "" else "%" ++ toString scope.toNat) ++ "]:" ++
      toString port.toNat

end SocketAddress

end MailDomain
