import MailDomain.Net.Ipv4

/-!
# IPv6 addresses

## Main definitions

* `Ipv6` — eight groups of sixteen bits.
* `Ipv6.take?` — reads an address: groups in hexadecimal, one run of zero groups possibly
  left out, the last two groups possibly as an IPv4 address.
* `Ipv6.text` — writes an address with its longest run of at least two zero groups left out.
-/

set_option relaxedAutoImplicit false
set_option autoImplicit false

namespace MailDomain

/-- An IPv6 address: eight groups of sixteen bits. -/
structure Ipv6 where
  groups : List UInt16
  size_eq : groups.length = 8
  deriving DecidableEq

namespace Ipv6

/-- The address of groups of which there should be eight: surplus ones are dropped, missing
ones are zero. -/
def ofGroups (gs : List UInt16) : Ipv6 where
  groups := (gs ++ List.replicate 8 0).take 8
  size_eq := by simp

/-- The text after the colon that stands before every group but the `first`. -/
def separator? (first : Bool) (cs : List Char) : Option (List Char) :=
  if first then some cs else Net.symbol? ':' cs

/-- The two groups that the four octets of an IPv4 address make. -/
def groupsOf (x : Ipv4) : List UInt16 :=
  [x.a.toUInt16 * 256 + x.b.toUInt16, x.c.toUInt16 * 256 + x.d.toUInt16]

/-- Up to `limit` groups at the start of a text, with the text after them, and whether the last two
were written as an IPv4 address. For such an address there must be room for two groups. -/
def takeGroups : (limit : Nat) → (first : Bool) → List Char → List UInt16 × Bool × List Char
  | 0, _, cs => ([], false, cs)
  | limit + 1, first, cs =>
    let embedded := if limit = 0 then none else (separator? first cs).bind Ipv4.take?
    match embedded with
    | some (x, rest) => (groupsOf x, true, rest)
    | none =>
      match (separator? first cs).bind (Net.number? 16 4 65535 true) with
      | none => ([], false, cs)
      | some (n, rest) =>
        let (gs, v4, rest) := takeGroups limit false rest
        (n.toUInt16 :: gs, v4, rest)

/-- An address at the start of a text: eight groups, or fewer of them around a `::`, which stands
for at least one group of zeros. Before the `::` there may be no IPv4 address. -/
def take? (cs : List Char) : Option (Ipv6 × List Char) := do
  let (head, v4, rest) := takeGroups 8 true cs
  if head.length = 8 then return (ofGroups head, rest)
  if v4 then none
  let rest ← Net.symbol? ':' (← Net.symbol? ':' rest)
  -- the gap stands for one group at least
  let (tail, _, rest) := takeGroups (7 - head.length) true rest
  let gap := List.replicate (8 - head.length - tail.length) 0
  return (ofGroups (head ++ gap ++ tail), rest)

/-- A group in hexadecimal, without zeros in front. -/
def groupText (g : UInt16) : String := String.ofList (Nat.toDigits 16 g.toNat)

/-- The groups `gs` in hexadecimal with colons between them. -/
def groupsText (gs : List UInt16) : String := String.intercalate ":" (gs.map groupText)

/-- The number of zero groups at the start of `gs`. -/
def zeroRun (gs : List UInt16) : Nat := (gs.takeWhile (· == 0)).length

/-- Start and length of the first of the longest runs of zero groups, found by `zeroRun` at every
start; `i` groups lie before those given. -/
def longestZeros (i : Nat) : List UInt16 → Nat × Nat
  | [] => (i, 0)
  | g :: gs =>
    let here := zeroRun (g :: gs)
    let (j, n) := longestZeros (i + 1) gs
    if n ≤ here then (i, here) else (j, n)

/-- The IPv4 address that the address `x` stands for, if it is one that is mapped into IPv6, with
`::ffff:` in front. -/
def mapped? (x : Ipv6) : Option Ipv4 :=
  match x.groups with
  | [0, 0, 0, 0, 0, 0xFFFF, p, q] =>
    some ⟨(p / 256).toUInt8, p.toUInt8, (q / 256).toUInt8, q.toUInt8⟩
  | _ => none

/-- An address as a text: one that is `mapped?` ends as an IPv4 address, any other has `::` for its
`longestZeros`, provided they are at least two. -/
def text (x : Ipv6) : String :=
  match x.mapped? with
  | some v4 => "::ffff:" ++ v4.text
  | none =>
    let (i, n) := longestZeros 0 x.groups
    if 1 < n then groupsText (x.groups.take i) ++ "::" ++ groupsText (x.groups.drop (i + n))
    else groupsText x.groups

end Ipv6

end MailDomain
