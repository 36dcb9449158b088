import MailDomain.Text.Utf8

/-!
# Digests of texts

A digest is a word of 64 bits made from octets: each octet is mixed into the low bits of the
digest so far, which is then multiplied by a fixed prime. Texts are digested one after the
other, so that it does not matter where one ends and the next begins.

## Main definitions

* `Text.Digest.ofTexts` — the digest of a list of texts.

## Main results

* `Text.Digest.ofTexts_append` — the texts of two lists are digested one after the other.
* `Text.Digest.addText_append` — it does not matter where a text ends.
-/

set_option relaxedAutoImplicit false
set_option autoImplicit false

namespace MailDomain.Text.Digest

/-- The digest of nothing, from which `ofTexts` starts. -/
def empty : UInt64 := 0xcbf29ce484222325

/-- The factor of each step of `addOctet`. -/
def prime : UInt64 := 0x100000001b3

/-- A digest with one more octet. -/
def addOctet (h : UInt64) (b : UInt8) : UInt64 := (h ^^^ b.toUInt64) * prime

/-- A digest with more octets, added in order. -/
def addOctets (h : UInt64) (bs : List UInt8) : UInt64 := bs.foldl addOctet h

/-- A digest with the `octets` of a text. -/
def addText (h : UInt64) (s : String) : UInt64 := addOctets h (octets s)

/-- The digest of a list of texts, one after the other. -/
def ofTexts (ss : List String) : UInt64 := ss.foldl addText empty

/-- The texts of two lists are digested one after the other: `ofTexts (ss ++ ts)` goes on from
`ofTexts ss`. -/
theorem ofTexts_append (ss ts : List String) :
    ofTexts (ss ++ ts) = ts.foldl addText (ofTexts ss) := by
  simp [ofTexts]

/-- It does not matter where a text ends and the next begins, so lists with the same octets have the
same digest. -/
theorem addText_append (h : UInt64) (s t : String) :
    addText h (s ++ t) = addText (addText h s) t := by
  simp [addText, addOctets, octets_append]

end MailDomain.Text.Digest
