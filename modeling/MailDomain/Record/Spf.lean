import MailDomain.Text.Blank

/-!
# SPF policies

An SPF policy is a version tag followed by terms, with white space between them. Case does not
matter, and neither do dots at the end of a domain.

## Main definitions

* `Spf.isVersion` — whether a term is the version tag.
* `Spf.includes` — whether a term includes a domain.
* `Spf.delegatesTo` — whether a policy includes a domain.
-/

set_option relaxedAutoImplicit false
set_option autoImplicit false

namespace MailDomain.Spf

/-- The tag with which a policy starts, `v=spf1`. -/
def versionTag : List Char := "v=spf1".toList

/-- Whether a term is the `versionTag`, in capital or small letters. -/
def isVersion (term : List Char) : Bool := Text.sameFolded term versionTag

/-- The qualifiers that may stand before a mechanism. -/
def isQualifier (c : Char) : Bool := c == '+' || c == '?' || c == '~' || c == '-'

/-- A domain without the dots at its end, so that a qualified name is the same as one that is
not. -/
def withoutEndDots (domain : List Char) : List Char := Text.dropEnd (· == '.') domain

/-- Whether a term is an `include` mechanism for `domain`, after any number of characters that are
`isQualifier`. -/
def includes (domain term : List Char) : Bool :=
  match Text.cutAt? ':' (term.dropWhile isQualifier) with
  | some (mechanism, argument) =>
    Text.sameFolded mechanism "include".toList &&
      Text.sameFolded (withoutEndDots argument) (withoutEndDots domain)
  | none => false

/-- Whether a text is a policy that includes `domain`: its first word is the `versionTag`, and one
of the others `includes` the domain. -/
def delegatesTo (policy domain : String) : Bool :=
  match Text.words policy.toList with
  | [] => false
  | tag :: terms => isVersion tag && terms.any (includes domain.toList)

end MailDomain.Spf
