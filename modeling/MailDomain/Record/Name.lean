/-!
# Names of records

## Main definitions

* `Record.dkimName` — the name under which a DKIM key is published.
* `Record.qualified` — a name in the form in which it is queried.
-/

set_option relaxedAutoImplicit false
set_option autoImplicit false

namespace MailDomain.Record

/-- The label under which DKIM keys are published, between selector and domain. -/
def domainKeyLabel : String := "_domainkey"

/-- The given name without the dots at its end, of which there may be several. -/
def withoutEndDots (name : String) : String :=
  String.ofList (name.toList.reverse.dropWhile (· == '.')).reverse

/-- The name under which the DKIM key of a selector is published,
`selector._domainkey.baseDomain`. -/
def dkimName (selector baseDomain : String) : String :=
  selector ++ "." ++ domainKeyLabel ++ "." ++ withoutEndDots baseDomain

/-- The given name with a dot at its end, so that no search domain is added to it. -/
def qualified (name : String) : String :=
  if name.toList.getLast? = some '.' then name else name ++ "."

end MailDomain.Record
