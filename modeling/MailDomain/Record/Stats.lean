import MailDomain.Net.Ipv4

/-!
# Stats endpoints

## Main definitions

* `Stats.resolvesTo` — whether the addresses of a name are those of the stats endpoint.
-/

set_option relaxedAutoImplicit false
set_option autoImplicit false

namespace MailDomain.Stats

/-- Whether one of the `resolved` addresses is among those `expected`. With no expected address any
will do, but there must be one. -/
def resolvesTo (resolved expected : List Ipv4) : Bool :=
  resolved.any fun a => expected.isEmpty || expected.contains a

end MailDomain.Stats
