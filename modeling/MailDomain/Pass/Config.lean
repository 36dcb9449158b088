import MailDomain.Net.SocketAddress
import MailDomain.Object.Domain
import MailDomain.Time.Duration

/-!
# Configuration of passes

## Main definitions

* `StatsBackend` — the service behind every stats ingress.
* `Intervals` — the times between two passes, with `Intervals.next`.
* `PassConfig`, `ProbeConfig` — what a pass and what its DNS checks depend on.

## Main results

* `Intervals.next_of_converged`, `Intervals.next_of_not_converged` — the interval of a status.
-/

set_option relaxedAutoImplicit false
set_option autoImplicit false

namespace MailDomain

/-- The service behind every stats ingress, to which `StatsIngress.pathTo` leads. -/
structure StatsBackend where
  serviceName : String := "kannon-stats"
  servicePort : UInt16 := 80
  /-- The class of the ingresses, when it is not the one of the cluster. -/
  ingressClass : Option String := none
  deriving DecidableEq, Repr

/-- The times between two passes for a domain, of which `Intervals.next` chooses one. -/
structure Intervals where
  /-- After a pass in which every check passed. -/
  converged : Duration := .ofSecs 3600
  /-- After any other pass. -/
  pending : Duration := .ofSecs 60
  deriving DecidableEq, Repr

namespace Intervals

/-- The time until the next pass for a domain whose checks had the flags `s`. -/
def next (i : Intervals) (s : DnsStatus) : Duration :=
  if s.converged then i.converged else i.pending

/-- A converged domain is looked at again after the longer interval. -/
theorem next_of_converged (i : Intervals) {s : DnsStatus} (h : s.converged = true) :
    i.next s = i.converged := by simp [next, h]

/-- Any other domain is looked at again after the shorter interval. -/
theorem next_of_not_converged (i : Intervals) {s : DnsStatus} (h : s.converged = false) :
    i.next s = i.pending := by simp [next, h]

end Intervals

/-- What a pass depends on besides the key of its domain. -/
structure PassConfig where
  backend : StatsBackend := {}
  intervals : Intervals := {}
  /-- The time after which a pass is given up. -/
  limit : Duration := .ofSecs 30
  deriving DecidableEq, Repr

/-- What the DNS checks depend on, which a resolver and a `Checker` are made of. -/
structure ProbeConfig where
  /-- The resolver that is asked. -/
  server : SocketAddress
  /-- The time after which a lookup is given up. -/
  limit : Duration
  /-- The domain that every SPF policy must include. -/
  spfInclude : String
  /-- The addresses of the stats endpoint, any address being one when there is none. -/
  statsAddresses : List Ipv4
  deriving DecidableEq

end MailDomain
