import MailDomain.Settings.Basic

/-!
# Flags

Every setting can be given by a flag on the command line or by a variable of the environment.

## Main definitions

* `Flag` — one flag for each setting, with its `name`, `envName`, `help` and `default?`.
* `Flag.assign` — the settings after a value was given for a flag.
-/

set_option relaxedAutoImplicit false
set_option autoImplicit false

namespace MailDomain

/-- The flags, one for each field of `Settings`. -/
inductive Flag
  | statsServiceName
  | statsServicePort
  | ingressClass
  | dnsServer
  | dnsTimeout
  | spfInclude
  | statsIngressAddress
  | convergedRequeue
  | pendingRequeue
  | reconcileTimeout
  | watchNamespace
  | metricsPort
  deriving DecidableEq, Repr

namespace Flag

/-- All flags in the order in which the help lists them and the environment is read. -/
def all : List Flag := [
  .statsServiceName, .statsServicePort, .ingressClass, .dnsServer, .dnsTimeout, .spfInclude,
  .statsIngressAddress, .convergedRequeue, .pendingRequeue, .reconcileTimeout, .watchNamespace,
  .metricsPort]

/-- The name of a flag, without its dashes, as `ofName?` finds it. -/
def name : Flag → String
  | .statsServiceName => "stats-service-name"
  | .statsServicePort => "stats-service-port"
  | .ingressClass => "ingress-class"
  | .dnsServer => "dns-server"
  | .dnsTimeout => "dns-timeout-secs"
  | .spfInclude => "spf-include"
  | .statsIngressAddress => "stats-ingress-address"
  | .convergedRequeue => "converged-requeue-secs"
  | .pendingRequeue => "pending-requeue-secs"
  | .reconcileTimeout => "reconcile-timeout-secs"
  | .watchNamespace => "watch-namespace"
  | .metricsPort => "metrics-port"

/-- The environment variable of a flag, which is also the name of its value. -/
def envName : Flag → String
  | .statsServiceName => "STATS_SERVICE_NAME"
  | .statsServicePort => "STATS_SERVICE_PORT"
  | .ingressClass => "INGRESS_CLASS"
  | .dnsServer => "DNS_SERVER"
  | .dnsTimeout => "DNS_TIMEOUT_SECS"
  | .spfInclude => "SPF_INCLUDE"
  | .statsIngressAddress => "STATS_INGRESS_ADDRESSES"
  | .convergedRequeue => "CONVERGED_REQUEUE_SECS"
  | .pendingRequeue => "PENDING_REQUEUE_SECS"
  | .reconcileTimeout => "RECONCILE_TIMEOUT_SECS"
  | .watchNamespace => "WATCH_NAMESPACE"
  | .metricsPort => "METRICS_PORT"

/-- What a flag is for, as the help says it. -/
def help : Flag → String
  | .statsServiceName => "Service receiving traffic from the stats ingresses"
  | .statsServicePort => "Port of the stats service"
  | .ingressClass => "Ingress class set on stats ingresses (cluster default when unset)"
  | .dnsServer => "Recursive resolver used for DNS checks"
  | .dnsTimeout => "Per-query DNS timeout in seconds"
  | .spfInclude => "Include mechanism every SPF policy must contain"
  | .statsIngressAddress =>
    "Address the base domain must resolve to for the stats check (any address when empty)"
  | .convergedRequeue => "Requeue interval once every DNS check passes"
  | .pendingRequeue => "Requeue interval while a check fails, and after errors"
  | .reconcileTimeout => "Deadline of a single reconciliation pass"
  | .watchNamespace =>
    "Only watch `Domain` resources in this namespace (all namespaces when unset)"
  | .metricsPort => "Port of the metrics and health server"

/-- The default of a flag as a text, `none` where the setting is unset by default. -/
def default? (f : Flag) : Option String :=
  let s : Settings := {}
  match f with
  | .statsServiceName => some s.statsServiceName
  | .statsServicePort => some (toString s.statsServicePort.toNat)
  | .ingressClass => none
  | .dnsServer => some s.dnsServer.text
  | .dnsTimeout => some (toString s.dnsTimeout)
  | .spfInclude => some s.spfInclude
  | .statsIngressAddress => none
  | .convergedRequeue => some (toString s.convergedRequeue)
  | .pendingRequeue => some (toString s.pendingRequeue)
  | .reconcileTimeout => some (toString s.reconcileTimeout)
  | .watchNamespace => none
  | .metricsPort => some (toString s.metricsPort.toNat)

/-- The flag with the name of its value, as messages and the help show it. -/
def usage (f : Flag) : String := "--" ++ f.name ++ " <" ++ f.envName ++ ">"

/-- Whether a flag may be given several times, its values being collected. -/
def repeatable (f : Flag) : Bool := f = .statsIngressAddress

/-- The flag with the given `name`, if there is one. -/
def ofName? (name : String) : Option Flag := all.find? fun f => f.name == name

end Flag

/-- The `value` that a flag does not take, and why. -/
structure ValueFault where
  value : String
  reason : String
  deriving DecidableEq, Repr

namespace Flag

/-- The texts between the commas of the text `s`. -/
def listed (s : String) : List String :=
  (Text.pieces (· == ',') s.toList).map String.ofList

/-- The number `n` with digits added to it one by one, which must not become more than
`bound`; `beyond` says what is wrong with it then. -/
def digitsFrom (bound : Nat) (beyond : String) : (n : Nat) → List Char → Except String Nat
  | n, [] => .ok n
  | n, c :: cs =>
    if !c.isDigit then .error "invalid digit found in string"
    else
      let m := n * 10 + (c.toNat - 48)
      if bound < m then .error beyond else digitsFrom bound beyond m cs

/-- The number of a run of digits that is at most `bound`, or what is wrong with it; of no digits it
is that they are missing. -/
def digits (bound : Nat) (beyond : String) (ds : List Char) : Except String Nat :=
  if ds.isEmpty then .error "cannot parse integer from empty string"
  else digitsFrom bound beyond 0 ds

/-- What is wrong with a number that is too large for its type. -/
def tooLarge : String := "number too large to fit in target type"

/-- What is wrong with a number that is too small for its type. -/
def tooSmall : String := "number too small to fit in target type"

/-- The number of a text of digits that may have a plus sign and fits into 64 bits, or what is wrong
with it. -/
def natural (s : String) : Except String Nat :=
  match s.toList with
  | '+' :: d :: ds => digits 18446744073709551615 tooLarge (d :: ds)
  | ds => digits 18446744073709551615 tooLarge ds

/-- The number of a text of digits that may have a sign and fits into 64 bits with it, or what is
wrong with it. -/
def signed (s : String) : Except String Int :=
  match s.toList with
  | '-' :: d :: ds => (digits 9223372036854775808 tooSmall (d :: ds)).map fun n => -(n : Int)
  | '+' :: d :: ds => (digits 9223372036854775807 tooLarge (d :: ds)).map fun n => (n : Int)
  | ds => (digits 9223372036854775807 tooLarge ds).map fun n => (n : Int)

/-- The port of a text, a `signed` number in the range of ports. -/
def port (s : String) : Except String UInt16 := do
  let n ← signed s
  if 0 ≤ n ∧ n ≤ 65535 then .ok n.toNat.toUInt16
  else .error (toString n ++ " is not in 0..=65535")

/-- The socket address of a text, by `SocketAddress.read?`. -/
def socketAddress (s : String) : Except String SocketAddress :=
  match SocketAddress.read? s with
  | some a => .ok a
  | none => .error "invalid socket address syntax"

/-- The address of a text, by `Ipv4.read?`. -/
def address (s : String) : Except String Ipv4 :=
  match Ipv4.read? s with
  | some a => .ok a
  | none => .error "invalid IPv4 address syntax"

/-- The addresses of texts in order, or the first text that is none. -/
def addresses : List String → Except ValueFault (List Ipv4)
  | [] => .ok []
  | s :: ss => do
    let a ← (address s).mapError (ValueFault.mk s)
    let as ← addresses ss
    return a :: as

/-- The settings after the value `s` was given for the flag `f`. The addresses of
`statsIngressAddress` are added to the earlier ones, any other value replaces the old. -/
def assign (f : Flag) (s : String) (old : Settings) : Except ValueFault Settings :=
  let fault := ValueFault.mk s
  match f with
  | .statsServiceName => .ok { old with statsServiceName := s }
  | .statsServicePort => (port s).mapError fault |>.map fun p => { old with statsServicePort := p }
  | .ingressClass => .ok { old with ingressClass := some s }
  | .dnsServer => (socketAddress s).mapError fault |>.map fun a => { old with dnsServer := a }
  | .dnsTimeout => (natural s).mapError fault |>.map fun n => { old with dnsTimeout := n }
  | .spfInclude => .ok { old with spfInclude := s }
  | .statsIngressAddress =>
    (addresses (listed s)).map fun as =>
      { old with statsIngressAddresses := old.statsIngressAddresses ++ as }
  | .convergedRequeue =>
    (natural s).mapError fault |>.map fun n => { old with convergedRequeue := n }
  | .pendingRequeue => (natural s).mapError fault |>.map fun n => { old with pendingRequeue := n }
  | .reconcileTimeout =>
    (natural s).mapError fault |>.map fun n => { old with reconcileTimeout := n }
  | .watchNamespace => .ok { old with watchNamespace := some s }
  | .metricsPort => (port s).mapError fault |>.map fun p => { old with metricsPort := p }

end Flag

end MailDomain
