import MailDomain.Pass.Config
import MailDomain.Text.Blank

/-!
# Settings of the operator

## Main definitions

* `Settings` — the settings, with their defaults.
* `Settings.Fault` — what can be wrong with settings that can be read, with its `message`.
* `Settings.validate` — the first thing that is wrong.
* `Settings.passConfig`, `Settings.probeConfig` — what passes and checks depend on.
-/

set_option relaxedAutoImplicit false
set_option autoImplicit false

namespace MailDomain

/-- The settings of the operator, with the default of each. Times are in seconds. -/
structure Settings where
  statsServiceName : String := "kannon-stats"
  statsServicePort : UInt16 := 80
  ingressClass : Option String := none
  dnsServer : SocketAddress := .v4 ⟨1, 1, 1, 1⟩ 53
  dnsTimeout : Nat := 5
  spfInclude : String := "_spf.kannon.email"
  statsIngressAddresses : List Ipv4 := []
  convergedRequeue : Nat := 3600
  pendingRequeue : Nat := 60
  reconcileTimeout : Nat := 30
  watchNamespace : Option String := none
  metricsPort : UInt16 := 8080
  deriving DecidableEq

namespace Settings

/-- What is wrong with settings, as `Settings.validate` finds it. -/
inductive Fault
  | empty (flag : String)
  | zero (flag : String)
  | intervalOrder (converged pending : Nat)
  deriving DecidableEq, Repr

/-- The wording of a fault, which names the flag of the setting. -/
def Fault.message : Fault → String
  | .empty flag => flag ++ " must not be empty"
  | .zero flag => flag ++ " must be greater than zero"
  | .intervalOrder converged pending =>
    "--converged-requeue-secs (" ++ toString converged ++
      ") must not be shorter than --pending-requeue-secs (" ++ toString pending ++ ")"

/-- Whether a text holds nothing but white space, as the empty text does. -/
def isBlankText (s : String) : Bool := s.toList.all Text.isBlank

/-- The settings that must not be zero, with their flags, in the order in which `validate` looks at
them. -/
def positive (s : Settings) : List (String × Nat) := [
  ("--stats-service-port", s.statsServicePort.toNat),
  ("--dns-timeout-secs", s.dnsTimeout),
  ("--converged-requeue-secs", s.convergedRequeue),
  ("--pending-requeue-secs", s.pendingRequeue),
  ("--reconcile-timeout-secs", s.reconcileTimeout),
  ("--metrics-port", s.metricsPort.toNat)]

/-- Refuses settings with which the operator cannot work, for the first reason there is. -/
def validate (s : Settings) : Except Fault Unit :=
  if isBlankText s.statsServiceName then .error (.empty "--stats-service-name")
  else if isBlankText s.spfInclude then .error (.empty "--spf-include")
  else match s.positive.find? fun p => p.2 == 0 with
    | some p => .error (.zero p.1)
    | none =>
      if s.convergedRequeue < s.pendingRequeue then
        .error (.intervalOrder s.convergedRequeue s.pendingRequeue)
      else .ok ()

/-- What passes depend on: the `PassConfig` with the backend, the intervals and the limit of a
pass. -/
def passConfig (s : Settings) : PassConfig where
  backend := {
    serviceName := s.statsServiceName
    servicePort := s.statsServicePort
    ingressClass := s.ingressClass }
  intervals := { converged := .ofSecs s.convergedRequeue, pending := .ofSecs s.pendingRequeue }
  limit := .ofSecs s.reconcileTimeout

/-- What DNS checks depend on: the `ProbeConfig`, in which the include of the SPF policy has no
white space at its ends. -/
def probeConfig (s : Settings) : ProbeConfig where
  server := s.dnsServer
  limit := .ofSecs s.dnsTimeout
  spfInclude := Text.trimmed s.spfInclude
  statsAddresses := s.statsIngressAddresses

end Settings

end MailDomain
