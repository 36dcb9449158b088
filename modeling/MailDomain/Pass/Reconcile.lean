import MailDomain.Pass.Plan
import MailDomain.Pass.StatsIngress

/-!
# One pass for a domain

A pass fetches the domain, checks its DNS records, makes its stats ingress exist exactly when
its stats record resolves, writes its status if that changed, and says when the next pass is
due. It stops at the first failure. Nothing is tried twice in one pass.

## Main definitions

* `Pass` — a plan that may fail.
* `checkDns` — the three checks in order.
* `convergeIngress` — the presence of the stats ingress.
* `reconcile` — the whole pass.

## Main results

* `statusChanged_iff` — a status is written exactly when it differs.
-/

set_option relaxedAutoImplicit false
set_option autoImplicit false

namespace MailDomain

/-- A plan that may fail with a `PassError`, which ends it. -/
abbrev Pass := ExceptT PassError Plan

/-- The result of a pass that did not fail, which says what the controller does next. -/
inductive Outcome
  /-- The domain does not exist, and no other pass is due. -/
  | gone
  /-- Another pass is due after `delay`; `converged` tells whether every check passed. -/
  | requeue (delay : Duration) (converged : Bool)
  deriving DecidableEq, Repr

/-- What a pass did about the stats ingress of its domain. -/
inductive IngressAction
  | unchanged
  | created
  /-- The ingress was deleted, or was gone when it was to be deleted. -/
  | deleted
  /-- The ingress is being deleted already. -/
  | deletionPending
  deriving DecidableEq, Repr

namespace Pass

variable {α ε : Type}

/-- The pass that makes the call `c` and returns its answer, a failure of the store or the checker
being an answer. -/
def ask (c : Call) : Pass c.Answer := ExceptT.lift (Plan.call c)

/-- The pass that makes the observation `o`. -/
def observe (o : Observation) : Pass Unit := ExceptT.lift (Plan.observe o)

/-- The pass that returns `a` for `.ok a`, and fails with `fail e` for `.error e`. -/
def orFail (fail : ε → PassError) : Except ε α → Pass α
  | .ok a => pure a
  | .error e => throw (fail e)

end Pass

/-- One check of the domain `d`. Its outcome is counted under `c.label`, and a check that was not
answered ends the pass as `PassError.probe`. -/
def runCheck (key : ObjectKey) (d : Domain) (c : Check) : Pass Bool := do
  match ← Pass.ask (.check c d) with
  | .ok passed =>
    Pass.observe (.checked c.label (.ofFlag passed))
    return passed
  | .error e =>
    Pass.observe (.checked c.label .error)
    throw (.probe key c e)

/-- The three checks of the domain `d` one after the other. The first that is not answered ends the
pass, and those after it are not made. -/
def checkDns (key : ObjectKey) (d : Domain) : Pass DnsStatus := do
  let dkim ← runCheck key d .dkim
  let stats ← runCheck key d .stats
  let spf ← runCheck key d .spf
  return ⟨dkim, stats, spf⟩

/-- Removes the stats ingress `i`. If the store says that there is none, it counts as removed, but
not among the deletions that are observed. -/
def removeIngress (key : ObjectKey) (i : Ingress) : Pass IngressAction := do
  match ← Pass.ask (.deleteIngress i) with
  | .ok () =>
    Pass.observe (.deleted Kind.ingress.name)
    return .deleted
  | .error e =>
    if e.isNotFound then return .deleted else throw (.store key .convergeIngress e)

/-- Makes the stats ingress of the domain `d` exist exactly when its stats check passed, `s.stats`
being its flag. One that something else manages is an invariant that does not hold. An ingress that
exists is not compared with what `StatsIngress.build` would make now. -/
def convergeIngress (backend : StatsBackend) (key : ObjectKey) (d : Domain) (s : DnsStatus) :
    Pass IngressAction := do
  let ingressKey := StatsIngress.keyOf key
  let fail := PassError.store key .convergeIngress
  match ← Pass.orFail fail (← Pass.ask (.fetchIngress ingressKey)) with
  | some i =>
    if StatsIngress.ownedByOther i d then
      throw (.invariant key .convergeIngress
        ("Ingress " ++ ingressKey.text ++ " is controlled by another object"))
    else if s.stats then return .unchanged
    else if i.metadata.deletionTimestamp.isSome then return .deletionPending
    else removeIngress key i
  | none =>
    if s.stats then
      let i ← Pass.orFail id (StatsIngress.build key d backend)
      Pass.orFail fail (← Pass.ask (.createIngress i))
      Pass.observe (.created Kind.ingress.name)
      return .created
    else return .unchanged

/-- Whether a new status differs from the current one, in which case it is written. -/
def statusChanged {α : Type} [DecidableEq α] (current new : Option α) : Bool := current ≠ new

/-- The test `statusChanged` says that the two are not equal. -/
theorem statusChanged_iff {α : Type} [DecidableEq α] {current new : Option α} :
    statusChanged current new = true ↔ current ≠ new := by
  simp [statusChanged]

/-- The status of the domain `d` after its checks, with the generation of the domain that was
checked. -/
def statusAfter (d : Domain) (dns : DnsStatus) : DomainStatus := ⟨dns, d.metadata.generation⟩

/-- One pass for the domain under `key`: the fetch, the three checks, the stats ingress, and the
status if it changed. The next pass is due after the interval that `config.intervals` has for the
flags. -/
def reconcile (config : PassConfig) (key : ObjectKey) : Pass Outcome := do
  match ← Pass.orFail (.store key .fetch) (← Pass.ask (.fetchDomain key)) with
  | none => return .gone
  | some d =>
    let dns ← checkDns key d
    let _ ← convergeIngress config.backend key d dns
    let status := some (statusAfter d dns)
    if statusChanged d.status status then
      Pass.orFail (.store key .persistStatus) (← Pass.ask (.writeStatus (d.withStatus status)))
    return .requeue (config.intervals.next dns) dns.converged

end MailDomain
