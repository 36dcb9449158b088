import MailDomain.Pass.Deadline

/-!
# What follows a pass

After each pass the controller counts how it ended and decides when the next one is due. Every
failure is followed by another pass after the shorter interval.

## Main definitions

* `Action` — when the next pass is due.
* `Controller.report` — what is counted when a pass ends.
* `Controller.actionAfter` — the action after a pass.
* `Controller.attend` — a pass for a domain, counted, with the action after it.

## Main results

* `Controller.actionAfter_error` — a failure is followed by a pass after the shorter interval.
* `Controller.actionAfter_eq_awaitChange_iff` — nothing is due exactly if the domain is gone.
-/

set_option relaxedAutoImplicit false
set_option autoImplicit false

namespace MailDomain

/-- When the next pass for a domain is due. -/
inductive Action
  | requeue (delay : Duration)
  /-- Not before something changes. -/
  | awaitChange
  deriving DecidableEq, Repr

namespace Controller

/-- The reason for which a pass that did not fail is followed by another: `converged` if every check
passed, and `pending` if not. -/
def reason (converged : Bool) : String := if converged then "converged" else "pending"

/-- What the controller counts when a pass ends with the given result after the time `elapsed`: how
it ended, of which type its failure was, and why another one follows. -/
def report (elapsed : Duration) : Except PassError Outcome → List Observation
  | .ok .gone => [.reconciled Kind.domain.name .success elapsed]
  | .ok (.requeue _ converged) => [
      .reconciled Kind.domain.name .success elapsed,
      .requeued Kind.domain.name (reason converged)]
  | .error e => [
      .reconciled Kind.domain.name .error elapsed,
      .failed Kind.domain.name e.label,
      .requeued Kind.domain.name "error"]

/-- The action after a pass: to await a change if the domain is gone, the delay that a pass asks
for, and the shorter interval after any failure. -/
def actionAfter (config : PassConfig) : Except PassError Outcome → Action
  | .ok .gone => .awaitChange
  | .ok (.requeue delay _) => .requeue delay
  | .error _ => .requeue config.intervals.pending

/-- A failure is followed by a pass after the shorter interval. -/
@[simp] theorem actionAfter_error (config : PassConfig) (e : PassError) :
    actionAfter config (.error e) = .requeue config.intervals.pending := rfl

/-- Nothing is due exactly if the pass ended with `Outcome.gone`. -/
theorem actionAfter_eq_awaitChange_iff (config : PassConfig) (r : Except PassError Outcome) :
    actionAfter config r = .awaitChange ↔ r = .ok .gone := by
  unfold actionAfter
  split <;> simp

/-- Attends to the domain `d`: a pass in `env`, the observations about its end by `report`, and the
action after it. A domain without a key gets no pass, and is not counted either. -/
def attend {σ : Type} (env : Environment σ) (config : PassConfig) (d : Domain) :
    StateM (Clock × σ) Action := do
  match d.key? with
  | none => return .awaitChange
  | some key =>
    let start := (← get).1.now
    let result ← runPass env config key
    let elapsed := (← get).1.now - start
    let _ ← Timed.within none ((report elapsed result).forM env.observed)
    return actionAfter config result

end Controller

end MailDomain
