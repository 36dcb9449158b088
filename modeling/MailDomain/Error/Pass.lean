import MailDomain.Error.Probe
import MailDomain.Error.Store
import MailDomain.Time.Duration

/-!
# Failed passes

## Main definitions

* `Stage` — the stages of a pass that can fail.
* `PassError` — why a pass failed, with its `key`, `label`, `message` and `causes`.
* `PassError.isTransient` — whether the failure is expected to clear by itself.
-/

set_option relaxedAutoImplicit false
set_option autoImplicit false

namespace MailDomain

/-- A stage of a pass, in the order in which they come. -/
inductive Stage
  | fetch
  | probe
  | convergeIngress
  | persistStatus
  deriving DecidableEq, Repr

/-- The label of a stage in messages and metrics. -/
def Stage.label : Stage → String
  | .fetch => "fetch"
  | .probe => "probe"
  | .convergeIngress => "converge_ingress"
  | .persistStatus => "persist_status"

/-- Why a pass for the domain under `key` failed. Every failure but `cancelled` carries its stage,
that of `probe` being the stage of its name. -/
inductive PassError
  /-- A check was not answered, for a cause in the lookup. -/
  | probe (key : ObjectKey) (check : Check) (cause : ProbeError)
  /-- An operation of a store failed in the given stage. -/
  | store (key : ObjectKey) (stage : Stage) (cause : StoreError)
  /-- The objects are in a state that should not occur, such as an ingress that another object
  manages. -/
  | invariant (key : ObjectKey) (stage : Stage) (reason : String)
  /-- The pass did not end before its deadline, which is the time `limit` after its start. -/
  | cancelled (key : ObjectKey) (limit : Duration)
  deriving DecidableEq, Repr

namespace PassError

/-- The key of the domain whose pass failed, which every failure carries. -/
def key : PassError → ObjectKey
  | .probe key .. => key
  | .store key .. => key
  | .invariant key .. => key
  | .cancelled key _ => key

/-- The label of a failure in metrics: that of its stage, or `cancelled`. -/
def label : PassError → String
  | .probe .. => Stage.probe.label
  | .store _ stage _ => stage.label
  | .invariant _ stage _ => stage.label
  | .cancelled .. => "cancelled"

/-- Whether the failure is expected to clear by itself. Only `invariant` is not. -/
def isTransient : PassError → Bool
  | .invariant .. => false
  | _ => true

/-- The causes of a failure, the outermost first, which are logged one by one. -/
def causes : PassError → List String
  | .probe _ _ cause => [cause.message]
  | .store _ _ cause => cause.message :: cause.causes
  | _ => []

/-- The wording of a failure. It names the domain and, but for a cancelled pass, the stage or the
check. -/
def message : PassError → String
  | .probe key check cause =>
    check.label ++ " check failed for Domain " ++ key.text ++ ": " ++ cause.message
  | .store key stage cause =>
    stage.label ++ " failed for Domain " ++ key.text ++ ": " ++ cause.message
  | .invariant key stage reason =>
    "Invariant violated during " ++ stage.label ++ " for Domain " ++ key.text ++ ": " ++ reason
  | .cancelled key limit =>
    "Reconciliation of Domain " ++ key.text ++ " cancelled after " ++ limit.text

end PassError

end MailDomain
