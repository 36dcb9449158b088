import MailDomain.Error.Probe
import MailDomain.Text.Digest
import MailDomain.Time.Duration

/-!
# Counting what passes do

A registry holds a counter for each family and each choice of its label values, and the
distribution of the durations of passes. Label values are told apart by their digest: those of
one digest share a counter, which is shown with the values that came first.

## Main definitions

* `Observation` — what can be counted.
* `Counter` — the families of counters, with their labels.
* `Series` — one counter of a family, with `Series.sameAs`.
* `Distribution` — a histogram of durations.
* `Registry` — with `count`, `distribution` and `record`.

## Main results

* `Registry.count_increment_of_sameAs`, `Registry.count_increment_of_not_sameAs` — an increment
  adds one to one counter.
-/

set_option relaxedAutoImplicit false
set_option autoImplicit false

namespace MailDomain

/-- How a reconciliation ended, as `Observation.reconciled` tells it. -/
inductive Ending
  | success
  | error
  deriving DecidableEq, Repr

/-- How a check ended, as `Observation.checked` tells it. -/
inductive CheckOutcome
  | pass
  | fail
  | error
  deriving DecidableEq, Repr

/-- The outcome of a check that was answered, with no `error` among the outcomes. -/
def CheckOutcome.ofFlag (passed : Bool) : CheckOutcome := if passed then .pass else .fail

/-- Something that is counted. Resource types, reasons, error types and checks are given by
their labels. -/
inductive Observation
  /-- A reconciliation ended after the time `elapsed`, which goes into the `Distribution` of the
  resource type. -/
  | reconciled (resource : String) (ending : Ending) (elapsed : Duration)
  /-- Another reconciliation was scheduled. It counts as a reconciliation that ended with `requeue`,
  too. -/
  | requeued (resource reason : String)
  | created (resource : String)
  | deleted (resource : String)
  | failed (resource errorType : String)
  | checked (check : String) (outcome : CheckOutcome)
  deriving DecidableEq

/-- A family of counters. `Counter.labels` are the labels that tell the counters of a family
apart. -/
inductive Counter
  | checks
  | errors
  | reconciliations
  | requeues
  | created
  | deleted
  deriving DecidableEq, Repr

namespace Counter

/-- The names of the labels of a family, in the order in which `Series.values` holds their
values. -/
def labels : Counter → List String
  | .checks => ["check", "outcome"]
  | .errors => ["resource_type", "error_type"]
  | .reconciliations => ["resource_type", "status"]
  | .requeues => ["resource_type", "reason"]
  | .created => ["resource_type"]
  | .deleted => ["resource_type"]

end Counter

/-- One counter: its family and the values of its `Counter.labels`. -/
structure Series where
  family : Counter
  values : List String
  deriving DecidableEq, Repr

namespace Series

/-- What a registry knows a counter by: the family and the `Text.Digest` of the label values. -/
def id (s : Series) : Counter × UInt64 := (s.family, Text.Digest.ofTexts s.values)

/-- Whether two choices of label values share a counter, as those of the same `Series.id` do. -/
def sameAs (s t : Series) : Bool := s.id == t.id

@[simp] theorem sameAs_self (s : Series) : s.sameAs s = true := by simp [sameAs]

theorem sameAs_iff {s t : Series} : s.sameAs t = true ↔ s.id = t.id := by simp [sameAs]

end Series

/-- The distribution of durations: how many there are `within` each of the `bounds`, their number
and their sum. -/
structure Distribution where
  within : List Nat
  count : Nat
  sum : Binary64
  deriving DecidableEq

namespace Distribution

/-- Whether two resource types share a distribution, as those of the same digest do. -/
def shared (a b : String) : Bool := Text.Digest.ofTexts [a] == Text.Digest.ofTexts [b]

/-- The bounds, in seconds, as ratios: from a hundredth of a second up to thirty. -/
def bounds : List (Nat × Nat) :=
  [(1, 100), (1, 10), (1, 2), (1, 1), (2, 1), (5, 1), (10, 1), (20, 1), (30, 1)]

/-- The distribution of no duration, with a zero for each of the `bounds`. -/
def empty : Distribution := ⟨bounds.map fun _ => 0, 0, Binary64.zero⟩

/-- A distribution with one more duration, which counts for every bound that it does not exceed and
is added to the sum with rounding. -/
def observe (d : Distribution) (elapsed : Duration) : Distribution where
  within := (bounds.zip d.within).map fun (b, n) =>
    if elapsed.toBinary64.ble (Binary64.round b.1 b.2) then n + 1 else n
  count := d.count + 1
  sum := d.sum.add elapsed.toBinary64

end Distribution

/-- What was counted so far: the counters in the order in which they were first counted, and the
distributions by resource type. -/
structure Registry where
  counts : List (Series × Nat) := []
  durations : List (String × Distribution) := []
  deriving DecidableEq

namespace Registry

/-- The value under the first key that satisfies `p`. -/
def valueAt {K V : Type} (p : K → Bool) (es : List (K × V)) : Option V :=
  (es.find? fun e => p e.1).map Prod.snd

/-- The entries `es` with a `change` of the value under the first key that satisfies `p`, or with
`change new` under `key` at the end if there is none. -/
def update {K V : Type} (p : K → Bool) (key : K) (change : V → V) (new : V) :
    List (K × V) → List (K × V)
  | [] => [(key, change new)]
  | (k, v) :: es => if p k then (k, change v) :: es else (k, v) :: update p key change new es

/-- The value of the counter `s`, zero as long as it was not counted. -/
def count (r : Registry) (s : Series) : Nat := (valueAt s.sameAs r.counts).getD 0

/-- The distribution of the durations of a resource type, `Distribution.empty` as long as there is
none. -/
def distribution (r : Registry) (resource : String) : Distribution :=
  (valueAt (Distribution.shared resource) r.durations).getD .empty

/-- The registry with one added to the counter `s`. -/
def increment (s : Series) (r : Registry) : Registry :=
  { r with counts := update s.sameAs s (· + 1) 0 r.counts }

/-- The registry with a duration added to the distribution of `resource`. -/
def observe (resource : String) (elapsed : Duration) (r : Registry) : Registry :=
  { r with
    durations := update (Distribution.shared resource) resource (·.observe elapsed) .empty
      r.durations }

/-- The registry with an observation counted. Each adds one to a counter of its family; the end of a
reconciliation adds its duration, and a requeue counts in two families. -/
def record (r : Registry) : Observation → Registry
  | .reconciled resource ending elapsed =>
    let status := match ending with
      | .success => "success"
      | .error => "error"
    (r.increment ⟨.reconciliations, [resource, status]⟩).observe resource elapsed
  | .requeued resource reason =>
    (r.increment ⟨.reconciliations, [resource, "requeue"]⟩).increment
      ⟨.requeues, [resource, reason]⟩
  | .created resource => r.increment ⟨.created, [resource]⟩
  | .deleted resource => r.increment ⟨.deleted, [resource]⟩
  | .failed resource errorType => r.increment ⟨.errors, [resource, errorType]⟩
  | .checked check outcome =>
    let label := match outcome with
      | .pass => "pass"
      | .fail => "fail"
      | .error => "error"
    r.increment ⟨.checks, [check, label]⟩

/-- The registry with the observations `os` counted in order. -/
def recordAll (r : Registry) (os : List Observation) : Registry := os.foldl record r

/-- **A change is seen under its own key.** If `key` satisfies `p`, the value that `valueAt p` finds
after `update p key change new` is the change of the one before, or of `new` if there was none. -/
theorem valueAt_update_self {K V : Type} {p : K → Bool} {key : K} (h : p key = true)
    (change : V → V) (new : V) (es : List (K × V)) :
    valueAt p (update p key change new es) = some (change ((valueAt p es).getD new)) := by
  induction es with
  | nil => simp [update, valueAt, h]
  | cons e es ih =>
    obtain ⟨k, v⟩ := e
    by_cases hk : p k = true
    · simp [update, valueAt, hk]
    · simpa [update, valueAt, hk] using ih

/-- **A change is not seen under other keys.** If `q` accepts neither `key` nor any key that
satisfies `p`, `valueAt q` finds the same before and after `update p key change new`. -/
theorem valueAt_update_of_not {K V : Type} {p q : K → Bool} {key : K} (h : q key = false)
    (hpq : ∀ k, p k = true → q k = false) (change : V → V) (new : V) (es : List (K × V)) :
    valueAt q (update p key change new es) = valueAt q es := by
  induction es with
  | nil => simp [update, valueAt, h]
  | cons e es ih =>
    obtain ⟨k, v⟩ := e
    by_cases hk : p k = true
    · simp [update, valueAt, hk, hpq k hk]
    · by_cases hq : q k = true
      · simp [update, valueAt, hk, hq]
      · simpa [update, valueAt, hk, hq] using ih

/-- **An increment adds one to its counter.** By `valueAt_update_self`, under each choice of label
values that shares the counter by `Series.sameAs`. -/
theorem count_increment_of_sameAs {s t : Series} (h : t.sameAs s = true) (r : Registry) :
    (r.increment s).count t = r.count t + 1 := by
  have hst : t.sameAs = s.sameAs := by
    funext k
    simp only [Series.sameAs, Series.sameAs_iff.1 h]
  simp [count, increment, hst, valueAt_update_self]

/-- **An increment leaves the other counters.** By `valueAt_update_of_not`, for each counter that is
not `Series.sameAs` the one incremented. -/
theorem count_increment_of_not_sameAs {s t : Series} (h : t.sameAs s = false) (r : Registry) :
    (r.increment s).count t = r.count t := by
  have hne : ∀ k, s.sameAs k = true → t.sameAs k = false := by
    intro k hk
    rw [Series.sameAs_iff] at hk
    simpa only [Series.sameAs, ← hk] using h
  simp [count, increment, valueAt_update_of_not h hne]

end Registry

end MailDomain
