import Mathlib.Tactic.Common
import MailDomain.Error.Pass
import MailDomain.Metrics.Registry
import MailDomain.Object.Domain

/-!
# What observations add to a registry

Each observation adds one to some counters, and may add a duration to a distribution. How often a
counter was added to is a sum over the observations, and counters of two families are never the
same.

## Main definitions

* `Observation.series`, `Observation.times` — the counters and the distribution to which an
  observation adds.
* `Registry.hits` — how often observations add to a counter.
* `Series.passes`, `Series.requeues`, `Series.errors`, `Series.checks`, `Series.created`,
  `Series.deleted` — the counters of domains and their ingresses.

## Main results

* `Registry.count_recordAll`, `Registry.samples_recordAll` — a counter and the number of samples of
  a distribution after some observations.
* `Registry.hits_of_family_ne` — observations of other families do not add to a counter.
* `Registry.hits_checked` — a check adds to its own counter.
-/

set_option relaxedAutoImplicit false
set_option autoImplicit false

namespace MailDomain

/-- The label of the outcome of a check in metrics. -/
def CheckOutcome.label : CheckOutcome → String
  | .pass => "pass"
  | .fail => "fail"
  | .error => "error"

/-- The label of the ending of a pass in metrics. -/
def Ending.label : Ending → String
  | .success => "success"
  | .error => "error"

namespace Observation

/-- The counters to which the observation adds one. Most add to one; a requeue is counted twice, as
a pass that was asked for and by its reason. -/
def series : Observation → List Series
  | .reconciled resource ending _ => [⟨.reconciliations, [resource, ending.label]⟩]
  | .requeued resource reason =>
    [⟨.reconciliations, [resource, "requeue"]⟩, ⟨.requeues, [resource, reason]⟩]
  | .created resource => [⟨.created, [resource]⟩]
  | .deleted resource => [⟨.deleted, [resource]⟩]
  | .failed resource errorType => [⟨.errors, [resource, errorType]⟩]
  | .checked check outcome => [⟨.checks, [check, outcome.label]⟩]

/-- Whether the observation adds a duration to the distribution of the type `resource`. Two types
share a distribution if `Distribution.shared` says so. -/
def times (resource : String) : Observation → Bool
  | .reconciled other _ _ => Distribution.shared resource other
  | _ => false

end Observation

namespace Registry

variable {r : Registry} {o : Observation} {os os' : List Observation} {s t : Series}
  {resource : String}

/-- How often the observations `os` add to the counter `s`, or to one that is the same as `s` by
`Series.sameAs`. -/
def hits (os : List Observation) (s : Series) : Nat :=
  (os.flatMap Observation.series).countP s.sameAs

@[simp] lemma hits_nil : hits [] s = 0 := rfl

@[simp] lemma hits_cons : hits (o :: os) s = o.series.countP s.sameAs + hits os s := by
  simp [hits]

@[simp] lemma hits_append : hits (os ++ os') s = hits os s + hits os' s := by
  simp [hits]

/-- After an `increment` of `s`, the counter `t` shows one more if it is the same as `s`, and what
it showed before if not. -/
lemma count_increment (r : Registry) (s t : Series) :
    (r.increment s).count t = r.count t + if t.sameAs s then 1 else 0 := by
  cases h : t.sameAs s with
  | true => simp [count_increment_of_sameAs h]
  | false => simp [count_increment_of_not_sameAs h]

/-- After an observation was recorded, a counter shows as many more as there are counters in its
`series` that are the same. -/
lemma count_record (r : Registry) (o : Observation) (s : Series) :
    (r.record o).count s = r.count s + o.series.countP s.sameAs := by
  cases o with
  | reconciled resource ending elapsed =>
    have hobserve : ∀ r : Registry, (r.observe resource elapsed).count s = r.count s :=
      fun _ => rfl
    cases ending <;>
      simp [record, Observation.series, Ending.label, hobserve, count_increment,
        List.countP_singleton]
  | requeued resource reason =>
    simp [record, Observation.series, count_increment, List.countP_cons, Nat.add_assoc,
      Nat.add_comm]
  | checked check outcome =>
    cases outcome <;>
      simp [record, Observation.series, CheckOutcome.label, count_increment, List.countP_singleton]
  | _ => simp [record, Observation.series, count_increment, List.countP_singleton]

/-- **What a counter shows after some observations**: what it showed before, and its `hits` among
them. -/
theorem count_recordAll (r : Registry) (os : List Observation) (s : Series) :
    (r.recordAll os).count s = r.count s + hits os s := by
  induction os generalizing r with
  | nil => rfl
  | cons o os ih =>
    rw [recordAll, List.foldl_cons, ← recordAll, ih, count_record, hits_cons, Nat.add_assoc]

/-- After an observation was recorded, the distribution of `resource` has one more sample if the
observation `times` it, and as many as before if not. -/
lemma samples_record (r : Registry) (o : Observation) (resource : String) :
    ((r.record o).distribution resource).count =
      (r.distribution resource).count + if o.times resource then 1 else 0 := by
  cases o with
  | reconciled other ending elapsed =>
    cases h : Distribution.shared resource other with
    | true =>
      have hsame : Distribution.shared other = Distribution.shared resource := by
        funext x
        simp only [Distribution.shared, beq_iff_eq] at h ⊢
        rw [h]
      simp [record, distribution, observe, increment, Observation.times, h, hsame,
        valueAt_update_self h, Distribution.observe]
    | false =>
      have hother : ∀ x, Distribution.shared other x = true →
          Distribution.shared resource x = false := by
        intro x hx
        simp only [Distribution.shared, beq_iff_eq, beq_eq_false_iff_ne] at h hx ⊢
        rwa [← hx]
      simp [record, distribution, observe, increment, Observation.times, h,
        valueAt_update_of_not h hother]
  | _ => rfl

/-- **How many samples a distribution has after some observations**: as many as before, and one for
each of them that `times` its resource. -/
theorem samples_recordAll (r : Registry) (os : List Observation) (resource : String) :
    ((r.recordAll os).distribution resource).count =
      (r.distribution resource).count + os.countP (·.times resource) := by
  induction os generalizing r with
  | nil => rfl
  | cons o os ih =>
    rw [recordAll, List.foldl_cons, ← recordAll, ih, samples_record, List.countP_cons]
    omega

/-- Counters of two different families are not the same, whatever their labels. -/
lemma sameAs_of_family_ne (h : s.family ≠ t.family) : s.sameAs t = false := by
  rw [← Bool.not_eq_true, Series.sameAs_iff]
  exact fun he => h (congrArg Prod.fst he)

/-- Observations whose `series` are of other families than `s` have no `hits` on `s`. -/
lemma hits_of_family_ne (h : ∀ o ∈ os, ∀ t ∈ o.series, s.family ≠ t.family) : hits os s = 0 := by
  rw [hits, List.countP_eq_zero]
  intro t ht
  obtain ⟨o, ho, ht⟩ := List.mem_flatMap.1 ht
  simp [sameAs_of_family_ne (h o ho t ht)]

end Registry

/-! ### The counters of domains -/

namespace Series

/-- The counter of passes with the given `status`: that they succeeded or failed, or that another
one was asked for. -/
def passes (status : String) : Series := ⟨.reconciliations, [Kind.domain.name, status]⟩

/-- The counter of requeues for the given `reason`. -/
def requeues (reason : String) : Series := ⟨.requeues, [Kind.domain.name, reason]⟩

/-- The counter of errors of passes of the given type. -/
def errors (errorType : String) : Series := ⟨.errors, [Kind.domain.name, errorType]⟩

/-- The counter of the check `c` with the outcome `o`. -/
def checks (c : Check) (o : CheckOutcome) : Series := ⟨.checks, [c.label, o.label]⟩

/-- The counter of ingresses that were created. -/
def created : Series := ⟨.created, [Kind.ingress.name]⟩

/-- The counter of ingresses that were deleted. -/
def deleted : Series := ⟨.deleted, [Kind.ingress.name]⟩

end Series

/-- Two counters of checks are the same exactly if the check and the outcome are. -/
lemma Series.sameAs_checks (c c' : Check) (o o' : CheckOutcome) :
    (checks c o).sameAs (checks c' o') = decide (c' = c ∧ o' = o) := by
  cases c <;> cases c' <;> cases o <;> cases o' <;> decide +kernel

/-- The observation of a check adds one to the counter of that check with that outcome, and nothing
to other counters of checks. -/
lemma Registry.hits_checked (c c' : Check) (o o' : CheckOutcome) :
    hits [.checked c'.label o'] (.checks c o) = if c' = c ∧ o' = o then 1 else 0 := by
  change [Series.checks c' o'].countP (Series.checks c o).sameAs = _
  simp [List.countP_singleton, Series.sameAs_checks]

/-- The types under which errors of passes are counted: one for each stage, whatever failed in it,
and one for passes that were cancelled. -/
def PassError.types : List String :=
  [Stage.fetch.label, Stage.probe.label, Stage.convergeIngress.label, Stage.persistStatus.label,
    "cancelled"]

/-- Every error of a pass is counted under one of the `types`. -/
lemma PassError.label_mem_types (e : PassError) : e.label ∈ types := by
  cases e with
  | probe _ _ _ => simp [label, types]
  | store _ stage _ => cases stage <;> simp [label, types]
  | invariant _ stage _ => cases stage <;> simp [label, types]
  | cancelled _ _ => simp [label, types]

end MailDomain
