import MailDomain.Proofs.Metrics.Tally
import MailDomain.Proofs.Pass.Order
import MailDomain.Proofs.Pass.Stores
import MailDomain.Proofs.Pass.Upkeep

/-!
# The counters balance

What the counters say about passes, about what followed them, about their errors, checks and
ingresses belongs together. Every story of a pass balances with what the controller counts after it,
whether the pass ended or was cancelled, and so do any number of passes.

## Main definitions

* `Deed.observation?`, `Deed.isCreation`, `Deed.isDeletion`, `Deed.outcome?` — what a deed counts
  for.
* `Balanced` — counters balance with what was done.

## Main results

* `Balanced.add` — what balances in two parts balances as a whole.
* `Protocol.PassHalts.balanced` — a pass balances with what the controller counts after it.
-/

set_option relaxedAutoImplicit false
set_option autoImplicit false

namespace MailDomain

open Protocol Registry

/-! ### What deeds count for -/

namespace Deed

/-- The observation that the deed is, if it is one. -/
def observation? : Deed → Option Observation
  | .asked _ _ => none
  | .noted o => some o

/-- The deed is the creation of an ingress that was answered as done. -/
def isCreation : Deed → Bool
  | .asked (.createIngress _) a => a.isOk
  | _ => false

/-- The deed is the deletion of an ingress that was answered as done. One that was answered as
`notFound`, the ingress being gone already, does not count. -/
def isDeletion : Deed → Bool
  | .asked (.deleteIngress _) a => a.isOk
  | _ => false

/-- The check that the deed is, if it is one, with its outcome: whether it passed, or that it was
not answered. -/
def outcome? : Deed → Option (Check × CheckOutcome)
  | .asked (.check c _) (.ok passed) => some (c, .ofFlag passed)
  | .asked (.check c _) (.error _) => some (c, .error)
  | _ => none

/-- The deed counts for nothing: it is no observation, no creation or deletion that was done, and no
check. -/
def isQuiet (x : Deed) : Bool :=
  x.observation?.isNone && !x.isCreation && !x.isDeletion && x.outcome?.isNone

end Deed

/-- The observations in the story `h`, in their order. -/
def observationsOf (h : List Deed) : List Observation := h.filterMap Deed.observation?

/-- How often the check `c` has the outcome `o` in the story `h`. -/
def outcomes (h : List Deed) (c : Check) (o : CheckOutcome) : Nat :=
  h.countP fun x => x.outcome? = some (c, o)

@[simp] lemma observationsOf_append (h h' : List Deed) :
    observationsOf (h ++ h') = observationsOf h ++ observationsOf h' := List.filterMap_append ..

@[simp] lemma outcomes_append (h h' : List Deed) (c : Check) (o : CheckOutcome) :
    outcomes (h ++ h') c o = outcomes h c o + outcomes h' c o := List.countP_append ..

/-! ### Balance -/

/-- The counters `n`, with a number of `samples` of the duration of passes, balance with a number of
`passes`, of which `gone` found no domain, with what these `created` and `deleted`, and with the
`outcomes` of their checks. -/
structure Balanced (n : Series → Nat) (samples passes gone created deleted : Nat)
    (outcomes : Check → CheckOutcome → Nat) : Prop where
  /-- Every pass ended in success or in an error. -/
  ended : n (.passes "success") + n (.passes "error") = passes
  sampled : samples = passes
  /-- Every further pass that was asked for was so for one of three reasons. -/
  requeued : n (.passes "requeue") =
    n (.requeues "converged") + n (.requeues "pending") + n (.requeues "error")
  /-- Every error is counted under exactly one of the `PassError.types`. -/
  typed : n (.passes "error") = (PassError.types.map fun t => n (.errors t)).sum
  /-- After every error a further pass was asked for, for that reason. -/
  retried : n (.passes "error") = n (.requeues "error")
  /-- After every success a further pass was asked for, unless the domain was gone. -/
  gone : n (.passes "success") = n (.requeues "converged") + n (.requeues "pending") + gone
  created : n .created = created
  deleted : n .deleted = deleted
  checked : ∀ c o, n (.checks c o) = outcomes c o
  /-- A pass that is counted as failing for want of an answer failed at exactly one check. -/
  probed : n (.errors Stage.probe.label) =
    n (.checks .dkim .error) + n (.checks .stats .error) + n (.checks .spf .error)
  /-- The check of the stats was made at most as often as that of the key was answered. -/
  stats : n (.checks .stats .pass) + n (.checks .stats .fail) + n (.checks .stats .error) ≤
    n (.checks .dkim .pass) + n (.checks .dkim .fail)
  /-- The check of the policy was made at most as often as that of the stats was answered. -/
  spf : n (.checks .spf .pass) + n (.checks .spf .fail) + n (.checks .spf .error) ≤
    n (.checks .stats .pass) + n (.checks .stats .fail)

namespace Balanced

/-- Counters that show nothing balance with nothing that was done. -/
lemma zero : Balanced (fun _ => 0) 0 0 0 0 0 fun _ _ => 0 := by
  constructor <;> simp [PassError.types]

/-- **What balances in two parts balances as a whole**: all equations and bounds of `Balanced` are
linear. -/
theorem add {n n' : Series → Nat} {samples samples' passes passes' gone gone' created created'
    deleted deleted' : Nat} {outcomes outcomes' : Check → CheckOutcome → Nat}
    (h : Balanced n samples passes gone created deleted outcomes)
    (h' : Balanced n' samples' passes' gone' created' deleted' outcomes') :
    Balanced (fun s => n s + n' s) (samples + samples') (passes + passes') (gone + gone')
      (created + created') (deleted + deleted') fun c o => outcomes c o + outcomes' c o where
  ended := by have := h.ended; have := h'.ended; omega
  sampled := by rw [h.sampled, h'.sampled]
  requeued := by have := h.requeued; have := h'.requeued; omega
  typed := by
    have := h.typed
    have := h'.typed
    simp only [PassError.types, List.map_cons, List.map_nil, List.sum_cons, List.sum_nil] at *
    omega
  retried := by rw [h.retried, h'.retried]
  gone := by have := h.gone; have := h'.gone; omega
  created := by rw [h.created, h'.created]
  deleted := by rw [h.deleted, h'.deleted]
  checked c o := by rw [h.checked, h'.checked]
  probed := by have := h.probed; have := h'.probed; omega
  stats := by have := h.stats; have := h'.stats; omega
  spf := by have := h.spf; have := h'.spf; omega

end Balanced

/-! ### Stories -/

/-- The story `h` is squared if its observations are those of what was done in it: the ingresses
that it creates and deletes, and the outcomes of its checks. They say nothing about how a pass
ends. -/
structure Squared (h : List Deed) : Prop where
  created : hits (observationsOf h) .created = h.countP Deed.isCreation
  deleted : hits (observationsOf h) .deleted = h.countP Deed.isDeletion
  checked : ∀ c o, hits (observationsOf h) (.checks c o) = outcomes h c o
  silent : ∀ s : Series, s.family ∈ [.reconciliations, .requeues, .errors] →
    hits (observationsOf h) s = 0
  unsampled : (observationsOf h).countP (·.times Kind.domain.name) = 0

namespace Squared

variable {h h' : List Deed} {d : Domain} {c : Check} {i : Ingress}

/-- Two stories that are `Squared` are so one after the other. -/
lemma append (hh : Squared h) (hh' : Squared h') : Squared (h ++ h') where
  created := by simp [hh.created, hh'.created]
  deleted := by simp [hh.deleted, hh'.deleted]
  checked c o := by simp [hh.checked, hh'.checked]
  silent s hs := by simp [hh.silent s hs, hh'.silent s hs]
  unsampled := by simp [hh.unsampled, hh'.unsampled]

/-- A story in which all deeds are quiet is `Squared`. -/
lemma of_quiet (hh : ∀ x ∈ h, x.isQuiet = true) : Squared h := by
  simp only [Deed.isQuiet, Bool.and_eq_true, Option.isNone_iff_eq_none,
    Bool.not_eq_true'] at hh
  have hobservations : observationsOf h = [] :=
    List.filterMap_eq_nil_iff.2 fun x hx => (hh x hx).1.1.1
  refine ⟨?_, ?_, fun c o => ?_, fun s _ => ?_, ?_⟩
  · rw [hobservations, hits_nil, eq_comm, List.countP_eq_zero]
    exact fun x hx => by simp [(hh x hx).1.1.2]
  · rw [hobservations, hits_nil, eq_comm, List.countP_eq_zero]
    exact fun x hx => by simp [(hh x hx).1.2]
  · rw [hobservations, hits_nil, eq_comm, outcomes, List.countP_eq_zero]
    exact fun x hx => by simp [(hh x hx).2]
  · rw [hobservations, hits_nil]
  · rw [hobservations, List.countP_nil]

/-- A deed with the one observation that it calls for is `Squared`, if the observation adds to no
counter about the end of passes. -/
lemma of_pair {x : Deed} {o : Observation} (hx : x.observation? = none)
    (hcreated : hits [o] .created = [x].countP Deed.isCreation)
    (hdeleted : hits [o] .deleted = [x].countP Deed.isDeletion)
    (hchecked : ∀ c o', hits [o] (.checks c o') = outcomes [x] c o')
    (hfamily : ∀ t ∈ o.series, t.family ∉ [.reconciliations, .requeues, .errors])
    (htimes : o.times Kind.domain.name = false) : Squared [x, .noted o] := by
  have hobservations : observationsOf [x, .noted o] = [o] := by
    rw [observationsOf, List.filterMap_cons, hx]
    rfl
  refine ⟨?_, ?_, fun c o' => ?_, fun s hs => ?_, ?_⟩
  · simpa [hobservations, List.countP_cons, Deed.isCreation] using hcreated
  · simpa [hobservations, List.countP_cons, Deed.isDeletion] using hdeleted
  · simpa [hobservations, outcomes, List.countP_cons, Deed.outcome?] using hchecked c o'
  · rw [hobservations]
    refine hits_of_family_ne fun o' ho t ht he => ?_
    rw [List.mem_singleton.1 ho] at ht
    exact hfamily t ht (he ▸ hs)
  · simp [hobservations, htimes]

/-- A check with the observation of its outcome is `Squared`. -/
lemma of_check {a : Except ProbeError Bool} {o : CheckOutcome}
    (ha : (Deed.asked (.check c d) a).outcome? = some (c, o)) :
    Squared [.asked (.check c d) a, .noted (.checked c.label o)] := by
  refine of_pair rfl ?_ ?_ (fun c' o' => ?_) (by simp [Observation.series]) rfl
  · exact hits_of_family_ne (by simp [Observation.series, Series.created])
  · exact hits_of_family_ne (by simp [Observation.series, Series.deleted])
  · rw [hits_checked, outcomes, List.countP_singleton, ha]
    simp only [Option.some.injEq, Prod.mk.injEq, decide_eq_true_eq]

/-- The deeds of a check that was answered are `Squared`. -/
lemma answered (d : Domain) (c : Check) (passed : Bool) : Squared (Protocol.answered d c passed) :=
  of_check rfl

/-- The deeds of a check that was not answered are `Squared`. -/
lemma unanswered (d : Domain) (c : Check) (e : ProbeError) :
    Squared (Protocol.unanswered d c e) :=
  of_check rfl

/-- A creation that was done, with its observation, is `Squared`. -/
lemma of_creation (i : Ingress) :
    Squared [.asked (.createIngress i) (.ok ()), .noted (.created Kind.ingress.name)] := by
  refine of_pair rfl ?_ ?_ (fun c o => ?_) (by simp [Observation.series]) rfl
  · change hits [.created Kind.ingress.name] .created = 1
    decide +kernel
  · exact hits_of_family_ne (by simp [Observation.series, Series.deleted])
  · exact hits_of_family_ne (by simp [Observation.series, Series.checks])

/-- A deletion that was done, with its observation, is `Squared`. -/
lemma of_deletion (i : Ingress) :
    Squared [.asked (.deleteIngress i) (.ok ()), .noted (.deleted Kind.ingress.name)] := by
  refine of_pair rfl ?_ ?_ (fun c o => ?_) (by simp [Observation.series]) rfl
  · exact hits_of_family_ne (by simp [Observation.series, Series.created])
  · change hits [.deleted Kind.ingress.name] .deleted = 1
    decide +kernel
  · exact hits_of_family_ne (by simp [Observation.series, Series.checks])

end Squared

/-- A part of a story that is `Squared` and contains no check. -/
structure Aside (h : List Deed) : Prop where
  squared : Squared h
  unchecked : ∀ c o, outcomes h c o = 0

namespace Aside

variable {h h' : List Deed}

/-- Two parts of a story that contain no check make one. -/
lemma append (hh : Aside h) (hh' : Aside h') : Aside (h ++ h') where
  squared := hh.squared.append hh'.squared
  unchecked c o := by simp [hh.unchecked, hh'.unchecked]

/-- A part of a story in which all deeds are quiet contains no check. -/
lemma of_quiet (hh : h.all Deed.isQuiet = true) : Aside h where
  squared := .of_quiet (List.all_eq_true.1 hh)
  unchecked c o := List.countP_eq_zero.2 fun x hx => by
    have hquiet := List.all_eq_true.1 hh x hx
    simp only [Deed.isQuiet, Bool.and_eq_true, Option.isNone_iff_eq_none] at hquiet
    simp [hquiet.2]

end Aside

namespace Protocol

variable {config : PassConfig} {key : ObjectKey} {d : Domain} {s : DnsStatus} {h : List Deed}
  {r : Except PassError Outcome}

/-- The story of the work on the ingress, `ConvergeEnds`, contains no check. -/
lemma ConvergeEnds.aside {a : Except PassError IngressAction}
    (hends : ConvergeEnds config.backend key d s h a) : Aside h := by
  have hlookedUp : ∀ found, Aside [lookedUp key found] := fun _ => .of_quiet rfl
  cases hends with
  | @deleted i _ => exact (hlookedUp (some i)).append ⟨.of_deletion i, fun _ _ => rfl⟩
  | @created i _ _ => exact (hlookedUp none).append ⟨.of_creation i, fun _ _ => rfl⟩
  | _ => exact .of_quiet rfl

/-- The story of what comes after the work on the ingress, `GoesOn`, contains no check. -/
lemma GoesOn.aside {a : Except PassError IngressAction} (hgoes : GoesOn key a h r) : Aside h := by
  cases hgoes <;> exact .of_quiet rfl

/-- The story of the work on the ingress up to a call contains no check. -/
lemma ConvergeDoes.aside {c : Call} (hdoes : ConvergeDoes config.backend key d s h (.ask c)) :
    Aside h := by
  rcases hdoes.of_ask with ⟨rfl, -⟩ | ⟨i, rfl, -⟩ | ⟨i, rfl, -⟩ <;> exact .of_quiet rfl

/-- The story of the checks of a domain, as far as they got, with the number of those that were not
answered, which is at most one and the last. -/
inductive Probed : List Deed → Nat → Prop
  | none : Probed [] 0
  | dkim (d : Domain) (dkim : Bool) : Probed (answered d .dkim dkim) 0
  | stats (d : Domain) (dkim stats : Bool) :
      Probed (answered d .dkim dkim ++ answered d .stats stats) 0
  | all (d : Domain) (s : DnsStatus) : Probed (allAnswered d s) 0
  | noDkim (d : Domain) (e : ProbeError) : Probed (unanswered d .dkim e) 1
  | noStats (d : Domain) (dkim : Bool) (e : ProbeError) :
      Probed (answered d .dkim dkim ++ unanswered d .stats e) 1
  | noSpf (d : Domain) (dkim stats : Bool) (e : ProbeError) :
      Probed (answered d .dkim dkim ++ (answered d .stats stats ++ unanswered d .spf e)) 1

/-- The deeds of a check that was answered have that outcome once, and no other. -/
lemma outcomes_answered (d : Domain) (c c' : Check) (passed : Bool) (o : CheckOutcome) :
    outcomes (answered d c passed) c' o =
      if c = c' ∧ CheckOutcome.ofFlag passed = o then 1 else 0 := by
  simp [outcomes, answered, List.countP_cons, Deed.outcome?]

/-- The deeds of a check that was not answered have the outcome `error` once, and no other. -/
lemma outcomes_unanswered (d : Domain) (c c' : Check) (e : ProbeError) (o : CheckOutcome) :
    outcomes (unanswered d c e) c' o = if c = c' ∧ CheckOutcome.error = o then 1 else 0 := by
  simp [outcomes, unanswered, List.countP_cons, Deed.outcome?]

namespace Probed

variable {n : Nat}

/-- The story of checks is `Squared`, however far they got. -/
lemma squared (hprobed : Probed h n) : Squared h := by
  cases hprobed with
  | none => exact (Aside.of_quiet rfl).squared
  | dkim d dkim => exact .answered d .dkim dkim
  | stats d dkim stats => exact (Squared.answered d .dkim dkim).append (.answered d .stats stats)
  | all d s =>
    exact (Squared.answered d .dkim s.dkim).append
      ((Squared.answered d .stats s.stats).append (.answered d .spf s.spf))
  | noDkim d e => exact .unanswered d .dkim e
  | noStats d dkim e => exact (Squared.answered d .dkim dkim).append (.unanswered d .stats e)
  | noSpf d dkim stats e =>
    exact (Squared.answered d .dkim dkim).append
      ((Squared.answered d .stats stats).append (.unanswered d .spf e))

/-- In a story of checks, `n` outcomes are `error`, and each check was made at most as often as the
one before it was answered. -/
lemma outcomes_spec (hprobed : Probed h n) :
    outcomes h .dkim .error + outcomes h .stats .error + outcomes h .spf .error = n ∧
      outcomes h .stats .pass + outcomes h .stats .fail + outcomes h .stats .error ≤
        outcomes h .dkim .pass + outcomes h .dkim .fail ∧
      outcomes h .spf .pass + outcomes h .spf .fail + outcomes h .spf .error ≤
        outcomes h .stats .pass + outcomes h .stats .fail := by
  cases hprobed with
  | none => exact ⟨rfl, Nat.le_refl _, Nat.le_refl _⟩
  | dkim d dkim => cases dkim <;> simp [outcomes_answered, CheckOutcome.ofFlag]
  | stats d dkim stats =>
    cases dkim <;> cases stats <;> simp [outcomes_answered, CheckOutcome.ofFlag]
  | all d s =>
    obtain ⟨dkim, stats, spf⟩ := s
    cases dkim <;> cases stats <;> cases spf <;>
      simp [allAnswered, outcomes_answered, CheckOutcome.ofFlag]
  | noDkim d e => simp [outcomes_unanswered]
  | noStats d dkim e =>
    cases dkim <;> simp [outcomes_answered, outcomes_unanswered, CheckOutcome.ofFlag]
  | noSpf d dkim stats e =>
    cases dkim <;> cases stats <;>
      simp [outcomes_answered, outcomes_unanswered, CheckOutcome.ofFlag]

end Probed

/-- How many checks the result of a pass says that it failed at, which is at most one. -/
def failedChecks : Except PassError Outcome → Nat
  | .ok _ => 0
  | .error e => if e.label = Stage.probe.label then 1 else 0

/-- Up to a call that `ChecksDo` allows, some checks have been made and all of them were
answered. -/
lemma ChecksDo.probed {c : Call} (hdoes : ChecksDo d h (.ask c)) : Probed h 0 := by
  cases hdoes with
  | dkim hdoes =>
    cases hdoes
    exact .none
  | stats dkim hdoes =>
    cases hdoes
    rw [List.append_nil]
    exact .dkim d dkim
  | spf dkim stats hdoes =>
    cases hdoes
    rw [List.append_nil]
    exact .stats d dkim stats

/-- Checks that end with a failure do so at one of them. -/
lemma ChecksEnd.probed {e : PassError} (hends : ChecksEnd key d h (.error e)) :
    Probed h (failedChecks (.error e)) := by
  cases hends with
  | dkim e => exact .noDkim d e
  | stats dkim e => exact .noStats d dkim e
  | spf dkim stats e => exact .noSpf d dkim stats e

/-- What comes after the checks does not fail in the way of a check, so that `failedChecks` is
zero. -/
lemma GoesOn.failedChecks_eq {t : List Deed} {a : Except PassError IngressAction}
    (hgoes : GoesOn key a h r) (hends : ConvergeEnds config.backend key d s t a) :
    failedChecks r = 0 := by
  cases hgoes with
  | failed e => exact if_neg hends.ne_probe
  | unchanged _ _ _ | written _ _ _ _ | unwritten _ _ _ => rfl

/-- **The story of a pass is one of checks**, with parts before and after it that contain none,
whether the pass ended or was cancelled.

**Proof sketch.** By cases on how the pass halts, with `ChecksEnd.probed` and `ChecksDo.probed` for
the checks, and `ConvergeEnds.aside`, `ConvergeDoes.aside` and `GoesOn.aside` for what comes after
them. -/
theorem PassHalts.probed (hhalts : PassHalts config key h r) :
    ∃ g t w, h = g ++ (t ++ w) ∧ Aside g ∧ Aside w ∧ Probed t (failedChecks r) := by
  have hfetched : ∀ a, Aside [.asked (.fetchDomain key) a] := fun _ => .of_quiet rfl
  have hnothing : Aside [] := .of_quiet rfl
  cases hhalts with
  | ended hends =>
    rcases hends.parts with
      hfetch | ⟨d, t, e, rfl, rfl, hchecks⟩ | ⟨d, s, t, w, a, rfl, hends, hgoes⟩
    · cases hfetch with
      | unread e => exact ⟨_, [], [], rfl, hfetched _, hnothing, .none⟩
      | gone => exact ⟨_, [], [], rfl, hfetched _, hnothing, .none⟩
    · exact ⟨[fetched key (some d)], t, [], by simp, hfetched _, hnothing, hchecks.probed⟩
    · refine ⟨[fetched key (some d)], allAnswered d s, t ++ w, rfl, hfetched _,
        hends.aside.append hgoes.aside, ?_⟩
      -- after three answered checks no failure of the pass is one of a check
      rw [hgoes.failedChecks_eq hends]
      exact .all d s
  | cancelled hdoes =>
    cases hdoes with
    | fetch => exact ⟨[], [], [], rfl, hnothing, hnothing, .none⟩
    | @check d t _ hdoes =>
      exact ⟨[fetched key (some d)], t, [], by simp, hfetched _, hnothing, hdoes.probed⟩
    | @converge d s t _ hdoes =>
      exact ⟨[fetched key (some d)], allAnswered d s, t, rfl, hfetched _, hdoes.aside, .all d s⟩
    | @write d s t _ hends _ =>
      exact ⟨[fetched key (some d)], allAnswered d s, t, rfl, hfetched _, hends.aside, .all d s⟩

end Protocol

/-! ### Reports -/

namespace Controller

/-- The counters to which the controller's report on the result of a pass adds. -/
def reported : Except PassError Outcome → List Series
  | .ok .gone => [.passes "success"]
  | .ok (.requeue _ converged) =>
    [.passes "success", .passes "requeue", .requeues (reason converged)]
  | .error e => [.passes "error", .errors e.label, .passes "requeue", .requeues "error"]

/-- The report on a pass has as many `hits` on a counter as it has among the `reported` ones. -/
lemma hits_report (elapsed : Duration) (r : Except PassError Outcome) (s : Series) :
    hits (report elapsed r) s = (reported r).countP s.sameAs := by
  match r with
  | .ok .gone => rfl
  | .ok (.requeue _ _) => rfl
  | .error _ => rfl

/-- How the counters `n` of one pass belong together, where `gone` and `failed` say how many domains
were not found and how many checks failed: the equations of `Balanced` that speak of the end of
passes. -/
def Closes (n : Series → Nat) (gone failed : Nat) : Prop :=
  n (.passes "success") + n (.passes "error") = 1 ∧
    n (.passes "requeue") =
      n (.requeues "converged") + n (.requeues "pending") + n (.requeues "error") ∧
    n (.passes "error") = (PassError.types.map fun t => n (.errors t)).sum ∧
    n (.passes "error") = n (.requeues "error") ∧
    n (.passes "success") = n (.requeues "converged") + n (.requeues "pending") + gone ∧
    n (.errors Stage.probe.label) = failed

instance (n : Series → Nat) (gone failed : Nat) : Decidable (Closes n gone failed) := by
  unfold Closes
  infer_instance

/-- The property `Closes` depends only on the counters of passes, of requeues and of errors. -/
lemma Closes.of_eq {n n' : Series → Nat} {gone failed : Nat} (h : Closes n gone failed)
    (hn : ∀ s : Series, s.family ∈ [.reconciliations, .requeues, .errors] → n' s = n s) :
    Closes n' gone failed := by
  have hpasses : ∀ a, n' (.passes a) = n (.passes a) := fun a => hn _ (by simp [Series.passes])
  have hrequeues : ∀ a, n' (.requeues a) = n (.requeues a) :=
    fun a => hn _ (by simp [Series.requeues])
  have herrors : ∀ a, n' (.errors a) = n (.errors a) := fun a => hn _ (by simp [Series.errors])
  simpa only [Closes, hpasses, hrequeues, herrors] using h

/-- What the controller reports on one pass satisfies `Closes`. -/
lemma closes_reported (r : Except PassError Outcome) :
    Closes (fun s => (reported r).countP s.sameAs) (if r = .ok .gone then 1 else 0)
      (failedChecks r) := by
  match r with
  | .ok .gone => decide +kernel
  | .ok (.requeue _ converged) =>
    change Closes (fun s => [.passes "success", .passes "requeue",
      .requeues (reason converged)].countP s.sameAs) 0 0
    cases converged <;> decide +kernel
  | .error e =>
    have hall : ∀ l ∈ PassError.types,
        Closes (fun s => [.passes "error", .errors l, .passes "requeue",
          .requeues "error"].countP s.sameAs) 0 (if l = Stage.probe.label then 1 else 0) := by
      decide +kernel
    rw [if_neg nofun]
    exact hall e.label e.label_mem_types

/-- The report on a pass has no `hits` on counters of other families than passes, requeues and
errors. -/
lemma hits_report_of_family {s : Series} (hs : s.family ∉ [.reconciliations, .requeues, .errors])
    (elapsed : Duration) (r : Except PassError Outcome) : hits (report elapsed r) s = 0 := by
  have hreported : ∀ t ∈ reported r, t.family ∈ [.reconciliations, .requeues, .errors] := by
    match r with
    | .ok .gone => simp [reported, Series.passes]
    | .ok (.requeue _ _) => simp [reported, Series.passes, Series.requeues]
    | .error _ => simp [reported, Series.passes, Series.requeues, Series.errors]
  rw [hits_report, List.countP_eq_zero]
  intro t ht
  have hne : s.family ≠ t.family := fun he => hs (he ▸ hreported t ht)
  rw [sameAs_of_family_ne hne]
  exact Bool.false_ne_true

/-- The report on a pass times it once. -/
lemma countP_times_report (elapsed : Duration) (r : Except PassError Outcome) :
    (report elapsed r).countP (·.times Kind.domain.name) = 1 := by
  have hself : Distribution.shared Kind.domain.name Kind.domain.name = true := by decide +kernel
  match r with
  | .ok .gone => simp [report, Observation.times, hself]
  | .ok (.requeue _ _) => simp [report, Observation.times, hself]
  | .error _ => simp [report, Observation.times, hself]

end Controller

/-! ### One pass -/

/-- **One pass balances with what the controller counts after it**, whether it ended or was
cancelled.

**Proof sketch.** By `PassHalts.probed` the story is `Squared`, and its checks went as far as the
result says, see `Probed.outcomes_spec`. The report adds only to counters to which the story does
not, and satisfies `Closes` by `closes_reported`. -/
theorem Protocol.PassHalts.balanced {config : PassConfig} {key : ObjectKey} {h : List Deed}
    {r : Except PassError Outcome} (hhalts : PassHalts config key h r) (elapsed : Duration) :
    let os := observationsOf h ++ Controller.report elapsed r
    Balanced (hits os) (os.countP (·.times Kind.domain.name)) 1 (if r = .ok .gone then 1 else 0)
      (h.countP Deed.isCreation) (h.countP Deed.isDeletion) (outcomes h) := by
  obtain ⟨g, t, w, rfl, hg, hw, ht⟩ := hhalts.probed
  have hsquared : Squared (g ++ (t ++ w)) := hg.squared.append (ht.squared.append hw.squared)
  intro os
  -- the counters fall into two kinds: to some only the story adds, to the others only the report
  have hreport : ∀ s : Series, s.family ∉ [.reconciliations, .requeues, .errors] →
      hits os s = hits (observationsOf (g ++ (t ++ w))) s := by
    intro s hs
    rw [hits_append, Controller.hits_report_of_family hs, Nat.add_zero]
  have hstory : ∀ s : Series, s.family ∈ [.reconciliations, .requeues, .errors] →
      hits os s = (Controller.reported r).countP s.sameAs := by
    intro s hs
    rw [hits_append, hsquared.silent s hs, Nat.zero_add, Controller.hits_report]
  have hchecked : ∀ c o, hits os (.checks c o) = outcomes (g ++ (t ++ w)) c o := fun c o =>
    (hreport _ (by simp [Series.checks])).trans (hsquared.checked c o)
  -- all outcomes of checks are in the part of the story that consists of checks
  have hchecks : ∀ c o, hits os (.checks c o) = outcomes t c o := by
    intro c o
    rw [hchecked]
    simp [hg.unchecked, hw.unchecked]
  obtain ⟨hended, hrequeued, htyped, hretried, hgone, hprobed⟩ :=
    (Controller.closes_reported r).of_eq hstory
  obtain ⟨hfailed, hstats, hspf⟩ := ht.outcomes_spec
  exact {
    ended := hended
    sampled := by
      rw [List.countP_append, hsquared.unsampled, Controller.countP_times_report]
    requeued := hrequeued
    typed := htyped
    retried := hretried
    gone := hgone
    created := (hreport _ (by simp [Series.created])).trans hsquared.created
    deleted := (hreport _ (by simp [Series.deleted])).trans hsquared.deleted
    checked := hchecked
    probed := by rw [hprobed, hchecks, hchecks, hchecks, hfailed]
    stats := by simpa only [hchecks] using hstats
    spf := by simpa only [hchecks] using hspf }

end MailDomain
