import MailDomain.Proofs.Pass.Upkeep
import MailDomain.Proofs.Pass.Order
import MailDomain.Settings.Basic

/-!
# When a domain is looked at again

After each pass the controller schedules the next, unless the domain is gone. The next pass comes
after one of two intervals, both within the bounds that the settings of the operator keep to.

## Main definitions

* `AllPassed`, `SomeFailed` — what the checks of a story say.

## Main results

* `Settings.intervals_of_validate` — the intervals of valid settings.
* `Protocol.PassHalts.fetched_none_iff` — a pass finds no domain exactly if it ends with that.
* `Protocol.PassEnds.allPassed_iff`, `Protocol.PassEnds.someFailed_iff` — a pass that ends without a
  failure knows its checks.
* `Controller.attend_reschedules` — what is due after a domain was attended to.
-/

set_option relaxedAutoImplicit false
set_option autoImplicit false

namespace MailDomain

open Protocol

/-! ### Settings -/

/-- Settings that `validate` accepts give intervals of at least a second, and `converged`, the
interval after a pass in which every check passed, is not the shorter of the two. -/
theorem Settings.intervals_of_validate {s : Settings} (h : s.validate = .ok ()) :
    .ofSecs 1 ≤ s.passConfig.intervals.pending ∧
      s.passConfig.intervals.pending ≤ s.passConfig.intervals.converged := by
  unfold validate at h
  split at h
  · cases h
  split at h
  · cases h
  split at h
  · cases h
  next hpositive =>
  split at h
  · cases h
  next horder =>
  have hpending : s.pendingRequeue ≠ 0 := by
    intro hzero
    have hfound := List.find?_eq_none.1 hpositive ("--pending-requeue-secs", s.pendingRequeue)
      (by simp [positive])
    simp [hzero] at hfound
  constructor
  · change 1 * 1000000000 ≤ s.pendingRequeue * 1000000000
    omega
  · change s.pendingRequeue * 1000000000 ≤ s.convergedRequeue * 1000000000
    omega

/-- The interval `i.next s` is one of the two, and so lies between `i.pending` and `i.converged`. -/
lemma Intervals.next_bounds {i : Intervals} (h : i.pending ≤ i.converged) (s : DnsStatus) :
    i.pending ≤ i.next s ∧ i.next s ≤ i.converged := by
  cases hs : s.converged with
  | true => exact ⟨(i.next_of_converged hs).symm ▸ h, (i.next_of_converged hs).symm ▸ Nat.le_refl _⟩
  | false =>
    exact ⟨(i.next_of_not_converged hs).symm ▸ Nat.le_refl _,
      (i.next_of_not_converged hs).symm ▸ h⟩

/-! ### What a story says -/

/-- Every check was asked in the story `h` and answered with `true`. -/
def AllPassed (h : List Deed) : Prop := ∀ c, ∃ d, .asked (.check c d) (.ok true) ∈ h

/-- Some check was answered with `false` in the story `h`. -/
def SomeFailed (h : List Deed) : Prop := ∃ c d, .asked (.check c d) (.ok false) ∈ h

/-- The flag `converged` of a status is the conjunction of the flags of all checks. -/
lemma DnsStatus.converged_iff {s : DnsStatus} : s.converged = true ↔ ∀ c, s.flag c = true := by
  simp only [converged, Bool.and_eq_true]
  refine ⟨fun h c => ?_, fun h => ⟨⟨h .dkim, h .stats⟩, h .spf⟩⟩
  cases c with
  | dkim => exact h.1.1
  | stats => exact h.1.2
  | spf => exact h.2

namespace Protocol

variable {config : PassConfig} {key : ObjectKey} {d e : Domain} {s : DnsStatus} {h : List Deed}
  {c : Check} {passed : Bool} {r : Except PassError Outcome}

/-- The story `checked key d s` asks each check about `d` and answers it with the flag that `s` has
for it, and holds no other answer to a check. -/
lemma mem_checked_iff :
    .asked (.check c e) (.ok passed) ∈ checked key d s ↔ e = d ∧ passed = s.flag c := by
  cases c <;> simp [checked, fetched, allAnswered, answered, DnsStatus.flag]

/-- The story of the work on the ingress, `ConvergeEnds`, contains no answer to a check. -/
lemma ConvergeEnds.check_not_mem {a : Except PassError IngressAction}
    (hends : ConvergeEnds config.backend key d s h a) {b : Except ProbeError Bool} :
    .asked (.check c e) b ∉ h := by
  cases hends <;> simp [lookedUp]

/-- A pass that ends with `Outcome.requeue` had every check answered, and asks for the `delay` and
gives the word `converged` that these answers call for. -/
lemma PassEnds.of_requeue {delay : Duration} {converged : Bool}
    (hends : PassEnds config key h (.ok (.requeue delay converged))) :
    ∃ d s, delay = config.intervals.next s ∧ converged = s.converged ∧
      ∀ c e b, .asked (.check c e) (.ok b) ∈ h ↔ e = d ∧ b = s.flag c := by
  cases hends with
  | @unchanged d s t a hends _ =>
    refine ⟨d, s, rfl, rfl, fun c e b => ?_⟩
    rw [List.mem_append, mem_checked_iff, or_iff_left hends.check_not_mem]
  | @written d s t a hends _ =>
    refine ⟨d, s, rfl, rfl, fun c e b => ?_⟩
    rw [List.mem_append, mem_checked_iff, or_iff_left]
    simpa using hends.check_not_mem

/-- In the story of a pass that ends with `Outcome.requeue`, `AllPassed` holds exactly if the pass
says that it converged. -/
lemma PassEnds.allPassed_iff {delay : Duration} {converged : Bool}
    (hends : PassEnds config key h (.ok (.requeue delay converged))) :
    AllPassed h ↔ converged = true := by
  obtain ⟨d, s, -, rfl, hchecks⟩ := hends.of_requeue
  rw [DnsStatus.converged_iff]
  refine forall_congr' fun c => ⟨fun ⟨e, he⟩ => ((hchecks c e true).1 he).2.symm, fun hc => ?_⟩
  exact ⟨d, (hchecks c d true).2 ⟨rfl, hc.symm⟩⟩

/-- In the story of a pass that ends with `Outcome.requeue`, `SomeFailed` holds exactly if the pass
says that it did not converge. -/
lemma PassEnds.someFailed_iff {delay : Duration} {converged : Bool}
    (hends : PassEnds config key h (.ok (.requeue delay converged))) :
    SomeFailed h ↔ converged = false := by
  obtain ⟨d, s, -, rfl, hchecks⟩ := hends.of_requeue
  rw [← Bool.not_eq_true, DnsStatus.converged_iff, not_forall]
  refine exists_congr fun c => ⟨fun ⟨e, he⟩ => ?_, fun hc => ⟨d, (hchecks c d false).2 ⟨rfl, ?_⟩⟩⟩
  · simp [← ((hchecks c e false).1 he).2]
  · simpa using hc

/-- The story up to the last check begins with a fetch that found the domain, and has no fetch that
found none. -/
lemma fetched_none_not_mem_checked : fetched key none ∉ checked key d s := by
  simp [checked, fetched, allAnswered, answered]

/-- A pass that makes a move after the story `h` has not been told that there is no domain, for then
it would have ended. -/
lemma PassDoes.fetched_none_not_mem {m : Move} (hdoes : PassDoes config key h m) :
    fetched key none ∉ h := by
  cases hdoes with
  | fetch => simp
  | check hdoes =>
    cases hdoes with
    | dkim hdoes => cases hdoes <;> simp [fetched]
    | stats _ hdoes => cases hdoes <;> simp [fetched, answered]
    | spf _ _ hdoes => cases hdoes <;> simp [fetched, answered]
  | converge hdoes =>
    refine List.not_mem_append fetched_none_not_mem_checked ?_
    cases hdoes <;> simp [fetched, lookedUp]
  | write hends _ =>
    refine List.not_mem_append fetched_none_not_mem_checked ?_
    cases hends <;> simp [fetched, lookedUp]

/-- **A pass finds no domain exactly if it ends with `Outcome.gone`**, whether it ends by itself or
is stopped at a call.

**Proof sketch.** By cases on how the pass halts. One that was stopped had yet to make a call, to
which `PassDoes.fetched_none_not_mem` applies, and one that ended has a story that begins with the
fetch. -/
theorem PassHalts.fetched_none_iff (hhalts : PassHalts config key h r) :
    fetched key none ∈ h ↔ r = .ok .gone := by
  cases hhalts with
  | ended hends =>
    refine ⟨fun hmem => (hends.of_mem_gone hmem).2, ?_⟩
    rintro rfl
    cases hends
    exact List.mem_singleton_self _
  | cancelled hdoes => exact ⟨fun hmem => absurd hmem hdoes.fetched_none_not_mem, nofun⟩

/-- The story of a pass contains no count of what is due next, which is left to the controller. -/
lemma PassEnds.requeued_not_mem {resource reason : String} (hends : PassEnds config key h r) :
    .noted (.requeued resource reason) ∉ h := by
  rcases hends.parts with hfetch | ⟨d, t, e, rfl, -, hends⟩ | ⟨d, s, t, w, a, rfl, hends, hgoes⟩
  · cases hfetch <;> simp [fetched]
  · cases hends <;> simp [fetched, Protocol.answered, unanswered]
  · refine List.not_mem_append ?_ (List.not_mem_append ?_ ?_)
    · simp [checked, fetched, allAnswered, answered]
    · cases hends <;> simp [lookedUp]
    · cases hgoes <;> simp

end Protocol

/-! ### The action after a pass -/

namespace Controller

variable {config : PassConfig} {key : ObjectKey} {h : List Deed} {r : Except PassError Outcome}
  {o : Outcome} {elapsed : Duration}

/-- If a pass does not end with `Outcome.gone`, then `actionAfter` is to requeue the domain after a
delay between `pending` and `converged`. -/
lemma actionAfter_bounds (hi : config.intervals.pending ≤ config.intervals.converged)
    (hhalts : PassHalts config key h r) (hr : r ≠ .ok .gone) :
    ∃ delay, actionAfter config r = .requeue delay ∧ config.intervals.pending ≤ delay ∧
      delay ≤ config.intervals.converged := by
  match r, hhalts with
  | .ok .gone, _ => exact absurd rfl hr
  | .ok (.requeue delay converged), .ended hends =>
    obtain ⟨d, s, rfl, -⟩ := hends.of_requeue
    exact ⟨_, rfl, Intervals.next_bounds hi s⟩
  | .error e, _ => exact ⟨_, rfl, Nat.le_refl _, hi⟩

/-- If a check was answered with `false` in a pass that ended well, then `actionAfter` is to requeue
the domain after `pending`. -/
lemma actionAfter_of_someFailed (hends : PassEnds config key h (.ok o)) (hh : SomeFailed h) :
    actionAfter config (.ok o) = .requeue config.intervals.pending := by
  cases o with
  | gone =>
    cases hends
    simp [SomeFailed, fetched] at hh
  | requeue delay converged =>
    obtain rfl := hends.someFailed_iff.1 hh
    obtain ⟨d, s, rfl, hs, -⟩ := hends.of_requeue
    exact congrArg Action.requeue (config.intervals.next_of_not_converged hs.symm)

/-- If all checks were answered with `true` in a pass that ended well, then `actionAfter` is to
requeue the domain after `converged`. -/
lemma actionAfter_of_allPassed (hends : PassEnds config key h (.ok o)) (hh : AllPassed h) :
    actionAfter config (.ok o) = .requeue config.intervals.converged := by
  cases o with
  | gone =>
    cases hends
    exact absurd (hh .dkim) (by simp [fetched])
  | requeue delay converged =>
    obtain rfl := hends.allPassed_iff.1 hh
    obtain ⟨d, s, rfl, hs, -⟩ := hends.of_requeue
    exact congrArg Action.requeue (config.intervals.next_of_converged hs.symm)

/-- For a pass that ended well, the controller counts a requeue for the reason `converged` exactly
if `AllPassed` holds in its story. -/
lemma requeued_converged_mem_iff (hends : PassEnds config key h (.ok o)) :
    .noted (.requeued Kind.domain.name "converged") ∈ h ++ (report elapsed (.ok o)).map .noted ↔
      AllPassed h := by
  rw [List.mem_append, or_iff_right hends.requeued_not_mem]
  cases o with
  | gone =>
    cases hends
    have hnot : ¬ AllPassed [fetched key none] := fun hh => absurd (hh .dkim) (by simp [fetched])
    simp [report, hnot]
  | requeue delay converged =>
    rw [hends.allPassed_iff]
    cases converged <;> simp [report, reason]

/-- What the controller notes at the end of a story adds no answer of a call to it. -/
lemma asked_mem_append_noted {os : List Observation} {c : Call} {a : c.Answer} :
    .asked c a ∈ h ++ os.map .noted ↔ .asked c a ∈ h := by
  simp

/-- **A domain is always looked at again, and in time.** Let the operator have any settings that
`validate` accepts, and let its calls be answered in whatever way and take however long. After
attending to a domain nothing is due only if the domain has no key or was not found. Otherwise
another pass is due, after no less than the shorter interval, which is at least a second, and no
more than the longer one: after the shorter one if the pass failed, in whatever way, or a check did
not pass, and after the longer one if every check passed. A pass that did not fail is counted as
converged exactly if every check passed, even if both intervals are the same.

**Proof sketch.** By `run_attend_journalled` the story is that of one pass with the controller's
notes after it, and what is due is `actionAfter` the result of the pass, which
`actionAfter_eq_awaitChange_iff`, `PassHalts.fetched_none_iff` and `actionAfter_bounds` describe. A
pass that failed is followed by another after the shorter interval. One that did not has found no
domain, or it has had all three checks answered and asks for what these call for, see
`actionAfter_of_someFailed` and `actionAfter_of_allPassed`, with the word whether all of them
passed, which alone is counted. -/
theorem attend_reschedules {σ : Type} {s : Settings} (hs : s.validate = .ok ())
    (answer : (c : Call) → Timed σ c.Answer) (note : Observation → σ → σ) (k : Clock) (w : σ)
    (d : Domain) :
    let env := Environment.journalled ⟨answer, fun o => Timed.change (note o)⟩
    let intervals := s.passConfig.intervals
    let x := (attend env s.passConfig d).run (k, ⟨w, []⟩)
    let story := x.2.2.story
    (x.1 = .awaitChange ↔
      d.key? = none ∨ ∃ key, d.key? = some key ∧ fetched key none ∈ story) ∧
    (x.1 ≠ .awaitChange → ∃ delay, x.1 = .requeue delay ∧
      .ofSecs 1 ≤ intervals.pending ∧ intervals.pending ≤ delay ∧
        delay ≤ intervals.converged) ∧
    ∀ key, d.key? = some key →
      let r := ((runPass env s.passConfig key).run (k, ⟨w, []⟩)).1
      (∀ e, r = .error e → x.1 = .requeue intervals.pending) ∧
      ∀ outcome, r = .ok outcome →
        (SomeFailed story → x.1 = .requeue intervals.pending) ∧
        (AllPassed story → x.1 = .requeue intervals.converged) ∧
        (.noted (.requeued Kind.domain.name "converged") ∈ story ↔ AllPassed story) := by
  intro env intervals x story
  obtain ⟨hsecond, horder⟩ := Settings.intervals_of_validate hs
  cases hkey : d.key? with
  | none =>
    -- without a key nothing is asked at all, and the story is empty
    have hx : x = (.awaitChange, k, ⟨w, []⟩) := run_attend_of_keyless hkey _
    simp [hx]
  | some key =>
    have hcounts : Environment.Counts ⟨answer, fun o => Timed.change (note o)⟩ note :=
      fun _ _ _ => rfl
    obtain ⟨h, elapsed, u, hhalts, -, haction, hworld⟩ := run_attend_journalled hcounts
      (hcounts.keeps (PassDoes s.passConfig key)) hkey k (w := ⟨w, []⟩) trivial
    -- the story is that of the pass, with what the controller notes of it at the end
    have hstory : story = h ++ (report elapsed _).map .noted := congrArg Journal.story hworld
    generalize hr : ((runPass env s.passConfig key).run (k, ⟨w, []⟩)).1 = r at *
    have hawait : x.1 = .awaitChange ↔ r = .ok .gone :=
      (congrArg (· = Action.awaitChange) haction).to_iff.trans (actionAfter_eq_awaitChange_iff _ r)
    refine ⟨?_, fun hne => ?_, ?_⟩
    · rw [hawait, ← hhalts.fetched_none_iff, hstory]
      simp [fetched]
    · obtain ⟨delay, hdelay, hle, hge⟩ :=
        actionAfter_bounds horder hhalts fun hgone => hne (hawait.2 hgone)
      exact ⟨delay, haction.trans hdelay, hsecond, hle, hge⟩
    · rintro _ ⟨⟩
      refine ⟨fun e he => ?_, fun o ho => ?_⟩
      · rw [hr] at he
        rw [he] at haction
        exact haction
      · rw [hr] at ho
        subst ho
        cases hhalts with
        | ended hends =>
        have hpassed : AllPassed story ↔ AllPassed h := by
          simp only [AllPassed, hstory, asked_mem_append_noted]
        have hfailed : SomeFailed story ↔ SomeFailed h := by
          simp only [SomeFailed, hstory, asked_mem_append_noted]
        rw [hpassed, hfailed, hstory]
        exact ⟨fun hh => haction.trans (actionAfter_of_someFailed hends hh),
          fun hh => haction.trans (actionAfter_of_allPassed hends hh),
          requeued_converged_mem_iff hends⟩

/-- The domain takes longer to be fetched than a pass may last: the pass is cancelled, and the next
is due after a minute. -/
theorem attend_reschedules_cancelled :
    let d : Domain := {
      metadata := { name := some "acme", ns := some "mail" }
      spec := { baseDomain := "acme.example", dkim := ⟨"s1", "key"⟩ } }
    let answer : (c : Call) → Timed Unit c.Answer := fun _ => do
      Timed.wait (.ofSecs 31)
      failure
    let env := Environment.journalled ⟨answer, fun _ => Timed.change id⟩
    ((attend env ({} : Settings).passConfig d).run ({}, ⟨(), []⟩)).1 = .requeue (.ofSecs 60) := by
  intro d answer env
  have hvalid : ({} : Settings).validate = .ok () := by decide +kernel
  obtain ⟨-, -, hpass⟩ := attend_reschedules hvalid answer (fun _ => id) {} () d
  have hcancelled : ((runPass env ({} : Settings).passConfig ⟨"mail", "acme"⟩).run
      ({}, ⟨(), []⟩)).1 = .error (.cancelled ⟨"mail", "acme"⟩ (.ofSecs 30)) := by
    decide +kernel
  exact (hpass ⟨"mail", "acme"⟩ rfl).1 _ hcancelled

end Controller

end MailDomain
