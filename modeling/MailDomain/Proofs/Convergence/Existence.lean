import MailDomain.Proofs.Convergence.Endings

/-!
# When a pass succeeds, and what holds then

Over two stores in memory, to which nobody else writes and whose calls do not fail, a pass asks for
another one exactly if its domain is stored, every check is answered, and nothing else manages the
stats ingress. The ingress then exists exactly if it is wanted, the status says what the checks
said, and every other object is as before.

## Main definitions

* `Stores.Ready` — the condition for success.
* `Stores.Converged` — what holds after a success.

## Main results

* `Stores.carryOut_cases` — a pass goes through both of its writing stages or does nothing.
* `Stores.carryOut_reconcile` — the condition is exact, and what it promises holds.
-/

set_option relaxedAutoImplicit false
set_option autoImplicit false

namespace MailDomain

open Protocol MemoryStore

/-- For a domain with an identity, `ownedByOther i d` is `false` exactly if each owner of `i` that
is said to manage it has the identity of `d`. -/
lemma StatsIngress.ownedByOther_eq_false_iff {i : Ingress} {d : Domain}
    (hd : d.metadata.uid.isSome) :
    StatsIngress.ownedByOther i d = false ↔
      ∀ o ∈ i.metadata.owners, o.controller = some true → some o.uid = d.metadata.uid := by
  obtain ⟨uid, hu⟩ := Option.isSome_iff_exists.1 hd
  simp [StatsIngress.ownedByOther, hu]

/-! ### What the writing stages leave -/

section Stages

variable {key : ObjectKey} {d : Domain} {f : DnsStatus}

/-- The stage of the ingress leaves the ingresses under other keys than `keyOf key`. -/
lemma IngressStage.get_of_ne {s t : IngressStore} {k : ObjectKey} (h : IngressStage key f s t)
    (hk : k ≠ StatsIngress.keyOf key) : t.get k = s.get k := by
  cases h with
  | kept _ => rfl
  | removed _ _ _ => exact Table.get?_erase_of_ne hk _
  | created _ _ _ => exact Table.get?_insert_of_ne hk _ _

/-- If the stats check passed, there is an ingress under `keyOf key` after its stage. -/
lemma IngressStage.get_wanted {s t : IngressStore} (h : IngressStage key f s t)
    (hf : f.stats = true) : (t.get (StatsIngress.keyOf key)).isSome := by
  cases h with
  | kept hsettled =>
    rw [StatsSettled] at hsettled
    split at hsettled
    · next hi => rw [hi, Option.isSome_some]
    · rw [hf] at hsettled
      cases hsettled
  | removed hstats _ _ =>
    rw [hf] at hstats
    cases hstats
  | created _ _ _ => simp [MemoryStore.get, put]

/-- If the stats check did not pass, there is no ingress under `keyOf key` after its stage, unless
it was being deleted already. -/
lemma IngressStage.get_unwanted {s t : IngressStore} (h : IngressStage key f s t)
    (hf : f.stats = false) : t.get (StatsIngress.keyOf key) =
      (s.get (StatsIngress.keyOf key)).filter (·.metadata.deletionTimestamp.isSome) := by
  cases h with
  | kept hsettled =>
    rw [StatsSettled] at hsettled
    split at hsettled
    · next i hi =>
      have hdeleting : i.metadata.deletionTimestamp.isSome := by simpa [hf] using hsettled
      rw [hi, Option.filter_some, if_pos hdeleting]
    · next hi => rw [hi, Option.filter_none]
  | @removed i _ hi hpresent =>
    rw [hi, Option.filter_some, if_neg (by simp [hpresent])]
    exact Table.get?_erase_self _ _
  | created hstats _ _ =>
    rw [hf] at hstats
    cases hstats

/-- The stage of the status leaves the domains under other keys. -/
lemma StatusStage.get_of_ne {s t : DomainStore} {k : ObjectKey} (h : StatusStage key d f s t)
    (hk : k ≠ key) : t.get k = s.get k := by
  cases h with
  | kept _ => rfl
  | written _ => exact Table.get?_insert_of_ne hk _ _

/-- After the stage of the status the domain under `key` is `d` with the status that the flags `f`
ask for, and only its version may differ besides. -/
lemma StatusStage.get_self {s t : DomainStore} (h : StatusStage key d f s t)
    (hd : s.get key = some d) (hu : d.metadata.uid.isSome) :
    ∃ v, t.get key = some { d with
      metadata := { d.metadata with resourceVersion := v }
      status := some ⟨f, d.metadata.generation⟩ } := by
  cases h with
  | kept hstatus =>
    refine ⟨d.metadata.resourceVersion, hd.trans ?_⟩
    have hsame : some (⟨f, d.metadata.generation⟩ : DomainStatus) = d.status := hstatus.symm
    rw [hsame]
  | written _ =>
    refine ⟨some (toString (s.version + 1)), ?_⟩
    rw [← stamped_judged hu]
    exact Table.get?_insert_self _ _ _

end Stages

namespace Stores

variable {checker : Checker} {config : PassConfig} {key : ObjectKey}

/-- A pass can succeed: a domain `d` is stored under `key`, each of its checks is answered, and no
owner reference of the stats ingress, if there is one, names another object as the one that manages
it. -/
def Ready (checker : Checker) (key : ObjectKey) (s : Stores) : Prop :=
  ∃ d, s.domains.get key = some d ∧ (∀ c, ∃ passed, checker c d = .ok passed) ∧
    ∀ i, s.ingresses.get (StatsIngress.keyOf key) = some i →
      ∀ o ∈ i.metadata.owners, o.controller = some true → some o.uid = d.metadata.uid

/-- What holds of the stores `t` after a pass for the domain `d` with the flags `f` that asks for
another pass after `delay`, `s` being the stores before it. -/
structure Converged (config : PassConfig) (key : ObjectKey) (d : Domain) (f : DnsStatus)
    (s t : Stores) (delay : Duration) (converged : Bool) : Prop where
  /-- The status is the one computed, and but for it only the version may differ. -/
  status : ∃ v, t.domains.get key = some { d with
    metadata := { d.metadata with resourceVersion := v }
    status := some ⟨f, d.metadata.generation⟩ }
  wanted : f.stats = true → (t.ingresses.get (StatsIngress.keyOf key)).isSome
  /-- An ingress that is not wanted is left only if it was being deleted already. -/
  unwanted : f.stats = false → t.ingresses.get (StatsIngress.keyOf key) =
    (s.ingresses.get (StatsIngress.keyOf key)).filter (·.metadata.deletionTimestamp.isSome)
  converged_iff : converged = true ↔ f.dkim = true ∧ f.stats = true ∧ f.spf = true
  delay_eq : delay = if converged then config.intervals.converged else config.intervals.pending

/-- A pass that leaves its stores `Finished` was `Ready` before. -/
lemma Finished.ready {d : Domain} {f : DnsStatus} {s t : Stores}
    (h : Finished checker key d f s t) (hs : s.domains.Valid) : Ready checker key s := by
  refine ⟨d, h.stored, fun c => ⟨_, h.flags c⟩, fun i hi => ?_⟩
  exact (StatsIngress.ownedByOther_eq_false_iff (hs.uid_isSome h.stored)).1 (h.unclaimed i hi)

/-- A pass that leaves its stores `Finished` leaves them `Converged`, with the interval that
`config.intervals` has for the flags. -/
lemma Finished.converged {d : Domain} {f : DnsStatus} {s t : Stores}
    (h : Finished checker key d f s t) (hs : s.domains.Valid) :
    Converged config key d f s t (config.intervals.next f) f.converged where
  status := h.status.get_self h.stored (hs.uid_isSome h.stored)
  wanted := h.ingress.get_wanted
  unwanted := h.ingress.get_unwanted
  converged_iff := by simp [DnsStatus.converged, and_assoc]
  delay_eq := rfl

/-- A pass over valid stores leaves them `Finished` and asks for another one, or it was not `Ready`,
does nothing and does not ask for another one.

**Proof sketch.** The story of the pass ends as `PassEnds` says. If it ends well,
`leads_passEnds_ok` applies. If no call fails, an end with a failure can only come from a check
(`leads_checksEnd_error`) or from an ingress that something else manages
(`leads_convergeEnds_error`), since the writes succeed. -/
theorem carryOut_cases (config : PassConfig) (s : Stores) (hdomains : s.domains.Valid)
    (hingresses : s.ingresses.Valid) :
    (∃ d f, Finished checker key d f s (carryOut checker (reconcile config key) s).2 ∧
      (carryOut checker (reconcile config key) s).1 =
        .ok (.requeue (config.intervals.next f) f.converged)) ∨
    (¬ Ready checker key s ∧ Same s (carryOut checker (reconcile config key) s).2 ∧
      ∀ delay converged,
        (carryOut checker (reconcile config key) s).1 ≠ .ok (.requeue delay converged)) := by
  obtain ⟨h, hfollows, hleads⟩ := carryOut_leads checker (reconcile config key) s
  have hends : PassEnds config key h _ := (reconcile_upholds config key).of_follows hfollows
  cases hr : (carryOut checker (reconcile config key) s).1 with
  | ok r =>
    rw [hr] at hends
    rcases leads_passEnds_ok hends hleads hdomains hingresses fun _ _ => False.elim with
      ⟨hgone, rfl, hsame⟩ | ⟨d, f, hfinished, rfl⟩
    · refine .inr ⟨?_, hsame, by simp⟩
      rintro ⟨d, hd, -⟩
      cases hgone.symm.trans hd
    · exact .inl ⟨d, f, hfinished, rfl⟩
  | error e =>
    rw [hr] at hends
    refine .inr ?_
    cases hends with
    | unread e =>
      obtain ⟨u, ⟨_, hfalse, -⟩ | ha, -⟩ := hleads
      · exact hfalse.elim
      · cases ha
    | @unchecked d h e hends =>
      obtain ⟨hd, hchecks⟩ := leads_fetched hleads
      obtain ⟨-, c, -, e', -, -, hc, -⟩ := leads_checksEnd_error hends hchecks
      refine ⟨?_, leads_idle (checksEnd_idle hends) hchecks, by simp⟩
      rintro ⟨d', hd', hanswered, -⟩
      cases hd.trans hd'
      obtain ⟨passed, hpassed⟩ := hanswered c
      cases hc.symm.trans hpassed
    | @unconverged d f h e hends =>
      obtain ⟨hd, -, u, ⟨hu₁, hu₂⟩, hstage⟩ := leads_checked hleads
      have hsame := leads_idle (convergeEnds_error_idle hends) hstage
      refine ⟨?_, Same.trans ⟨hu₁, hu₂⟩ hsame, by simp⟩
      rintro ⟨d', hd', -, hunclaimed⟩
      cases hd.symm.trans hd'
      -- the stage fails only at an ingress that something else manages, which `Ready` rules out
      have huid := hdomains.uid_isSome hd
      obtain ⟨i, hi, howned⟩ := leads_convergeEnds_error (hu₂ ▸ hingresses) huid hends hstage
      rw [hu₂] at hi
      have hfree := (StatsIngress.ownedByOther_eq_false_iff huid).2 (hunclaimed i hi)
      cases howned.symm.trans hfree
    | @unwritten d f h a e hends hstatus =>
      -- part the story at the status write: the stores before it hold the domain that was fetched
      rw [← List.append_assoc] at hleads
      obtain ⟨u, hbefore, v, ⟨_, hfalse, -⟩ | hwrite, -⟩ := Service.leads_append.1 hleads
      · exact hfalse.elim
      · obtain ⟨hhalf, hkept⟩ := leads_converged hends hbefore hingresses fun _ _ => False.elim
        rw [answer_writeStatus (hkept ▸ hdomains) (hkept ▸ hhalf.stored)] at hwrite
        cases hwrite

/-- **A pass succeeds exactly if it can.** Over any two stores that clients may have written,
without failures and with nobody else writing, a pass asks for another one exactly if it is `Ready`.
Whenever it does, the stores are `Converged`, and whenever it does not, it did nothing. In every
case the objects under other keys are as before.

**Proof sketch.** Stores that clients wrote are valid (`valid_after`). By `carryOut_cases` the pass
leaves its stores `Finished` or does nothing, and `Finished.ready`, `Finished.converged` and the
lemmas on the stages say what that means. -/
theorem carryOut_reconcile (ws₁ : List (Write DomainSpec DomainStatus))
    (ws₂ : List (Write (Option IngressSpec) IngressStatus)) (m : Registry) (checker : Checker)
    (config : PassConfig) (key : ObjectKey) :
    let s : Stores := ⟨after ws₁, after ws₂, m⟩
    let r := (carryOut checker (reconcile config key) s).1
    let t := (carryOut checker (reconcile config key) s).2
    ((∃ delay converged, r = .ok (.requeue delay converged)) ↔ Ready checker key s) ∧
      (∀ delay converged, r = .ok (.requeue delay converged) →
        ∃ d f, s.domains.get key = some d ∧ (∀ c, checker c d = .ok (f.flag c)) ∧
          Converged config key d f s t delay converged) ∧
      ((∀ delay converged, r ≠ .ok (.requeue delay converged)) →
        t.domains = s.domains ∧ t.ingresses = s.ingresses) ∧
      (∀ k, k ≠ key → t.domains.get k = s.domains.get k) ∧
      (∀ k, k ≠ StatsIngress.keyOf key → t.ingresses.get k = s.ingresses.get k) := by
  intro s r t
  have hdomains : s.domains.Valid := valid_after ws₁
  rcases carryOut_cases config s hdomains (valid_after ws₂) with
    ⟨d, f, hfinished, hr⟩ | ⟨hnot, ⟨hd, hi⟩, hr⟩
  · refine ⟨iff_of_true ⟨_, _, hr⟩ (hfinished.ready hdomains), fun delay converged he => ?_,
      fun hne => absurd hr (hne _ _), fun k hk => hfinished.status.get_of_ne hk,
      fun k hk => hfinished.ingress.get_of_ne hk⟩
    cases hr.symm.trans he
    exact ⟨d, f, hfinished.stored, hfinished.flags, hfinished.converged hdomains⟩
  · refine ⟨iff_of_false (fun ⟨_, _, he⟩ => hr _ _ he) hnot, fun delay converged he => ?_,
      fun _ => ⟨hd, hi⟩, fun k _ => congrArg (·.get k) hd, fun k _ => congrArg (·.get k) hi⟩
    exact absurd he (hr delay converged)

end Stores

end MailDomain
