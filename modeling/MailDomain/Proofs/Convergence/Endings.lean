import MailDomain.Proofs.Convergence.Stages

/-!
# What a pass leaves behind

A pass over two stores in memory that does not fail went through both of its writing stages. One
that fails or is stopped did nothing, or went through the stage of the ingress alone.

## Main definitions

* `StatusStage` — what becomes of the store of domains by the last stage of a pass.
* `Stores.Finished`, `Stores.HalfDone` — what a pass leaves behind if it goes through both stages
  or the first.

## Main results

* `Stores.leads_passEnds_ok` — a pass that does not fail.
* `Stores.leads_passEnds_error`, `Stores.leads_passDoes` — a pass that fails or is stopped.
-/

set_option relaxedAutoImplicit false
set_option autoImplicit false

namespace MailDomain

open Protocol MemoryStore

/-- What becomes of the store of domains by the last stage of a pass for the domain `d`: it is kept
if the status of `d` is the one that the flags `f` ask for, and otherwise `judged d f` is put in the
place of `d`. -/
inductive StatusStage (key : ObjectKey) (d : Domain) (f : DnsStatus) (s : DomainStore) :
    DomainStore → Prop
  | kept : d.status = some (statusAfter d f) → StatusStage key d f s s
  | written : d.status ≠ some (statusAfter d f) →
      StatusStage key d f s { s.put key (judged d f) with
        writes := { s.writes with statusUpdates := s.writes.statusUpdates + 1 } }

namespace Stores

variable {checker : Checker} {mayFail : (c : Call) → c.Failure → Prop} {s t : Stores}
  {config : PassConfig} {key : ObjectKey} {d : Domain} {f : DnsStatus} {h : List Deed}

/-- Up to its last stage a pass has turned the stores `s` into `t`: the domain `d` is the one that
is stored, its flags `f` are those that the checker gives it, nothing else manages its ingress, and
that has gone through its stage. -/
structure HalfDone (checker : Checker) (key : ObjectKey) (d : Domain) (f : DnsStatus)
    (s t : Stores) : Prop where
  stored : s.domains.get key = some d
  flags : ∀ c, checker c d = .ok (f.flag c)
  unclaimed : ∀ i, s.ingresses.get (StatsIngress.keyOf key) = some i →
    StatsIngress.ownedByOther i d = false
  ingress : IngressStage key f s.ingresses t.ingresses

/-- Both writing stages have turned the stores `s` into `t`: the ingress is as in `HalfDone`, and
the status has gone through its stage. -/
structure Finished (checker : Checker) (key : ObjectKey) (d : Domain) (f : DnsStatus)
    (s t : Stores) : Prop extends HalfDone checker key d f s t where
  status : StatusStage key d f s.domains t.domains

/-- A story up to the last check, and `h` after it: the stores are as before, the domain `d` is the
one that is stored, its flags are those that the checker gives it, and `h` goes on from there. -/
lemma leads_checked (hleads : (service checker mayFail).Leads (checked key d f ++ h) s t) :
    s.domains.get key = some d ∧ (∀ c, checker c d = .ok (f.flag c)) ∧
      ∃ u, Same s u ∧ (service checker mayFail).Leads h u t := by
  obtain ⟨hd, hleads⟩ := leads_fetched hleads
  obtain ⟨u, hchecks, hleads⟩ := Service.leads_append.1 hleads
  obtain ⟨hsame, hflags⟩ := leads_allAnswered hchecks
  exact ⟨hd.symm, hflags, u, hsame, hleads⟩

/-- A pass that got past `convergeIngress` without a failure has left its stores `HalfDone` and the
store of domains as it was. -/
lemma leads_converged {a : IngressAction} (hends : ConvergeEnds config.backend key d f h (.ok a))
    (hleads : (service checker mayFail).Leads (checked key d f ++ h) s t)
    (hingresses : s.ingresses.Valid)
    (hdelete : ∀ i e, mayFail (.deleteIngress i) e → e.isNotFound = false) :
    HalfDone checker key d f s t ∧ t.domains = s.domains := by
  obtain ⟨hd, hflags, u, ⟨hdomains, heq⟩, hleads⟩ := leads_checked hleads
  obtain ⟨howned, hstage, hkept⟩ := leads_convergeEnds (heq ▸ hingresses) hdelete hends hleads
  rw [heq] at howned hstage
  exact ⟨⟨hd, hflags, howned, hstage⟩, hkept.trans hdomains⟩

/-- A pass that does not fail finds no domain and does nothing, or it leaves its stores `Finished`
and asks for another pass.

**Proof sketch.** Cases on `PassEnds`. Until the status is written the store of domains is as it was
when the domain was fetched (`leads_converged`), so that by `answer_writeStatus` the write meets the
version that it names. -/
theorem leads_passEnds_ok {r : Outcome} (hends : PassEnds config key h (.ok r))
    (hleads : (service checker mayFail).Leads h s t) (hdomains : s.domains.Valid)
    (hingresses : s.ingresses.Valid)
    (hdelete : ∀ i e, mayFail (.deleteIngress i) e → e.isNotFound = false) :
    (s.domains.get key = none ∧ r = .gone ∧ Same s t) ∨
      ∃ d f, Finished checker key d f s t ∧
        r = .requeue (config.intervals.next f) f.converged := by
  cases hends with
  | gone =>
    obtain ⟨hd, hleads⟩ := leads_fetched hleads
    cases Service.leads_nil.1 hleads
    exact .inl ⟨hd.symm, rfl, rfl, rfl⟩
  | @unchanged d f h a hends hstatus =>
    obtain ⟨hhalf, hkept⟩ := leads_converged hends hleads hingresses hdelete
    exact .inr ⟨d, f, ⟨hhalf, hkept ▸ .kept hstatus⟩, rfl⟩
  | @written d f h a hends hstatus =>
    rw [← List.append_assoc] at hleads
    obtain ⟨u, hbefore, v, ha, hleads⟩ := Service.leads_append.1 hleads
    cases Service.leads_nil.1 hleads
    obtain ⟨hhalf, hkept⟩ := leads_converged hends hbefore hingresses hdelete
    have hwrite := answers_ok ha rfl
    rw [answer_writeStatus (hkept ▸ hdomains) (hkept ▸ hhalf.stored)] at hwrite
    cases hwrite
    refine .inr ⟨d, f, ⟨⟨hhalf.stored, hhalf.flags, hhalf.unclaimed, hhalf.ingress⟩, ?_⟩, rfl⟩
    rw [hkept]
    exact .written hstatus

/-- A pass that fails did nothing, or it left its stores `HalfDone` and the store of domains as it
was. -/
theorem leads_passEnds_error {e : PassError} (hends : PassEnds config key h (.error e))
    (hleads : (service checker mayFail).Leads h s t) (hingresses : s.ingresses.Valid)
    (hdelete : ∀ i e, mayFail (.deleteIngress i) e → e.isNotFound = false) :
    Same s t ∨ ∃ d f, HalfDone checker key d f s t ∧ t.domains = s.domains := by
  cases hends with
  | unread e => exact .inl (leads_idle (by simp [Deed.idle]) hleads)
  | unchecked hends =>
    refine .inl (leads_idle ?_ hleads)
    simpa [fetched, Deed.idle] using checksEnd_idle hends
  | unconverged hends =>
    obtain ⟨-, -, u, hsame, hleads⟩ := leads_checked hleads
    exact .inl (hsame.trans (leads_idle (convergeEnds_error_idle hends) hleads))
  | @unwritten d f h a e hends hstatus =>
    rw [← List.append_assoc] at hleads
    obtain ⟨u, hbefore, hafter⟩ := Service.leads_append.1 hleads
    obtain ⟨hhalf, hkept⟩ := leads_converged hends hbefore hingresses hdelete
    obtain ⟨hd, hi⟩ :=
      leads_idle (by simp [Deed.idle, Except.isOk, Except.toBool]) hafter
    refine .inr ⟨d, f, ⟨hhalf.stored, hhalf.flags, hhalf.unclaimed, ?_⟩, hd.trans hkept⟩
    rw [hi]
    exact hhalf.ingress

/-- A pass that is stopped at a call did nothing, or it left its stores `HalfDone` and the store of
domains as it was. -/
theorem leads_passDoes {c : Call} (hdoes : PassDoes config key h (.ask c))
    (hleads : (service checker mayFail).Leads h s t) (hingresses : s.ingresses.Valid)
    (hdelete : ∀ i e, mayFail (.deleteIngress i) e → e.isNotFound = false) :
    Same s t ∨ ∃ d f, HalfDone checker key d f s t ∧ t.domains = s.domains := by
  cases hdoes with
  | fetch =>
    cases Service.leads_nil.1 hleads
    exact .inl ⟨rfl, rfl⟩
  | check hdoes =>
    refine .inl (leads_idle ?_ hleads)
    simpa [fetched, Deed.idle] using checksDo_idle hdoes
  | converge hdoes =>
    obtain ⟨-, -, u, hsame, hleads⟩ := leads_checked hleads
    exact .inl (hsame.trans (leads_idle (convergeDoes_ask_idle hdoes) hleads))
  | write hends hstatus =>
    exact .inr ⟨_, _, leads_converged hends hleads hingresses hdelete⟩

end Stores

end MailDomain
