import MailDomain.Proofs.Pass.Order
import MailDomain.Proofs.Pass.Stores

/-!
# What the stages of a pass do to the stores

A pass over two stores in memory reads until it comes to the stats ingress, makes at most one write
to the store of ingresses, and then at most one to the store of domains.

## Main definitions

* `StatsSettled`, `StatusSettled` — there is nothing to do about the ingress or the status.
* `IngressStage` — what the stage of the ingress does to its store.
* `Deed.idle` — a deed that writes nothing.

## Main results

* `Stores.leads_idle` — a story without a successful write leaves the stores as they are.
* `Stores.leads_allAnswered` — the checks write nothing, and give the flags of the checker.
* `Stores.leads_convergeEnds` — the stage of the ingress, if it does not fail.
* `Stores.answer_writeStatus` — the write of the status of a domain that is stored.
-/

set_option relaxedAutoImplicit false
set_option autoImplicit false

namespace MailDomain

open Protocol MemoryStore

/-- There is nothing to do about the stats ingress of the domain under `key`, whose flags are `f`:
one that is there is wanted or being deleted already, and if none is there, none is wanted. -/
def StatsSettled (key : ObjectKey) (f : DnsStatus) (s : IngressStore) : Prop :=
  match s.get (StatsIngress.keyOf key) with
  | some i => f.stats = true ∨ i.metadata.deletionTimestamp.isSome
  | none => f.stats = false

/-- There is nothing to do about the status of the domain under `key`, if there is one: it is the
one that the flags `f` ask for. -/
def StatusSettled (key : ObjectKey) (f : DnsStatus) (s : DomainStore) : Prop :=
  ∀ d, s.get key = some d → d.status = some (statusAfter d f)

/-- What becomes of the store of ingresses by a stage that does not fail: it is kept because there
is nothing to do, or the ingress is removed because it is not wanted, or one is created because it
is. -/
inductive IngressStage (key : ObjectKey) (f : DnsStatus) (s : IngressStore) : IngressStore → Prop
  | kept : StatsSettled key f s → IngressStage key f s s
  | removed {i : Ingress} : f.stats = false → s.get (StatsIngress.keyOf key) = some i →
      i.metadata.deletionTimestamp = none →
      IngressStage key f s { s with
        objects := s.objects.erase (StatsIngress.keyOf key)
        writes := { s.writes with deletes := s.writes.deletes + 1 } }
  | created {i : Ingress} : f.stats = true → s.get (StatsIngress.keyOf key) = none →
      i.key? = some (StatsIngress.keyOf key) →
      IngressStage key f s { s.put (StatsIngress.keyOf key) i with
        writes := { s.writes with creates := s.writes.creates + 1 } }

/-- A deed that writes nothing: a read, a check, an observation, or a write that failed. -/
def Deed.idle : Deed → Bool
  | .asked (.createIngress _) a | .asked (.deleteIngress _) a | .asked (.writeStatus _) a => !a.isOk
  | .asked _ _ | .noted _ => true

namespace Stores

variable {checker : Checker} {mayFail : (c : Call) → c.Failure → Prop} {s t : Stores}
  {key : ObjectKey} {d : Domain} {f : DnsStatus} {h : List Deed} {backend : StatsBackend}

/-- The stores hold the same objects, versions and counts of writes. Their registries may differ. -/
def Same (s t : Stores) : Prop := t.domains = s.domains ∧ t.ingresses = s.ingresses

/-- If `t` is the same as `s`, and `u` as `t`, then `u` is the same as `s`. -/
lemma Same.trans {u : Stores} (h : Same s t) (h' : Same t u) : Same s u :=
  ⟨h'.1.trans h.1, h'.2.trans h.2⟩

/-! ### Reading -/

/-- A call that succeeds, in a service where some calls may fail, has its effect. -/
lemma answers_ok {c : Call} {a : c.Answer} (ha : (service checker mayFail).answers c s a t)
    (hok : c.isOk a = true) : answer checker c s = (a, t) := by
  obtain ⟨e, -, rfl, -⟩ | ha := ha
  · cases c <;> cases hok
  · exact ha.symm

/-- A call that is `Deed.idle` leaves the stores the same. -/
lemma answers_idle {c : Call} {a : c.Answer} (ha : (service checker mayFail).answers c s a t)
    (hidle : (Deed.asked c a).idle = true) : Same s t := by
  obtain ⟨e, -, -, rfl⟩ | ha := ha
  · exact ⟨rfl, rfl⟩
  obtain ⟨rfl, rfl⟩ := Prod.mk.inj ha
  cases c with
  | fetchDomain key => exact ⟨rfl, rfl⟩
  | check c d => exact ⟨rfl, rfl⟩
  | fetchIngress key => exact ⟨rfl, rfl⟩
  | createIngress i =>
    cases hr : (s.ingresses.create i).1 with
    | ok _ => simp [Deed.idle, hr, Except.isOk, Except.toBool] at hidle
    | error e => exact ⟨rfl, create_error (Prod.ext hr rfl)⟩
  | deleteIngress i =>
    cases hr : (s.ingresses.delete i).1 with
    | ok _ => simp [Deed.idle, hr, Except.isOk, Except.toBool] at hidle
    | error e => exact ⟨rfl, delete_error (Prod.ext hr rfl)⟩
  | writeStatus d =>
    cases hr : (s.domains.updateStatus d).1 with
    | ok _ => simp [Deed.idle, hr, Except.isOk, Except.toBool] at hidle
    | error e => exact ⟨updateStatus_error (Prod.ext hr rfl), rfl⟩

/-- A story all of whose deeds are `Deed.idle` leaves the stores the same. -/
theorem leads_idle (hidle : ∀ x ∈ h, x.idle = true)
    (hleads : (service checker mayFail).Leads h s t) : Same s t := by
  induction h generalizing s with
  | nil =>
    cases Service.leads_nil.1 hleads
    exact ⟨rfl, rfl⟩
  | cons x h ih =>
    rw [List.forall_mem_cons] at hidle
    cases x with
    | asked c a =>
      obtain ⟨u, ha, hleads⟩ := hleads
      exact (answers_idle ha hidle.1).trans (ih hidle.2 hleads)
    | noted o => exact ih (s := note o s) hidle.2 hleads

/-- The domain that a pass fetched is the one that is stored, and the stores are as before. -/
lemma leads_fetched {found : Option Domain}
    (hleads : (service checker mayFail).Leads (fetched key found :: h) s t) :
    found = s.domains.get key ∧ (service checker mayFail).Leads h s t := by
  obtain ⟨u, ha, hleads⟩ := hleads
  cases answers_ok ha rfl
  exact ⟨rfl, hleads⟩

/-- The ingress that a pass looked up is the one that is stored, and the stores are as before. -/
lemma leads_lookedUp {found : Option Ingress}
    (hleads : (service checker mayFail).Leads (lookedUp key found :: h) s t) :
    found = s.ingresses.get (StatsIngress.keyOf key) ∧
      (service checker mayFail).Leads h s t := by
  obtain ⟨u, ha, hleads⟩ := hleads
  cases answers_ok ha rfl
  exact ⟨rfl, hleads⟩

/-! ### Checks -/

/-- The flag `passed` of a check that was answered is the one that the checker gives. -/
lemma leads_answered {c : Check} {passed : Bool}
    (hleads : (service checker mayFail).Leads (answered d c passed) s t) :
    checker c d = .ok passed := by
  obtain ⟨u, ha, -⟩ := hleads
  exact (Prod.mk.inj (answers_ok ha rfl)).1

/-- The story of three checks with the flags of `f` leaves the stores the same, and `f` is what the
checker says. -/
lemma leads_allAnswered (hleads : (service checker mayFail).Leads (allAnswered d f) s t) :
    Same s t ∧ ∀ c, checker c d = .ok (f.flag c) := by
  refine ⟨leads_idle (by simp [allAnswered, answered, Deed.idle]) hleads, ?_⟩
  obtain ⟨u, hdkim, hleads⟩ := Service.leads_append.1 hleads
  obtain ⟨v, hstats, hspf⟩ := Service.leads_append.1 hleads
  intro c
  cases c with
  | dkim => exact leads_answered hdkim
  | stats => exact leads_answered hstats
  | spf => exact leads_answered hspf

/-- If no call fails, a check that ended with `e` is one that the checker does not answer. -/
lemma leads_unanswered {c : Check} {e : ProbeError}
    (hleads : (service checker fun _ _ => False).Leads (unanswered d c e) s t) :
    checker c d = .error e := by
  obtain ⟨u, ⟨_, hfalse, -⟩ | ha, -⟩ := hleads
  · exact hfalse.elim
  · exact (Prod.mk.inj ha).1.symm

/-- If no call fails, checks that did not all get an answer stopped at the first check `c` that the
checker does not answer; the calls are those of the checks up to `c`. -/
lemma leads_checksEnd_error {e : PassError} (hends : ChecksEnd key d h (.error e))
    (hleads : (service checker fun _ _ => False).Leads h s t) :
    ∃ before c after cause, Check.inOrder = before ++ c :: after ∧
      (∀ c' ∈ before, ∃ passed, checker c' d = .ok passed) ∧ checker c d = .error cause ∧
      e = .probe key c cause ∧ callsOf h = (before ++ [c]).map fun c => .check c d := by
  cases hends with
  | dkim e =>
    exact ⟨[], .dkim, _, e, rfl, by simp, leads_unanswered hleads, rfl, rfl⟩
  | stats dkim e =>
    obtain ⟨u, hdkim, hstats⟩ := Service.leads_append.1 hleads
    refine ⟨[.dkim], .stats, _, e, rfl, ?_, leads_unanswered hstats, rfl, rfl⟩
    exact List.forall_mem_singleton.2 ⟨dkim, leads_answered hdkim⟩
  | spf dkim stats e =>
    obtain ⟨u, hdkim, hrest⟩ := Service.leads_append.1 hleads
    obtain ⟨v, hstats, hspf⟩ := Service.leads_append.1 hrest
    refine ⟨[.dkim, .stats], .spf, _, e, rfl, ?_, leads_unanswered hspf, rfl, rfl⟩
    exact List.forall_mem_cons.2 ⟨⟨dkim, leads_answered hdkim⟩,
      List.forall_mem_singleton.2 ⟨stats, leads_answered hstats⟩⟩

/-- The checks write nothing, wherever they are stopped. -/
lemma checksDo_idle {m : Move} (hdoes : ChecksDo d h m) : ∀ x ∈ h, x.idle = true := by
  have hcheck : ∀ {c h m}, CheckDoes d c h m → ∀ x ∈ h, x.idle = true := by
    intro c h m hc
    cases hc <;> simp [Deed.idle]
  cases hdoes with
  | dkim hc => exact hcheck hc
  | stats dkim hc => simpa [answered, Deed.idle] using hcheck hc
  | spf dkim stats hc => simpa [answered, Deed.idle] using hcheck hc

/-- The checks write nothing, however they end. -/
lemma checksEnd_idle {r : Except PassError DnsStatus} (hends : ChecksEnd key d h r) :
    ∀ x ∈ h, x.idle = true := by
  cases hends <;> simp [allAnswered, answered, unanswered, Deed.idle]

/-! ### The stats ingress -/

/-- Before any of the calls of `convergeIngress` nothing is written, since the only write is the
last call. -/
lemma convergeDoes_ask_idle {c : Call} (hdoes : ConvergeDoes backend key d f h (.ask c)) :
    ∀ x ∈ h, x.idle = true := by
  cases hdoes <;> simp [lookedUp, Deed.idle]

/-- If `convergeIngress` fails it has written nothing. -/
lemma convergeEnds_error_idle {e : PassError}
    (hends : ConvergeEnds backend key d f h (.error e)) : ∀ x ∈ h, x.idle = true := by
  cases hends <;> simp [lookedUp, Deed.idle, Except.isOk, Except.toBool]

/-- The stage of the ingress, if it ends without a failure: the ingress was not managed by anything
else, and the store of ingresses goes through `IngressStage`, while that of domains is as before.

**Proof sketch.** Cases on `ConvergeEnds`. Nobody else writes, so that the ingress to delete is the
one that was found, and the key of the one to create is vacant: both writes succeed, by
`delete_of_uid_eq` and `create_of_vacant`. -/
theorem leads_convergeEnds {a : IngressAction} (hvalid : s.ingresses.Valid)
    (hdelete : ∀ i e, mayFail (.deleteIngress i) e → e.isNotFound = false)
    (hends : ConvergeEnds backend key d f h (.ok a))
    (hleads : (service checker mayFail).Leads h s t) :
    (∀ i, s.ingresses.get (StatsIngress.keyOf key) = some i →
      StatsIngress.ownedByOther i d = false) ∧
    IngressStage key f s.ingresses t.ingresses ∧ t.domains = s.domains := by
  -- nobody writes between the look-up and the deletion, so that what was found is still there
  have hfound : ∀ {i}, some i = s.ingresses.get (StatsIngress.keyOf key) →
      s.ingresses.delete i = (.ok (), { s.ingresses with
        objects := s.ingresses.objects.erase (StatsIngress.keyOf key)
        writes := { s.ingresses.writes with deletes := s.ingresses.writes.deletes + 1 } }) :=
    fun hi => delete_of_uid_eq (hvalid.key_eq hi.symm) hi.symm fun _ => rfl
  cases hends with
  | @kept i howned hstats =>
    obtain ⟨hi, hleads⟩ := leads_lookedUp hleads
    cases Service.leads_nil.1 hleads
    refine ⟨fun j hj => ?_, .kept ?_, rfl⟩
    · cases hi.trans hj
      exact howned
    · rw [StatsSettled, ← hi]
      exact .inl hstats
  | @pending i howned hstats hdeleting =>
    obtain ⟨hi, hleads⟩ := leads_lookedUp hleads
    cases Service.leads_nil.1 hleads
    refine ⟨fun j hj => ?_, .kept ?_, rfl⟩
    · cases hi.trans hj
      exact howned
    · rw [StatsSettled, ← hi]
      exact .inr hdeleting
  | @deleted i hrem =>
    obtain ⟨hi, u, ha, hleads⟩ := leads_lookedUp hleads
    cases hleads
    have hu := answers_ok ha rfl
    rw [answer, hfound hi] at hu
    cases hu
    refine ⟨fun j hj => ?_, .removed hrem.unwanted hi.symm hrem.present, rfl⟩
    cases hi.trans hj
    exact hrem.owned
  | @vanished i e hrem he =>
    obtain ⟨hi, u, ⟨e', hmay, heq, -⟩ | hu, -⟩ := leads_lookedUp hleads
    · -- a deletion that finds nothing would have to be a failure, but `hdelete` has no such failure
      cases heq
      rw [hdelete i e hmay] at he
      cases he
    · rw [answer, hfound hi] at hu
      cases hu
  | absent hstats =>
    obtain ⟨hi, hleads⟩ := leads_lookedUp hleads
    cases Service.leads_nil.1 hleads
    refine ⟨fun j hj => (by cases hi.trans hj), .kept ?_, rfl⟩
    rw [StatsSettled, ← hi]
    exact hstats
  | @created i hstats hbuild =>
    obtain ⟨hi, u, ha, hleads⟩ := leads_lookedUp hleads
    cases hleads
    have hkey := StatsIngress.key?_build hbuild
    have hu := answers_ok ha rfl
    rw [answer, create_of_vacant hkey hi.symm] at hu
    cases hu
    exact ⟨fun j hj => (by cases hi.trans hj), .created hstats hi.symm hkey, rfl⟩

/-- If no call fails, `convergeIngress` fails for a domain with an identity only at an ingress that
something else manages. -/
lemma leads_convergeEnds_error {e : PassError} (hvalid : s.ingresses.Valid)
    (hd : d.metadata.uid.isSome) (hends : ConvergeEnds backend key d f h (.error e))
    (hleads : (service checker fun _ _ => False).Leads h s t) :
    ∃ i, s.ingresses.get (StatsIngress.keyOf key) = some i ∧
      StatsIngress.ownedByOther i d = true := by
  cases hends with
  | unread e =>
    obtain ⟨u, ⟨_, hfalse, -⟩ | ha, -⟩ := hleads
    · exact hfalse.elim
    · cases ha
  | @foreign i howned => exact ⟨i, (leads_lookedUp hleads).1.symm, howned⟩
  | @undeleted i e hrem he =>
    obtain ⟨hi, u, ⟨_, hfalse, -⟩ | hu, -⟩ := leads_lookedUp hleads
    · exact hfalse.elim
    · rw [answer, delete_of_uid_eq (hvalid.key_eq hi.symm) hi.symm fun _ => rfl] at hu
      cases hu
  | unbuilt hstats hbuild => exact absurd hbuild (StatsIngress.build_ne_error hd)
  | @uncreated i e hstats hbuild =>
    obtain ⟨hi, u, ⟨_, hfalse, -⟩ | hu, -⟩ := leads_lookedUp hleads
    · exact hfalse.elim
    · rw [answer, create_of_vacant (StatsIngress.key?_build hbuild) hi.symm] at hu
      cases hu

/-! ### The status -/

/-- The status write of the domain `d` succeeds if `d` is what is stored, and puts `judged d f` in
its place. -/
lemma answer_writeStatus (hvalid : s.domains.Valid) (hd : s.domains.get key = some d) :
    answer checker (.writeStatus (judged d f)) s =
      (.ok (), { s with domains := { s.domains.put key (judged d f) with
        writes := { s.domains.writes with statusUpdates := s.domains.writes.statusUpdates + 1 } } })
    := by
  have hkey : d.key? = some key := hvalid.key_eq hd
  rw [answer, updateStatus_of_current (r := judged d f) hkey hd rfl]

end Stores

end MailDomain
