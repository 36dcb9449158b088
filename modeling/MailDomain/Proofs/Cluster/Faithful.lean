import MailDomain.Proofs.Cluster.Alike

/-!
# The store in memory stands for the one on a server

A pass at a server and a pass over two stores in memory that keep the same objects make the same
calls, and end with the same outcome or with failures of the same kind. What the server keeps in the
end is what the stores keep. This is so whatever the checks are answered and whatever other clients
write in the meantime, if the key of the domain can stand in the path of a request.

## Main results

* `ApiServer.fetchDomain_step`, `fetchIngress_step`, `createIngress_step`, `deleteIngress_step`,
  `writeStatus_step` — what a call does at a server is what it does in memory.
* `ApiServer.checkDns_alike`, `convergeIngress_alike`, `persist_alike` — the stages of a pass.
* `ApiServer.reconcile_faithful` — a pass at a server and a pass in memory do the same.
* `ApiServer.reconcile_nameless` — for an empty name they do not.
* `ApiServer.reconcile_unaddressed`, `fetchDomain_cut` — nor do they for the other keys that are not
  `Addressable`: a path that is no valid address fails, and a question mark leads elsewhere.
-/

set_option relaxedAutoImplicit false
set_option autoImplicit false

namespace MailDomain.ApiServer

open Cluster Json

variable {m : Manner} {checker : Nat → Checker} {acts : Nat → List Act} {α β : Type}
  {key : ObjectKey} {made : Option ObjectKey} {fetched : Option (Domain × Domain)}
  {Q : α → β → ApiServer → Stores → Prop}

/-! ### Calls at a server and in memory -/

section Steps

variable {s : ApiServer} {t : Stores} {check : Checker} {d d' : Domain} {i i' : Ingress}

/-- The answers to the call for the domain of a pass, at the server and in memory: there is none on
either side, or there is one on both, which differ in their versions and are tracked from then
on. -/
inductive FoundDomain (key : ObjectKey) : Except StoreError (Option Domain) →
    Except StoreError (Option Domain) → ApiServer → Stores → Prop
  | absent {s : ApiServer} {t : Stores} : Keeping key none none s t →
      FoundDomain key (.ok none) (.ok none) s t
  | present {s : ApiServer} {t : Stores} {d d' : Domain} : Keeping key none (some (d, d')) s t →
      FoundDomain key (.ok (some d)) (.ok (some d')) s t

/-- The answers to the call for the ingress of a pass: there is none on either side, or there is one
on both, which differ in their versions. It has the key of the domain's ingress, and a `uid`. -/
inductive FoundIngress (key : ObjectKey) (fetched : Option (Domain × Domain)) :
    Except StoreError (Option Ingress) → Except StoreError (Option Ingress) →
    ApiServer → Stores → Prop
  | absent {s : ApiServer} {t : Stores} : Keeping key none fetched s t →
      FoundIngress key fetched (.ok none) (.ok none) s t
  | present {s : ApiServer} {t : Stores} {i i' : Ingress} : i'.unversioned = i.unversioned →
      i.key? = some (StatsIngress.keyOf key) → i.metadata.uid.isSome →
      Keeping key none fetched s t →
      FoundIngress key fetched (.ok (some i)) (.ok (some i')) s t

/-- The answers to a write: it was done on both sides, or it failed on both with failures that are
the same when `plain`. -/
inductive Written (key : ObjectKey) (made : Option ObjectKey) (fetched : Option (Domain × Domain)) :
    Except StoreError Unit → Except StoreError Unit → ApiServer → Stores → Prop
  | done {s : ApiServer} {t : Stores} : Keeping key made fetched s t →
      Written key made fetched (.ok ()) (.ok ()) s t
  | failed {s : ApiServer} {t : Stores} {e e' : StoreError} : e.plain = e'.plain →
      Keeping key made fetched s t → Written key made fetched (.error e) (.error e') s t

/-- **Fetching the domain** finds the same at the server as in memory, by `get_absent` and
`get_present`. -/
theorem fetchDomain_step (hkey : Addressable key) (h : Keeping key none none s t)
    (hread : Readable m (answer m check (.fetchDomain key) s).2) :
    Related (FoundDomain key) (answer m check (.fetchDomain key) s)
      (answerInMemory check (.fetchDomain key) t) := by
  have hmemory : answerInMemory check (.fetchDomain key) t = (.ok (t.domains.get key), t) := rfl
  rw [hmemory]
  obtain ⟨hs, ht⟩ | ⟨v, r, d', hs, ht, -⟩ := h.domains.get_cases key
  · have hyields : m.Yields (answer m check (.fetchDomain key) s) (.ok none) s :=
      get_absent DomainSpec DomainStatus rfl hkey.toPlainKey hkey.domain_fits hs
    obtain ⟨w, hserver⟩ := hyields.eq hread
    rw [hserver, ht]
    exact FoundDomain.absent (h.sending w)
  · obtain ⟨d, shows, tracks⟩ := h.domains.tracks hs ht
    have hyields : m.Yields (answer m check (.fetchDomain key) s) (.ok (some d)) s :=
      get_present rfl hkey.toPlainKey hkey.domain_fits hs shows
    obtain ⟨w, hserver⟩ := hyields.eq hread
    have hkeeping : Keeping key none (some (d, d')) s t := ⟨h.toMirrors, by
      rintro _ _ ⟨⟩
      exact tracks⟩
    rw [hserver, ht]
    exact FoundDomain.present (hkeeping.sending w)

/-- **Looking up the ingress** finds the same at the server as in memory, by `get_absent` and
`get_present`. -/
theorem fetchIngress_step (hkey : Addressable key) (h : Keeping key none fetched s t)
    (hread : Readable m (answer m check (.fetchIngress (StatsIngress.keyOf key)) s).2) :
    Related (FoundIngress key fetched) (answer m check (.fetchIngress (StatsIngress.keyOf key)) s)
      (answerInMemory check (.fetchIngress (StatsIngress.keyOf key)) t) := by
  have hmemory : answerInMemory check (.fetchIngress (StatsIngress.keyOf key)) t =
      (.ok (t.ingresses.get (StatsIngress.keyOf key)), t) := rfl
  rw [hmemory]
  obtain ⟨hs, ht⟩ | ⟨v, i, i', hs, ht, shows, uid, same, kept⟩ :=
    h.ingresses.get_cases (StatsIngress.keyOf key)
  · have hyields : m.Yields (answer m check (.fetchIngress (StatsIngress.keyOf key)) s)
        (.ok none) s :=
      get_absent (Option IngressSpec) IngressStatus rfl hkey.toPlainKey.keyOf hkey.ingress_fits hs
    obtain ⟨w, hserver⟩ := hyields.eq hread
    rw [hserver, ht]
    exact FoundIngress.absent (h.sending w)
  · have hyields : m.Yields (answer m check (.fetchIngress (StatsIngress.keyOf key)) s)
        (.ok (some i)) s :=
      get_present rfl hkey.toPlainKey.keyOf hkey.ingress_fits hs shows
    obtain ⟨w, hserver⟩ := hyields.eq hread
    rw [hserver, ht]
    exact FoundIngress.present (Resource.unversioned_eq same (kept nofun)) shows.key?_eq uid
      (h.sending w)

/-- **Creating an ingress** that was built does at the server what it does in memory, by
`create_taken` and `create_vacant`. The `uid` that each side gives to it may differ from then on. -/
theorem createIngress_step {backend : StatsBackend} (hkey : Addressable key)
    (hi : StatsIngress.build key d backend = .ok i) (h : Keeping key none fetched s t)
    (hread : Readable m (answer m check (.createIngress i) s).2) :
    Related (Written key (some (StatsIngress.keyOf key)) fetched)
      (answer m check (.createIngress i) s) (answerInMemory check (.createIngress i) t) := by
  have shows := StatsIngress.shows_of_build hi
  obtain ⟨hs, ht⟩ | ⟨v, r, r', hs, ht, -⟩ := h.ingresses.get_cases (StatsIngress.keyOf key)
  · have hyields : m.Yields (answer m check (.createIngress i) s) (.ok ())
        (m.add s .ingress (StatsIngress.keyOf key) i.encode) :=
      create_vacant rfl hkey.toPlainKey.keyOf hkey.creation_fits shows hs
    obtain ⟨w, hserver⟩ := hyields.eq hread
    rw [hserver, answerInMemory, Stores.answer,
      MemoryStore.create_of_vacant (StatsIngress.key?_build hi) ht]
    -- The server gives an identity before it gives a version, and another one than the store does.
    have hgiven := (h.weaken (some (StatsIngress.keyOf key))).giving (m.fresh s)
    exact Written.done ((hgiven.ingresses_turn (.created shows (m.fresh s) ⟨rfl, rfl⟩)).sending w)
  · have hyields : m.Yields (answer m check (.createIngress i) s) (.error (.conflict _ _ _)) s :=
      create_taken rfl hkey.toPlainKey.keyOf hkey.creation_fits shows hs
    obtain ⟨w, hserver⟩ := hyields.eq hread
    rw [hserver, answerInMemory, Stores.answer,
      MemoryStore.create_of_taken (StatsIngress.key?_build hi) ht]
    exact Written.failed rfl ((h.weaken _).sending w)

/-- **Deleting an ingress** that was found does at the server what it does in memory, by
`delete_absent`, `delete_other` and `delete_same`: both sides go by its `uid`. -/
theorem deleteIngress_step (hkey : Addressable key) (hii : i'.unversioned = i.unversioned)
    (hi : i.key? = some (StatsIngress.keyOf key)) (huid : i.metadata.uid.isSome)
    (h : Keeping key none fetched s t)
    (hread : Readable m (answer m check (.deleteIngress i) s).2) :
    Related (Written key none fetched) (answer m check (.deleteIngress i) s)
      (answerInMemory check (.deleteIngress i') t) := by
  have hplain := hkey.toPlainKey.keyOf
  obtain ⟨u, hu⟩ := Option.isSome_iff_exists.1 huid
  rw [Resource.eq_atVersion hii]
  generalize i'.metadata.resourceVersion = version
  obtain ⟨hs, ht⟩ | ⟨v, r, r', hs, ht, shows, -, -, kept⟩ :=
    h.ingresses.get_cases (StatsIngress.keyOf key)
  · have hyields : m.Yields (answer m check (.deleteIngress i) s) (.error (.notFound _ _)) s :=
      delete_absent rfl hplain hkey.deletion_fits hi hu hs
    obtain ⟨w, hserver⟩ := hyields.eq hread
    rw [hserver, answerInMemory, Stores.answer,
      MemoryStore.delete_of_vacant (r := i.atVersion version) hi ht]
    exact Written.failed rfl (h.sending w)
  -- No ingress was made yet, so that the identity under the key is the same in both.
  by_cases huv : r.metadata.uid = some u
  · have hyields : m.Yields (answer m check (.deleteIngress i) s) (.ok ())
        (s.remove .ingress (StatsIngress.keyOf key)) :=
      delete_same rfl hplain hkey.deletion_fits hi hu hs (shows.uid_eq.trans huv)
    obtain ⟨w, hserver⟩ := hyields.eq hread
    rw [hserver, answerInMemory, Stores.answer,
      MemoryStore.delete_of_uid_eq (r := i.atVersion version) hi ht
        fun _ => (kept nofun).trans (huv.trans hu.symm)]
    refine Written.done (Keeping.sending ?_ w)
    exact h.ingresses_turn (.erased (m := m) ⟨rfl, rfl⟩)
  · have hyields : m.Yields (answer m check (.deleteIngress i) s) (.error (.conflict _ _ _)) s :=
      delete_other rfl hplain hkey.deletion_fits hi hu hs
        fun hv => huv (shows.uid_eq.symm.trans hv)
    obtain ⟨w, hserver⟩ := hyields.eq hread
    rw [hserver, answerInMemory, Stores.answer,
      MemoryStore.delete_of_uid_ne (r := i.atVersion version) hi ht huid
        fun hv => huv ((kept nofun).symm.trans (hv.trans hu))]
    exact Written.failed rfl (h.sending w)

/-- **Writing the status** of the domain that was fetched does at the server what it does in memory,
by `updateStatus_absent`, `updateStatus_stale` and `updateStatus_current`: since the domain was
tracked, either both sides still hold it as it was fetched, or neither does. -/
theorem writeStatus_step (f : DnsStatus) (hkey : Addressable key)
    (h : Keeping key made (some (d, d')) s t)
    (hread : Readable m (answer m check (.writeStatus (Protocol.judged d f)) s).2) :
    Related (Written key made none) (answer m check (.writeStatus (Protocol.judged d f)) s)
      (answerInMemory check (.writeStatus (Protocol.judged d' f)) t) := by
  have hplain := hkey.toPlainKey
  obtain ⟨hd, same, ⟨u, -, hu⟩, -, current⟩ := h.tracks rfl
  have hd' : d' = d.atVersion d'.metadata.resourceVersion := Resource.eq_atVersion same
  have hj' : (Protocol.judged d' f).key? = some key := by
    rw [hd']
    exact hd
  obtain ⟨hs, ht⟩ | ⟨v, r, r', hs, ht, shows, uid, -, -⟩ := h.domains.get_cases key
  · have hyields : m.Yields (answer m check (.writeStatus (Protocol.judged d f)) s)
        (.error (.notFound _ _)) s :=
      updateStatus_absent hplain hkey.status_fits hd hu hs
    obtain ⟨w, hserver⟩ := hyields.eq hread
    rw [hserver, answerInMemory, Stores.answer, MemoryStore.updateStatus_of_vacant hj' ht]
    exact Written.failed rfl (h.forget.sending w)
  -- Something is there: the version that was fetched in both, so that both write, or another one in
  -- both, so that both refuse.
  obtain ⟨showsd, rfl⟩ | ⟨hne, hne'⟩ := current hs ht
  · -- the server still shows what it showed when the domain was fetched
    obtain rfl : r = d := Except.ok.inj (shows.decode_eq.symm.trans showsd.decode_eq)
    have hyields : m.Yields (answer m check (.writeStatus (Protocol.judged r f)) s) (.ok ())
        (m.store s .domain key (mergePatch v (patchOf u (Protocol.judged r f).encode))) :=
      updateStatus_current hplain hkey.status_fits hd hu rfl hs showsd
        (hu.symm.trans showsd.version_eq.symm)
    obtain ⟨w, hserver⟩ := hyields.eq hread
    rw [hserver, answerInMemory, Stores.answer, MemoryStore.updateStatus_of_current hj' ht rfl]
    have hsame : (Protocol.judged r' f).unstamped = (Protocol.judged r f).unstamped := by
      rw [hd']
      rfl
    have hkept : r'.metadata.uid = r.metadata.uid := by
      rw [hd']
      rfl
    exact Written.done ((h.forget.domains_turn (.stored (showsd.mergeStatus rfl u) uid hsame
      (fun _ => hkept) ⟨rfl, rfl⟩)).sending w)
  · have hyields : m.Yields (answer m check (.writeStatus (Protocol.judged d f)) s)
        (.error (.conflict _ _ _)) s :=
      updateStatus_stale hplain hkey.status_fits hd hu hs fun hv => hne (hv.symm.trans hu.symm)
    obtain ⟨w, hserver⟩ := hyields.eq hread
    rw [hserver, answerInMemory, Stores.answer, MemoryStore.updateStatus_of_stale hj' ht hne']
    exact Written.failed rfl (h.forget.sending w)

section Answers

variable {f : Except StoreError (Option Domain) → Plan α}
  {f' : Except StoreError (Option Domain) → Plan β}
  {g : Except StoreError (Option Ingress) → Plan α}
  {g' : Except StoreError (Option Ingress) → Plan β}
  {j : Except StoreError Unit → Plan α} {j' : Except StoreError Unit → Plan β}

/-- Two plans that go on with the answers of `FoundDomain` are `Alike` if they are so without a
domain, and with two that differ in their versions. -/
lemma FoundDomain.alike
    (habsent : Alike m checker acts (Keeping key none none) (f (.ok none)) (f' (.ok none)) Q)
    (hpresent : ∀ d d', d'.unversioned = d.unversioned →
      Alike m checker acts (Keeping key none (some (d, d'))) (f (.ok (some d)))
        (f' (.ok (some d'))) Q)
    (a b : Except StoreError (Option Domain)) :
    Alike m checker acts (FoundDomain key a b) (f a) (f' b) Q := by
  intro s t h
  cases h with
  | absent h => exact habsent s t h
  | present h => exact hpresent _ _ (h.tracks rfl).same s t h

/-- Two plans that go on with the answers of `FoundIngress` are `Alike` if they are so without an
ingress, and with two that differ in their versions. -/
lemma FoundIngress.alike
    (habsent : Alike m checker acts (Keeping key none fetched) (g (.ok none)) (g' (.ok none)) Q)
    (hpresent : ∀ i i', i'.unversioned = i.unversioned →
      i.key? = some (StatsIngress.keyOf key) → i.metadata.uid.isSome →
      Alike m checker acts (Keeping key none fetched) (g (.ok (some i))) (g' (.ok (some i'))) Q)
    (a b : Except StoreError (Option Ingress)) :
    Alike m checker acts (FoundIngress key fetched a b) (g a) (g' b) Q := by
  intro s t h
  cases h with
  | absent h => exact habsent s t h
  | present hii hi huid h => exact hpresent _ _ hii hi huid s t h

/-- Two plans that go on after a write are `Alike` if they are so after its success, and after
failures that are the same when `plain`. -/
lemma Written.alike
    (hdone : Alike m checker acts (Keeping key made fetched) (j (.ok ())) (j' (.ok ())) Q)
    (hfailed : ∀ e e', e.plain = e'.plain →
      Alike m checker acts (Keeping key made fetched) (j (.error e)) (j' (.error e')) Q)
    (a b : Except StoreError Unit) :
    Alike m checker acts (Written key made fetched a b) (j a) (j' b) Q := by
  intro s t h
  cases h with
  | done h => exact hdone s t h
  | failed he h => exact hfailed _ _ he s t h

end Answers

end Steps

/-! ### The stages of a pass -/

section Stages

variable (hacts : ∀ n, ∀ a ∈ acts n, a.Sound) {d d' : Domain} {config : PassConfig}
include hacts

/-- One check is alike for two versions of one domain: the checker is not shown the version. -/
lemma runCheck_alike (key : ObjectKey) (hd : d'.unversioned = d.unversioned) (c : Check) :
    Alike m checker acts (Keeping key none (some (d, d'))) (runCheck key d c).run
      (runCheck key d' c).run
      (Ends key fun a b s t => a = b ∧ Keeping key none (some (d, d')) s t) := by
  refine Alike.ask (c := .check c d) (e := .check c d')
    (A := fun a b s t => a = b ∧ Keeping key none (some (d, d')) s t) hacts
    (congrArg (Call.check c) hd.symm) ?_ ?_
  · intro check s t h _
    exact ⟨congrArg (check c) hd.symm, h⟩
  · refine Alike.of_eq fun a => ?_
    cases a with
    | ok passed => exact Alike.observe hacts (Alike.pure fun h => ⟨rfl, h⟩)
    | error e => exact Alike.observe hacts (Alike.throw rfl fun h => h.toMirrors.weaken _)

/-- The three checks, up to the first that fails, are alike for two versions of one domain. -/
lemma checkDns_alike (key : ObjectKey) (hd : d'.unversioned = d.unversioned) :
    Alike m checker acts (Keeping key none (some (d, d'))) (checkDns key d).run
      (checkDns key d').run
      (Ends key fun a b s t => a = b ∧ Keeping key none (some (d, d')) s t) := by
  refine Alike.bind (runCheck_alike hacts key hd .dkim) (Alike.of_eq fun dkim => ?_)
  refine Alike.bind (runCheck_alike hacts key hd .stats) (Alike.of_eq fun stats => ?_)
  refine Alike.bind (runCheck_alike hacts key hd .spf) (Alike.of_eq fun spf => ?_)
  exact Alike.pure fun h => ⟨rfl, h⟩

/-- The removal of an ingress is alike for two versions of it. A failure with `isNotFound` counts as
done on both sides. -/
lemma removeIngress_alike {i i' : Ingress} (hkey : Addressable key)
    (hii : i'.unversioned = i.unversioned) (hi : i.key? = some (StatsIngress.keyOf key))
    (huid : i.metadata.uid.isSome) :
    Alike m checker acts (Keeping key none fetched) (removeIngress key i).run
      (removeIngress key i').run
      (Ends key fun a b s t => a = b ∧
        Keeping key (some (StatsIngress.keyOf key)) fetched s t) := by
  refine Alike.ask hacts (congrArg Call.deleteIngress hii.symm)
    (deleteIngress_step hkey hii hi huid) (Written.alike ?_ fun e e' he => ?_)
  · exact Alike.observe hacts (Alike.pure fun h => ⟨rfl, h.weaken _⟩)
  · -- Both fail for the same reason, and an ingress that is gone counts as removed in both.
    have hsame : e'.isNotFound = e.isNotFound := by
      rw [← e'.isNotFound_plain, ← he, e.isNotFound_plain]
    dsimp only
    rw [hsame]
    split
    · exact Alike.pure fun h => ⟨rfl, h.weaken _⟩
    · exact Alike.throw (congrArg (PassError.store key .convergeIngress) he)
        fun h => h.toMirrors.weaken _

/-- The work on the ingress is alike for two versions of one domain: what is built for them is the
same, and so is what the guards say about what was found. -/
lemma convergeIngress_alike (backend : StatsBackend) (hkey : Addressable key)
    (hd : d'.unversioned = d.unversioned) (f : DnsStatus) :
    Alike m checker acts (Keeping key none (some (d, d'))) (convergeIngress backend key d f).run
      (convergeIngress backend key d' f).run
      (Ends key fun a b s t => a = b ∧
        Keeping key (some (StatsIngress.keyOf key)) (some (d, d')) s t) := by
  have hd' := Resource.eq_atVersion hd
  refine Alike.ask hacts rfl (fetchIngress_step hkey) (FoundIngress.alike ?_ ?_)
  · -- what is built does not depend on the version of the domain
    have hbuild : StatsIngress.build key d' backend = StatsIngress.build key d backend := by
      rw [hd']
      rfl
    simp only [Pass.orFail, pure_bind, hbuild]
    split
    · cases hi : StatsIngress.build key d backend with
      | error e =>
        exact Alike.throw rfl fun h => h.toMirrors.weaken _
      | ok i =>
        simp only [pure_bind]
        refine Alike.ask hacts rfl (createIngress_step hkey hi)
          (Written.alike ?_ fun e e' he => ?_)
        · exact Alike.observe hacts (Alike.pure fun h => ⟨rfl, h⟩)
        · exact Alike.throw (congrArg (PassError.store key .convergeIngress) he) (·.toMirrors)
    · exact Alike.pure fun h => ⟨rfl, h.weaken _⟩
  · intro i i' hii hi huid
    -- neither do the guards, so that both sides take the same branch
    have howned : StatsIngress.ownedByOther i' d' = StatsIngress.ownedByOther i d := by
      rw [hd', Resource.eq_atVersion hii]
      rfl
    have hdeletion : i'.metadata.deletionTimestamp = i.metadata.deletionTimestamp := by
      rw [Resource.eq_atVersion hii]
      rfl
    simp only [Pass.orFail, pure_bind, howned, hdeletion]
    split
    · exact Alike.throw rfl fun h => h.toMirrors.weaken _
    split
    · exact Alike.pure fun h => ⟨rfl, h.weaken _⟩
    split
    · exact Alike.pure fun h => ⟨rfl, h.weaken _⟩
    · exact removeIngress_alike hacts hkey hii hi huid

/-- The end of a pass, which compares the status and writes it if it changed, is alike for two
versions of one domain. -/
lemma persist_alike (config : PassConfig) (hkey : Addressable key)
    (hd : d'.unversioned = d.unversioned) (f : DnsStatus) :
    Alike m checker acts (Keeping key (some (StatsIngress.keyOf key)) (some (d, d')))
      (do
        if statusChanged d.status (some (statusAfter d f)) then
          Pass.orFail (.store key .persistStatus)
            (← Pass.ask (.writeStatus (Protocol.judged d f)))
        return .requeue (config.intervals.next f) f.converged : Pass Outcome).run
      (do
        if statusChanged d'.status (some (statusAfter d' f)) then
          Pass.orFail (.store key .persistStatus)
            (← Pass.ask (.writeStatus (Protocol.judged d' f)))
        return .requeue (config.intervals.next f) f.converged : Pass Outcome).run
      (Ends key fun a b s t => a = b ∧ Mirrors (some (StatsIngress.keyOf key)) s t) := by
  have hd' := Resource.eq_atVersion hd
  have hstatus : d'.status = d.status := by
    rw [hd']
    rfl
  have hafter : statusAfter d' f = statusAfter d f := by
    rw [hd']
    rfl
  have hcall : (Call.writeStatus (Protocol.judged d f)).unversioned =
      (Call.writeStatus (Protocol.judged d' f)).unversioned := by
    rw [hd']
    rfl
  rw [hstatus, hafter]
  split
  · refine Alike.ask hacts hcall (writeStatus_step f hkey) (Written.alike ?_ fun e e' he => ?_)
    · exact Alike.pure fun h => ⟨rfl, h.toMirrors⟩
    · exact Alike.throw (congrArg (PassError.store key .persistStatus) he) (·.toMirrors)
  · exact Alike.pure fun h => ⟨rfl, h.toMirrors⟩

/-- **A pass at a server and a pass in memory are alike**, from worlds that are `Keeping` with
nothing fetched yet.

**Proof sketch.** The pass is put together from its calls by `Alike.bind` and `Alike.ask`: the fetch
by `fetchDomain_step`, then `checkDns_alike`, `convergeIngress_alike` and `persist_alike` on what
was fetched. -/
theorem reconcile_alike (config : PassConfig) (hkey : Addressable key) :
    Alike m checker acts (Keeping key none none) (reconcile config key).run
      (reconcile config key).run
      (Ends key fun a b s t => a = b ∧ Mirrors (some (StatsIngress.keyOf key)) s t) := by
  refine Alike.ask hacts rfl (fetchDomain_step hkey) (FoundDomain.alike ?_ fun d d' hd => ?_)
  · exact Alike.pure fun h => ⟨rfl, h.toMirrors.weaken _⟩
  · simp only [Pass.orFail, pure_bind]
    refine Alike.bind (checkDns_alike hacts key hd) (Alike.of_eq fun f => ?_)
    refine Alike.bind (convergeIngress_alike hacts config.backend hkey hd f)
      (Alike.of_eq fun _ => ?_)
    exact persist_alike hacts config hkey hd f

end Stages

/-- **A store in memory stands for one on a server.** A pass for a domain whose key is
`Addressable`, at a server and over two stores in memory that mirror it, makes the same calls and
observations in the same order, ends with the same outcome or with failures that are the same when
`plain`, and leaves worlds that mirror each other. This holds for every `Manner` of a server,
whatever the checks are answered, and for all sound acts of others between the calls, as long as all
that the server sends is `Readable`.

**Proof sketch.** By `reconcile_alike`, from the worlds of the beginning, which are `Keeping`. Each
call makes a turn on both sides, by the lemmas on steps above, and gives answers that differ in
versions and in the wording of conflicts only, to which a pass does not look. -/
theorem reconcile_faithful {m : Manner} {checker : Nat → Checker} {acts : Nat → List Act}
    (config : PassConfig) {key : ObjectKey} {s : ApiServer} {t : Stores}
    (hkey : Addressable key) (hacts : ∀ n, ∀ a ∈ acts n, a.Sound) (h : Mirrors none s t)
    (hread : Readable m ((atServer m checker acts).carryOut (reconcile config key).run
      ⟨s, []⟩).2.world) :
    let x := (atServer m checker acts).carryOut (reconcile config key).run ⟨s, []⟩
    let y := (inMemory checker acts).carryOut (reconcile config key).run ⟨t, []⟩
    x.2.moves.map Move.unversioned = y.2.moves.map Move.unversioned ∧
      x.1.mapError PassError.plain = y.1.mapError PassError.plain ∧
      Mirrors (some (StatsIngress.keyOf key)) x.2.world y.2.world := by
  obtain ⟨hend, hmoves⟩ :=
    reconcile_alike hacts config hkey ⟨s, []⟩ ⟨t, []⟩ (h.keeping key) rfl hread
  refine ⟨hmoves, ?_⟩
  generalize (atServer m checker acts).carryOut (reconcile config key).run ⟨s, []⟩ = x,
    (inMemory checker acts).carryOut (reconcile config key).run ⟨t, []⟩ = y at hend
  obtain ⟨a, x⟩ := x
  obtain ⟨b, y⟩ := y
  cases hend with
  | ok hR =>
    obtain ⟨rfl, hmirrors⟩ := hR
    exact ⟨rfl, hmirrors⟩
  | error he hmirrors => exact ⟨congrArg Except.error he, hmirrors⟩

/-- A server without objects and empty stores. A domain is put there, no check passes, and before
its status is written someone else writes it: both passes end with a conflict. -/
theorem reconcile_faithful_raced :
    let key : ObjectKey := ⟨"mail", "acme"⟩
    let d : Domain := {
      metadata := { name := some "acme", ns := some "mail", uid := some "d1" }
      spec := { baseDomain := "acme.example", dkim := ⟨"s1", "key"⟩ } }
    let acts : Nat → List Act := fun n =>
      if n = 0 then [⟨.domain, key, .put d.encode⟩]
      else if n = 8 then [⟨.domain, key, .touch⟩]
      else []
    let x := (atServer .brief (fun _ _ _ => .ok false) acts).carryOut (reconcile {} key).run
      ⟨⟨fun _ => .empty, [], []⟩, []⟩
    let y := (inMemory (fun _ _ _ => .ok false) acts).carryOut (reconcile {} key).run ⟨{}, []⟩
    y.1.mapError PassError.plain =
        .error (.store key .persistStatus (.conflict Kind.domain.name key "")) ∧
      x.2.moves.map Move.unversioned = y.2.moves.map Move.unversioned ∧
      x.1.mapError PassError.plain = y.1.mapError PassError.plain ∧
      Mirrors (some (StatsIngress.keyOf key)) x.2.world y.2.world := by
  intro key d acts
  have hread : (((atServer .brief (fun _ _ _ => .ok false) acts).carryOut (reconcile {} key).run
      ⟨⟨fun _ => .empty, [], []⟩, []⟩).2.world.sent.all fun v =>
        reads (Manner.brief.print v) v) = true := by
    decide +kernel
  have hd : Shows d.encode key d := {
    distinct := by
      simp [d, Domain.encode, ObjectMeta.encode, DomainSpec.encode, DkimConfig.encode, ofFields,
        Distinct, DistinctValues]
    isObj := ⟨_, rfl⟩
    decode_eq := by rfl
    key?_eq := rfl }
  refine ⟨by decide +kernel, reconcile_faithful {}
    ⟨⟨by decide, by decide, by decide⟩, by decide⟩ ?_ mirrors_empty
    fun v hv => isTextOf_of_reads (List.all_eq_true.1 hread v hv)⟩
  intro n a ha
  simp only [acts] at ha
  split at ha
  · rw [List.mem_singleton.1 ha]
    exact ⟨d, hd, rfl⟩
  split at ha
  · rw [List.mem_singleton.1 ha]
    trivial
  · cases ha

/-- A server refuses an empty name, while a store in memory finds nothing under it: over a server
without objects the pass fails, and over empty stores the domain is gone. -/
theorem reconcile_nameless :
    let key : ObjectKey := ⟨"mail", ""⟩
    let s : ApiServer := ⟨fun _ => .empty, [], []⟩
    let x := (atServer .brief (fun _ _ _ => .ok true) fun _ => []).carryOut (reconcile {} key).run
      ⟨s, []⟩
    let y := (inMemory (fun _ _ _ => .ok true) fun _ => []).carryOut (reconcile {} key).run ⟨{}, []⟩
    Mirrors none s {} ∧ Readable .brief x.2.world ∧
      x.1.mapError PassError.plain =
        .error (.store key .fetch (.api Kind.domain.name key .nameless)) ∧
      y.1.mapError PassError.plain = .ok .gone := by
  exact ⟨mirrors_empty, List.forall_mem_nil _, rfl, rfl⟩

/-! ### Keys that are not addressable -/

section Unaddressable

variable {σ : Type} {x : Scene σ} {l : Logged σ} {config : PassConfig} {fault : AddressFault}

/-- A pass whose first call, for its domain, is answered with the failure `e` of a store fails with
`e` in the stage `fetch`. -/
lemma reconcile_of_fetch_error {e : StoreError}
    (h : (x.answer l.moves.length (.fetchDomain key) (x.met l)).1 = .error e) :
    (x.carryOut (reconcile config key).run l).1 = .error (.store key .fetch e) := by
  obtain ⟨next, hask, hrest⟩ : ∃ next,
      (reconcile config key).run = .ask (.fetchDomain key) next ∧
        ∀ e, next (.error e) = .done (.error (.store key .fetch e)) := ⟨_, rfl, fun _ => rfl⟩
  rw [hask, Scene.carryOut_ask, h, hrest]
  rfl

/-- A pass whose first call, for its domain, finds none ends as `Outcome.gone`. -/
lemma reconcile_of_fetch_none
    (h : (x.answer l.moves.length (.fetchDomain key) (x.met l)).1 = .ok none) :
    (x.carryOut (reconcile config key).run l).1 = .ok .gone := by
  obtain ⟨next, hask, hrest⟩ : ∃ next,
      (reconcile config key).run = .ask (.fetchDomain key) next ∧
        next (.ok none) = .done (.ok .gone) := ⟨_, rfl, rfl⟩
  rw [hask, Scene.carryOut_ask, h, hrest]
  rfl

/-- There is no request for a domain whose path `Address.read` refuses. The operation
`ClusterStore.get` fails with the `fault` of the address then. -/
lemma get_unaddressed (hname : key.name ≠ "")
    (haddress : Address.read (ClusterStore.objectPath .domain key) = .error fault) :
    (ClusterStore.get key : Except StoreError (Operation (Option Domain))) =
      .error (.api Kind.domain.name key (.badAddress fault)) := by
  have hnamed : ClusterStore.named key = .ok () := by
    rw [ClusterStore.named, if_neg (by simpa using hname)]
  have hkind : Manifest.kind Domain = .domain := rfl
  have hrequest : ClusterStore.request .get (ClusterStore.objectPath .domain key) none =
      .error (.badAddress fault) := by
    rw [ClusterStore.request, haddress]
  simp only [ClusterStore.get, hkind, hnamed, hrequest]
  rfl

/-- **A path that is no address.** If `Address.read` refuses the path of the domain under `key`,
then a pass at a server fails in its first stage with the `fault` of the address, whatever the
server keeps. A pass over stores in memory, which hold nothing under such a key, ends as
`Outcome.gone`. -/
theorem reconcile_unaddressed (config : PassConfig) (hname : key.name ≠ "")
    (haddress : Address.read (ClusterStore.objectPath .domain key) = .error fault)
    {s : Logged ApiServer} {t : Logged Stores}
    (ht : ((inMemory checker acts).met t).domains.get key = none) :
    ((atServer m checker acts).carryOut (reconcile config key).run s).1 =
        .error (.store key .fetch (.api Kind.domain.name key (.badAddress fault))) ∧
      ((inMemory checker acts).carryOut (reconcile config key).run t).1 = .ok .gone := by
  constructor
  · refine reconcile_of_fetch_error ?_
    change ((Operation.perform m.send (ClusterStore.get key)).run _).1 = _
    rw [get_unaddressed hname haddress]
    rfl
  · exact reconcile_of_fetch_none (congrArg Except.ok ht)

/-- A path is no address if it has more than `Address.maxLength` octets: those of the namespace and
the name, and 54 around them. -/
lemma read_objectPath_of_long
    (h : Address.maxLength < key.ns.utf8ByteSize + key.name.utf8ByteSize + 54) :
    Address.read (ClusterStore.objectPath .domain key) = .error .tooLong := by
  rw [Address.read, utf8ByteSize_objectPath, if_pos h]

/-- **A question mark cuts a name.** What stands after it is the query of the request, so that under
a name `other.name ++ "?" ++ rest` a server finds the domain that it keeps under `other`. -/
theorem fetchDomain_cut {s : ApiServer} {check : Checker} {other : ObjectKey} {v : Json}
    {d : Domain} {rest : String} (hkey : PlainKey other)
    (hrest : rest.toList.all fun c => Address.inQuery c && c != '#')
    (hsize : (ClusterStore.objectPath .domain other ++ "?" ++ rest).utf8ByteSize ≤
      Address.maxLength)
    (hs : s.get? .domain other = some v) (shows : Shows v other d) :
    m.Yields (answer m check (.fetchDomain ⟨other.ns, other.name ++ "?" ++ rest⟩) s)
      (.ok (some d)) s := by
  have hnamed : ClusterStore.named ⟨other.ns, other.name ++ "?" ++ rest⟩ = .ok () := by
    rw [ClusterStore.named, if_neg]
    simp
  have hpath : ClusterStore.objectPath .domain ⟨other.ns, other.name ++ "?" ++ rest⟩ =
      ClusterStore.objectPath .domain other ++ "?" ++ rest := by
    simp only [ClusterStore.objectPath, String.append_assoc]
  have hrequest : (do
      ClusterStore.named ⟨other.ns, other.name ++ "?" ++ rest⟩
      ClusterStore.request .get
        (ClusterStore.objectPath .domain ⟨other.ns, other.name ++ "?" ++ rest⟩) none) =
      .ok ⟨.get, ⟨ClusterStore.objectPath .domain other, some rest⟩, none⟩ := by
    rw [hnamed, hpath]
    exact request_eq_ok .get none (q := some rest) (by simp [queryText]) hkey.isClean_objectPath
      hrest hsize
  have hserve : m.serve ⟨.get, ⟨ClusterStore.objectPath .domain other, some rest⟩, none⟩ s =
      m.reply s 200 v := by
    simp only [Manner.serve, hkey.ofPath?_object, hs]
  refine yields_operation hrequest hserve fun htext => ?_
  rw [ClusterStore.found, object_eq_ok rfl htext shows.decode_eq]
  rfl

/-- Keys that are not `Addressable` although they have a name. One has a space in its name and one
is longer than an address: passes at a server without objects fail, while the domain is gone in
memory. One has a question mark in its name: once a domain is put under the name before it, a pass
at the server goes on to the checks of that domain, which come too `late` here, and in memory there
is none. -/
theorem reconcile_unaddressable :
    let d : Domain := {
      metadata := { name := some "acme", ns := some "mail", uid := some "d1" }
      spec := { baseDomain := "acme.example", dkim := ⟨"s1", "key"⟩ } }
    let act : Act := ⟨.domain, ⟨"mail", "acme"⟩, .put d.encode⟩
    let late : ProbeError := .timeout "s1._domainkey.acme.example." "TXT" 5000
    let x := fun acts key => ((atServer .brief (fun _ _ _ => .error late) acts).carryOut
      (reconcile {} key).run ⟨⟨fun _ => .empty, [], []⟩, []⟩).1
    let y := fun acts key => ((inMemory (fun _ _ _ => .error late) acts).carryOut
      (reconcile {} key).run ⟨{}, []⟩).1
    let idle : Nat → List Act := fun _ => []
    let busy : Nat → List Act := fun n => if n = 0 then [act] else []
    let spaced : ObjectKey := ⟨"mail", "ac me"⟩
    let long : ObjectKey := ⟨"mail", String.ofList (List.replicate 65535 'a')⟩
    let cut : ObjectKey := ⟨"mail", "acme?x"⟩
    (x idle spaced = .error (.store spaced .fetch
        (.api Kind.domain.name spaced (.badAddress .badCharacter))) ∧
      y idle spaced = .ok .gone) ∧
    (x idle long = .error (.store long .fetch
        (.api Kind.domain.name long (.badAddress .tooLong))) ∧
      y idle long = .ok .gone) ∧
    x busy cut = .error (.probe cut .dkim late) ∧ y busy cut = .ok .gone := by
  intro d act late x y idle busy spaced long cut
  have hsize : long.name.utf8ByteSize = 65535 := by
    rw [String.utf8ByteSize_ofList]
    generalize 65535 = n
    induction n with
    | zero => rfl
    | succ n ih =>
      rw [List.replicate_succ, String.utf8Len, ih]
      rfl
  have hname : long.name ≠ "" := by
    intro hempty
    rw [hempty] at hsize
    cases hsize
  have hlong : Address.maxLength < long.ns.utf8ByteSize + long.name.utf8ByteSize + 54 := by
    rw [hsize, Address.maxLength]
    omega
  exact ⟨reconcile_unaddressed {} (by decide) (by decide) rfl,
    reconcile_unaddressed {} hname (read_objectPath_of_long hlong) rfl, by decide +kernel,
    by decide +kernel⟩

end Unaddressable

end MailDomain.ApiServer
