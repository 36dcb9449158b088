import MailDomain.Proofs.Convergence.Existence

/-!
# Whose ingress is deleted

The name of a stats ingress comes from that of its domain, so anything else may have taken it. What
is found under it counts as the domain's own unless something else manages it. One that nothing
manages is the domain's to keep and to delete.

Who manages an ingress is decided by comparing identities, so the guard `StatsIngress.ownedByOther`
needs the identity of the domain. A domain that was fetched has one, since every write of a store
stamps one. For a domain without, which only a direct caller of `convergeIngress` can bring, the
guard is `false` and nothing is spared; the main result is about domains with an identity, and the
end of the module shows what the others do.

## Main definitions

* `StatsIngress.managersOf` — the owners that manage an ingress.

## Main results

* `convergeIngress_foreign` — nothing is done about an ingress that something else manages.
* `convergeIngress_spares_foreign` — a domain deletes no ingress that something else manages.
* `convergeIngress_uidless` — a domain without an identity spares nothing.
-/

set_option relaxedAutoImplicit false
set_option autoImplicit false

namespace MailDomain

open Protocol MemoryStore

namespace StatsIngress

/-- The owners of the ingress `i` that manage it: those whose `controller` is `true`. -/
def managersOf (i : Ingress) : List OwnerReference :=
  i.metadata.owners.filter fun o => o.controller == some true

variable {i : Ingress} {d : Domain} {uid : String}

/-- An owner is among `managersOf i` if it is an owner of `i` and its `controller` is `true`, not
`false` and not left open. -/
@[simp] lemma mem_managersOf {o : OwnerReference} :
    o ∈ managersOf i ↔ o ∈ i.metadata.owners ∧ o.controller = some true := by
  simp [managersOf]

/-- For a domain with a `uid`, an ingress passes the guard `ownedByOther` exactly if each of its
managers has that `uid`. -/
lemma ownedByOther_eq_false_iff_managersOf (hd : d.metadata.uid = some uid) :
    ownedByOther i d = false ↔ ∀ o ∈ managersOf i, o.uid = uid := by
  rw [ownedByOther_eq_false_iff (Option.isSome_iff_exists.2 ⟨uid, hd⟩), hd]
  simp only [mem_managersOf, and_imp, Option.some_inj, eq_comm]

/-- For a domain with a `uid`, the guard `ownedByOther` holds an ingress back exactly if one of its
managers has another `uid`. -/
lemma ownedByOther_iff_managersOf (hd : d.metadata.uid = some uid) :
    ownedByOther i d = true ↔ ∃ o ∈ managersOf i, o.uid ≠ uid := by
  rw [← Bool.not_eq_false, ownedByOther_eq_false_iff_managersOf hd]
  push Not
  rfl

end StatsIngress

variable {key : ObjectKey} {d : Domain} {i : Ingress}

/-- If the look-up of `convergeIngress` found an ingress that is `ownedByOther`, nothing follows:
the plan ends at once with `foreignError key`. -/
lemma convergeIngress_foreign (backend : StatsBackend) (f : DnsStatus) {h : List Deed}
    {q : Plan (Except PassError IngressAction)} (hi : StatsIngress.ownedByOther i d = true)
    (hq : (convergeIngress backend key d f).run.Follows (lookedUp key (some i) :: h) q) :
    h = [] ∧ q = .done (.error (foreignError key)) := by
  obtain ⟨r, hr, hrest⟩ := Plan.Follows.of_append (h := [lookedUp key (some i)]) hq
  have hno : ∀ m, ¬ ConvergeDoes backend key d f [lookedUp key (some i)] m := by
    intro m hm
    cases hm with
    | delete hrem => cases hi.symm.trans hrem.owned
  obtain ⟨a, rfl, hends⟩ := ((convergeIngress_upholds backend key d f).of_follows hr).eq_done hno
  cases hrest
  cases hends with
  | foreign _ => exact ⟨rfl, rfl⟩
  | kept howned _ => cases hi.symm.trans howned
  | pending howned _ _ => cases hi.symm.trans howned

/-- **A domain with an identity deletes no ingress that something else manages.** Whatever the calls
of `convergeIngress` are answered, it only ever deletes the ingress that its look-up found, and only
when the flag `f.stats` is down, the ingress is not being deleted, and each of its managers is the
domain. Over stores that hold an ingress with another manager, it ends with `foreignError key` and
leaves the stores as they are.

**Proof sketch.** The first part is what the protocol `convergeIngress_upholds` allows before a
deletion, with `ownedByOther_eq_false_iff_managersOf` for the guard. For the second, the story of
`Stores.carryOut_leads` begins with the look-up, which finds the ingress and changes nothing, and by
`convergeIngress_foreign` nothing follows it. -/
theorem convergeIngress_spares_foreign (backend : StatsBackend) (key : ObjectKey) (f : DnsStatus)
    {uid : String} (hd : d.metadata.uid = some uid) :
    (∀ {h i next},
      (convergeIngress backend key d f).run.Follows h (.ask (.deleteIngress i) next) →
        h = [lookedUp key (some i)] ∧ (∀ o ∈ StatsIngress.managersOf i, o.uid = uid) ∧
          f.stats = false ∧ i.metadata.deletionTimestamp = none) ∧
    ∀ checker (s : Stores) i, s.ingresses.get (StatsIngress.keyOf key) = some i →
      (∃ o ∈ StatsIngress.managersOf i, o.uid ≠ uid) →
        Stores.carryOut checker (convergeIngress backend key d f) s =
          (.error (foreignError key), s) := by
  constructor
  · intro h i next hq
    have hdoes : ConvergeDoes backend key d f h (.ask (.deleteIngress i)) :=
      ((convergeIngress_upholds backend key d f).of_follows hq).1
    cases hdoes with
    | delete hrem =>
      exact ⟨rfl, (StatsIngress.ownedByOther_eq_false_iff_managersOf hd).1 hrem.owned,
        hrem.unwanted, hrem.present⟩
  · intro checker s i hi hforeign
    have howned := (StatsIngress.ownedByOther_iff_managersOf hd).2 hforeign
    obtain ⟨h, hfollows, hleads⟩ :=
      Stores.carryOut_leads checker (convergeIngress backend key d f) s
    cases hfollows with
    | @asked _ _ h _ a hrest =>
      obtain ⟨u, ⟨_, hfalse, -⟩ | ha, hleads⟩ := hleads
      · exact hfalse.elim
      obtain ⟨rfl, hu⟩ := Prod.mk.inj ha
      have hstory : (convergeIngress backend key d f).run.Follows (lookedUp key (some i) :: h)
          (.done (Stores.carryOut checker (convergeIngress backend key d f) s).1) := by
        rw [← hi]
        exact .asked _ hrest
      obtain ⟨rfl, hdone⟩ := convergeIngress_foreign backend f howned hstory
      exact Prod.ext (Plan.done.inj hdone) ((Service.leads_nil.1 hleads).trans hu)

/-- An ingress under the name that the stats ingress of a domain has, managed by a rival: the work
for the domain fails, and the ingress stays. -/
theorem convergeIngress_spares_rival :
    let key : ObjectKey := ⟨"mail", "acme"⟩
    let d : Domain := {
      metadata := { name := some "acme", ns := some "mail", uid := some "d1" }
      spec := { baseDomain := "acme.example", dkim := ⟨"s1", "key"⟩ } }
    let rival : OwnerReference := {
      apiVersion := "v1", kind := "Gateway", name := "edge", uid := "g1", controller := some true }
    let i : Ingress := {
      metadata := {
        name := some "acme-stats", ns := some "mail", ownerReferences := some [rival] }
      spec := none }
    let s : Stores := ⟨after [.insert d], after [.insert i], {}⟩
    (∃ o ∈ StatsIngress.managersOf (stamped i 1), o.uid ≠ "d1") ∧
      Stores.carryOut (fun _ _ => .ok true) (convergeIngress {} key d ⟨true, false, true⟩) s =
        (.error (foreignError key), s) := by
  intro key d rival i s
  have hforeign : ∃ o ∈ StatsIngress.managersOf (stamped i 1), o.uid ≠ "d1" :=
    ⟨rival, by decide, by decide⟩
  exact ⟨hforeign, (convergeIngress_spares_foreign {} key ⟨true, false, true⟩ rfl).2 _ s
    (stamped i 1) rfl hforeign⟩

/-- An ingress under the name that the stats ingress of a domain has, managed by nothing: if the
flag for the stats is down, the domain deletes it, although it never owned it. -/
theorem convergeIngress_deletes_unmanaged :
    let key : ObjectKey := ⟨"mail", "acme"⟩
    let d : Domain := {
      metadata := { name := some "acme", ns := some "mail", uid := some "d1" }
      spec := { baseDomain := "acme.example", dkim := ⟨"s1", "key"⟩ } }
    let i : Ingress := {
      metadata := { name := some "acme-stats", ns := some "mail", uid := some "i1" }
      spec := none }
    let s : Stores := ⟨after [.insert d], after [.insert i], {}⟩
    let x := Stores.carryOut (fun _ _ => .ok true) (convergeIngress {} key d ⟨true, false, true⟩) s
    s.ingresses.get (StatsIngress.keyOf key) = some (stamped i 1) ∧
      (stamped i 1).metadata.owners = [] ∧
      (∃ next, (convergeIngress {} key d ⟨true, false, true⟩).run.Follows
        [lookedUp key (some (stamped i 1))] (.ask (.deleteIngress (stamped i 1)) next)) ∧
      x.1 = .ok .deleted ∧ x.2.ingresses.get (StatsIngress.keyOf key) = none := by
  intro key d i s x
  exact ⟨by decide +kernel, rfl, ⟨_, .asked _ (.here _)⟩, by decide +kernel, by decide +kernel⟩

/-! ### Domains without an identity -/

/-- After `convergeIngress` found the ingress `i`, it goes on with `removeIngress key i`, if `i`
passes the guard `ownedByOther`, is not wanted and is not being deleted. -/
lemma convergeIngress_follows_remove (backend : StatsBackend) {f : DnsStatus}
    (howned : StatsIngress.ownedByOther i d = false) (hf : f.stats = false)
    (hi : i.metadata.deletionTimestamp = none) :
    (convergeIngress backend key d f).run.Follows [lookedUp key (some i)]
      (removeIngress key i).run := by
  obtain ⟨g, hask, hrest⟩ : ∃ g,
      (convergeIngress backend key d f).run = .ask (.fetchIngress (StatsIngress.keyOf key)) g ∧
        g (.ok (some i)) = (removeIngress key i).run := by
    refine ⟨_, rfl, ?_⟩
    change (if StatsIngress.ownedByOther i d then _ else if f.stats then _
      else if i.metadata.deletionTimestamp.isSome then _ else removeIngress key i :
        Pass IngressAction).run = _
    rw [howned, hf, hi]
    rfl
  rw [hask]
  exact .asked _ (hrest ▸ .here _)

/-- **A domain without an identity spares nothing.** If `d.metadata.uid` is `none`, then
`ownedByOther i d` is `false` for every ingress `i`, and `convergeIngress` asks for the deletion of
whatever it finds under the name of its ingress, even of one that something else manages. -/
theorem convergeIngress_uidless (backend : StatsBackend) {f : DnsStatus}
    (hd : d.metadata.uid = none) (hf : f.stats = false)
    (hi : i.metadata.deletionTimestamp = none) :
    ∃ next, (convergeIngress backend key d f).run.Follows [lookedUp key (some i)]
      (.ask (.deleteIngress i) next) := by
  have howned : StatsIngress.ownedByOther i d = false := by
    rw [StatsIngress.ownedByOther, hd]
  exact ⟨_, convergeIngress_follows_remove backend howned hf hi⟩

/-- A rival manages the ingress that has the name of a domain's, as in
`convergeIngress_spares_rival`. The domain has no identity here, and the ingress is deleted. -/
theorem convergeIngress_deletes_managed :
    let key : ObjectKey := ⟨"mail", "acme"⟩
    let d : Domain := {
      metadata := { name := some "acme", ns := some "mail" }
      spec := { baseDomain := "acme.example", dkim := ⟨"s1", "key"⟩ } }
    let rival : OwnerReference := {
      apiVersion := "v1", kind := "Gateway", name := "edge", uid := "g1", controller := some true }
    let i : Ingress := {
      metadata := {
        name := some "acme-stats", ns := some "mail", uid := some "i1"
        ownerReferences := some [rival] }
      spec := none }
    let s : Stores := ⟨{}, after [.insert i], {}⟩
    let x := Stores.carryOut (fun _ _ => .ok true) (convergeIngress {} key d ⟨true, false, true⟩) s
    s.ingresses.get (StatsIngress.keyOf key) = some (stamped i 1) ∧
      StatsIngress.managersOf (stamped i 1) = [rival] ∧
      (∃ next, (convergeIngress {} key d ⟨true, false, true⟩).run.Follows
        [lookedUp key (some (stamped i 1))] (.ask (.deleteIngress (stamped i 1)) next)) ∧
      x.1 = .ok .deleted ∧ x.2.ingresses.get (StatsIngress.keyOf key) = none := by
  intro key d rival i s x
  exact ⟨rfl, by decide, convergeIngress_uidless {} rfl rfl rfl, by decide +kernel,
    by decide +kernel⟩

end MailDomain
