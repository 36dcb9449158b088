import MailDomain.Proofs.Convergence.Endings
import MailDomain.Proofs.Interleaving.System
import MailDomain.Proofs.Store.Renumbering

/-!
# Passes for different domains

Passes for different domains share two stores in memory, to which nobody else writes. Each of them
reads and writes only the domain under its key and the ingress that belongs to that, and these keys
are different for different domains. So each does what it would do alone, whatever the order of the
calls, and only the numbers that the stores give depend on the others.

## Main definitions

* `System.storesRules` — the two stores as a shared world without others.
* `Stores.Within`, `Stores.Alike` — what the deeds of one pass may change, and what the acts of
  others may change for it.
* `System.Beside` — what holds of the shared stores after any deeds of passes.
* `Stores.inTurn` — passes one after the other.

## Main results

* `StatsIngress.keyOf_injective` — different domains have different ingresses.
* `Stores.answer_alike` — a call of a pass is answered beside others as it is alone.
* `System.Run.beside` — the invariant holds after every run.
* `System.passes_independent` — passes for different domains are independent.
-/

set_option relaxedAutoImplicit false
set_option autoImplicit false

namespace MailDomain

open Protocol MemoryStore

/-- Different domains have different stats ingresses, whatever their names and namespaces: the name
of the ingress is that of the domain with something behind it. -/
theorem StatsIngress.keyOf_injective : Function.Injective StatsIngress.keyOf := by
  rintro ⟨ns, name⟩ ⟨ns', name'⟩ h
  have hns : ns = ns' := congrArg ObjectKey.ns h
  have hname : name ++ "-stats" = name' ++ "-stats" := congrArg ObjectKey.name h
  rw [hns, (String.append_left_inj _).1 hname]

namespace Stores

variable {checker : Checker} {config : PassConfig} {key : ObjectKey} {d : Domain} {f : DnsStatus}
  {s t u : Stores} {h : List Deed}

/-- Two stores in memory that never fail leave no choice: each call has one answer. -/
lemma service_functional (checker : Checker) : (service checker fun _ _ => False).Functional := by
  rintro c s a a' t t' (⟨_, hfalse, -⟩ | h) (⟨_, hfalse, -⟩ | h')
  · exact hfalse.elim
  · exact hfalse.elim
  · exact hfalse.elim
  · exact Prod.mk.inj (h.trans h'.symm)

/-! ### What belongs to a domain -/

/-- The stores `t` come from `s` by changes to the domain under `key` and to its ingress alone.
Their versions did not decrease. -/
structure Within (key : ObjectKey) (s t : Stores) : Prop where
  domains : ∀ k, k ≠ key → t.domains.get k = s.domains.get k
  ingresses : ∀ k, k ≠ StatsIngress.keyOf key → t.ingresses.get k = s.ingresses.get k
  domainVersion : s.domains.version ≤ t.domains.version
  ingressVersion : s.ingresses.version ≤ t.ingresses.version

/-- The stores `t` and `u`, which both grew from `s`, agree on the domain under `key` and on its
ingress, apart from the numbers that they gave, see `Renumbered`. -/
structure Alike (s : Stores) (key : ObjectKey) (t u : Stores) : Prop where
  domain : Renumbered s.domains key (t.domains.get key) (u.domains.get key)
  ingress : Renumbered s.ingresses (StatsIngress.keyOf key)
    (t.ingresses.get (StatsIngress.keyOf key)) (u.ingresses.get (StatsIngress.keyOf key))

/-- Stores that do not change are `Within` any key of themselves. -/
lemma Within.refl (key : ObjectKey) (s : Stores) : Within key s s :=
  ⟨fun _ _ => rfl, fun _ _ => rfl, le_rfl, le_rfl⟩

/-- Changes `Within` one key follow one another. -/
lemma Within.trans (h : Within key s t) (h' : Within key t u) : Within key s u where
  domains k hk := (h'.domains k hk).trans (h.domains k hk)
  ingresses k hk := (h'.ingresses k hk).trans (h.ingresses k hk)
  domainVersion := h.domainVersion.trans h'.domainVersion
  ingressVersion := h.ingressVersion.trans h'.ingressVersion

/-- An observation changes no object, and so is `Within` any key. -/
lemma Within.note (key : ObjectKey) (o : Observation) (s : Stores) : Within key s (s.note o) :=
  ⟨fun _ _ => rfl, fun _ _ => rfl, le_rfl, le_rfl⟩

/-- Stores are `Alike` themselves. -/
lemma Alike.refl (key : ObjectKey) (s t : Stores) : Alike s key t t := ⟨.same _, .same _⟩

/-- Stores that are both `Alike` the stores `t` are alike one another. -/
lemma Alike.euclidean {w : Stores} (h : Alike s key t u) (h' : Alike s key t w) :
    Alike s key u w :=
  ⟨h.domain.symm.trans h'.domain, h.ingress.symm.trans h'.ingress⟩

/-- An observation in both of two stores keeps them `Alike`. -/
lemma Alike.note (h : Alike s key t u) (o : Observation) : Alike s key (t.note o) (u.note o) :=
  ⟨h.domain, h.ingress⟩

/-! ### The writes of a pass -/

/-- Removing the ingress of the domain under `key`, as it is stored, succeeds and is `Within` the
key. -/
lemma answer_deleteIngress (checker : Checker) {i : Ingress}
    (hkey : i.key? = some (StatsIngress.keyOf key))
    (hi : s.ingresses.get (StatsIngress.keyOf key) = some i) :
    ∃ s', answer checker (.deleteIngress i) s = (.ok (), s') ∧ Within key s s' ∧
      s'.domains = s.domains ∧ s'.ingresses.get (StatsIngress.keyOf key) = none := by
  simp only [answer, delete_of_uid_eq hkey hi fun _ => rfl]
  refine ⟨_, rfl, ?_, rfl, Table.get?_erase_self _ _⟩
  exact ⟨fun _ _ => rfl, fun k hk => Table.get?_erase_of_ne hk _, le_rfl, le_rfl⟩

/-- Creating the ingress of the domain under `key`, where there is none, succeeds and is `Within`
the key. The ingress gets the next number for its version and its `uid`. -/
lemma answer_createIngress (checker : Checker) {i : Ingress}
    (hkey : i.key? = some (StatsIngress.keyOf key))
    (hi : s.ingresses.get (StatsIngress.keyOf key) = none) :
    ∃ s', answer checker (.createIngress i) s = (.ok (), s') ∧ Within key s s' ∧
      s'.domains = s.domains ∧ s'.ingresses.get (StatsIngress.keyOf key) =
        some (stamped { i with metadata := { i.metadata with uid := none } }
          (s.ingresses.version + 1)) := by
  simp only [answer, create_of_vacant hkey hi]
  refine ⟨_, rfl, ?_, rfl, Table.get?_insert_self _ _ _⟩
  exact ⟨fun _ _ => rfl, fun k hk => Table.get?_insert_of_ne hk _ _, le_rfl, Nat.le_succ _⟩

/-- Writing the status of the domain under `key`, as it is stored, succeeds and is `Within` the
key. -/
lemma answer_writeStatus_judged (checker : Checker) (f : DnsStatus) (hkey : d.key? = some key)
    (hd : s.domains.get key = some d) :
    ∃ s', answer checker (.writeStatus (judged d f)) s = (.ok (), s') ∧ Within key s s' ∧
      s'.ingresses = s.ingresses ∧ s'.domains.get key =
        some (stamped (judged d f) (s.domains.version + 1)) := by
  simp only [answer, updateStatus_of_current (r := judged d f) hkey hd rfl]
  refine ⟨_, rfl, ?_, rfl, Table.get?_insert_self _ _ _⟩
  exact ⟨fun k hk => Table.get?_insert_of_ne hk _ _, fun _ _ => rfl, Nat.le_succ _, le_rfl⟩

/-- A call that `ChecksDo` allows is a check of the domain. -/
lemma checksDo_of_ask {c : Call} (hdoes : ChecksDo d h (.ask c)) : ∃ k, c = .check k d := by
  have hcheck : ∀ {k h}, CheckDoes d k h (.ask c) → c = .check k d := by
    intro k h hc
    cases hc
    rfl
  cases hdoes with
  | dkim hc => exact ⟨.dkim, hcheck hc⟩
  | stats _ hc => exact ⟨.stats, hcheck hc⟩
  | spf _ _ hc => exact ⟨.spf, hcheck hc⟩

/-- **A call is answered beside others as it is alone.** A pass for the domain under `key` is about
to make the call `c` after the story `h`. The stores `t` are what it has made of `s` alone, and `u`
is what it and others have made of `s`, `Alike` for the pass. Then `t` gives the answer that `u`
gives, each change is `Within` the key, and the stores stay `Alike`.

**Proof sketch.** By cases on what the protocol `PassDoes` allows. A call that reads the domain or
the ingress comes before the pass has written it, so that `t` holds there what `s` does. It has none
of the numbers given since, and is the same in `u` by `Renumbered.eq_of_old`. So a write finds in
both stores what it needs and succeeds in both, with a number from each, by the lemmas above. -/
theorem answer_alike {c : Call} {a : c.Answer} {u' : Stores} (hdomains : s.domains.Valid)
    (hingresses : s.ingresses.Valid) (hdoes : PassDoes config key h (.ask c))
    (hleads : (service checker fun _ _ => False).Leads h s t) (ht : Within key s t)
    (hdomain : s.domains.version ≤ u.domains.version)
    (hingress : s.ingresses.version ≤ u.ingresses.version) (halike : Alike s key t u)
    (ha : (a, u') = answer checker c u) :
    ∃ t', (a, t') = answer checker c t ∧ Within key t t' ∧ Within key u u' ∧
      Alike s key t' u' := by
  cases hdoes with
  | fetch =>
    -- nothing has happened before the domain is fetched, so `t` is still `s`
    cases Service.leads_nil.1 hleads
    obtain ⟨rfl, rfl⟩ := Prod.mk.inj ha
    refine ⟨s, ?_, .refl _ _, .refl _ _, halike⟩
    rw [answer, halike.domain.eq_of_old hdomains rfl]
  | check hdoes =>
    obtain ⟨k, rfl⟩ := checksDo_of_ask hdoes
    obtain ⟨rfl, rfl⟩ := Prod.mk.inj ha
    exact ⟨t, rfl, .refl _ _, .refl _ _, halike⟩
  | @converge d f h _ hdoes =>
    obtain ⟨-, -, v, hv, hstage⟩ := leads_checked hleads
    obtain ⟨-, heq⟩ := hv.trans (leads_idle (convergeDoes_ask_idle hdoes) hstage)
    have hsame := halike.ingress.eq_of_old hingresses (by rw [heq])
    rcases hdoes.of_ask with ⟨-, rfl⟩ | ⟨i, rfl, rfl⟩ | ⟨i, rfl, rfl, hbuild⟩
    · -- the ingress that is looked up
      obtain ⟨rfl, rfl⟩ := Prod.mk.inj ha
      refine ⟨t, ?_, .refl _ _, .refl _ _, halike⟩
      rw [answer, heq, hsame]
    · -- the ingress that is removed lies in both stores as it was found
      have hi : some i = s.ingresses.get (StatsIngress.keyOf key) := by
        rw [(leads_lookedUp hstage).1, hv.2]
      have hkey := hingresses.key_eq hi.symm
      obtain ⟨t', hanswer, ht', hdt, hit⟩ :=
        answer_deleteIngress checker (s := t) hkey (by rw [heq, hi])
      obtain ⟨u', hanswer', hu', hdu, hiu⟩ :=
        answer_deleteIngress checker (s := u) hkey (by rw [hsame, hi])
      rw [hanswer'] at ha
      obtain ⟨rfl, rfl⟩ := Prod.mk.inj ha
      refine ⟨t', hanswer.symm, ht', hu', ?_, ?_⟩
      · rw [hdt, hdu]
        exact halike.domain
      · rw [hit, hiu]
        exact .same _
    · -- the key is vacant in both stores, and the new ingress gets a number from each
      have hi : none = s.ingresses.get (StatsIngress.keyOf key) := by
        rw [(leads_lookedUp hstage).1, hv.2]
      have hkey := StatsIngress.key?_build hbuild
      obtain ⟨t', hanswer, ht', hdt, hit⟩ :=
        answer_createIngress checker (s := t) hkey (by rw [heq, hi])
      obtain ⟨u', hanswer', hu', hdu, hiu⟩ :=
        answer_createIngress checker (s := u) hkey (by rw [hsame, hi])
      rw [hanswer'] at ha
      obtain ⟨rfl, rfl⟩ := Prod.mk.inj ha
      refine ⟨t', hanswer.symm, ht', hu', ?_, ?_⟩
      · rw [hdt, hdu]
        exact halike.domain
      · rw [hit, hiu]
        refine .new (Nat.lt_succ_of_le ht.ingressVersion) (Nat.lt_succ_of_le hingress) ?_
        rw [← hi]
        rfl
  | @write d f h _ hends _ =>
    -- the domain is stored in both stores as it was fetched, since a pass writes it at most here
    obtain ⟨hhalf, heq⟩ := leads_converged hends hleads hingresses fun _ _ => False.elim
    have hsame := halike.domain.eq_of_old hdomains (by rw [heq])
    have hkey : d.key? = some key := hdomains.key_eq hhalf.stored
    obtain ⟨t', hanswer, ht', hit, hdt⟩ :=
      answer_writeStatus_judged checker f (s := t) hkey
        (by rw [heq, hhalf.stored])
    obtain ⟨u', hanswer', hu', hiu, hdu⟩ :=
      answer_writeStatus_judged checker f (s := u) hkey
        (by rw [hsame, hhalf.stored])
    rw [hanswer'] at ha
    obtain ⟨rfl, rfl⟩ := Prod.mk.inj ha
    refine ⟨t', hanswer.symm, ht', hu', ?_, ?_⟩
    · rw [hdt, hdu]
      refine .new (Nat.lt_succ_of_le ht.domainVersion) (Nat.lt_succ_of_le hdomain) ?_
      rw [hhalf.stored]
      rfl
    · rw [hit, hiu]
      exact halike.ingress

end Stores

/-! ### Passes beside one another -/

namespace System

open Stores

/-- The two stores as a shared world in which there are no others. -/
def storesRules (checker : Checker) : Rules Stores Empty where
  toService := service checker fun _ _ => False
  others e := nomatch e

/-- The invariant of the passes for the domains under `keys`, after the events `es` from the stores
`s`: what belongs to passes that have done nothing is as it was, and each pass has made a story that
it could have made alone from `s`, leaving its own objects `Alike` those that are there now. -/
structure Beside {ι : Type} [DecidableEq ι] (checker : Checker) (keys : ι → ObjectKey) (s : Stores)
    (es : List (Event ι Empty)) (w : Stores) : Prop where
  domainVersion : s.domains.version ≤ w.domains.version
  ingressVersion : s.ingresses.version ≤ w.ingresses.version
  domains : ∀ k, (∀ i, keys i = k → deedsOf i es = []) → w.domains.get k = s.domains.get k
  ingresses : ∀ k, (∀ i, StatsIngress.keyOf (keys i) = k → deedsOf i es = []) →
    w.ingresses.get k = s.ingresses.get k
  alone : ∀ i, ∃ t, (service checker fun _ _ => False).Leads (deedsOf i es) s t ∧
    Within (keys i) s t ∧ Alike s (keys i) t w

variable {ι : Type} [DecidableEq ι] {checker : Checker} {config : PassConfig}
  {keys : ι → ObjectKey} {s w w' : Stores} {es : List (Event ι Empty)} {i : ι}

/-- At the start nothing has been done, and `Beside` holds of no events. -/
lemma Beside.nil (checker : Checker) (keys : ι → ObjectKey) (s : Stores) :
    Beside checker keys s [] s where
  domainVersion := le_rfl
  ingressVersion := le_rfl
  domains _ _ := rfl
  ingresses _ _ := rfl
  alone _ := ⟨s, rfl, .refl _ _, .refl _ _ _⟩

/-- A deed of the pass `i` that is `Within` its key keeps `Beside`, if the pass could have done it
alone. The other passes need not be looked at, since their keys are different. -/
lemma Beside.snoc (h : Beside checker keys s es w) (hkeys : Function.Injective keys) {x : Deed}
    (hw : Within (keys i) w w')
    (halone : ∃ t, (service checker fun _ _ => False).Leads (deedsOf i es ++ [x]) s t ∧
      Within (keys i) s t ∧ Alike s (keys i) t w') :
    Beside checker keys s (es ++ [.deed i x]) w' where
  domainVersion := h.domainVersion.trans hw.domainVersion
  ingressVersion := h.ingressVersion.trans hw.ingressVersion
  domains k hk := by
    have hne : k ≠ keys i := fun he => by simpa [deedsOf_append] using hk i he.symm
    rw [hw.domains k hne]
    exact h.domains k fun j hj => deedsOf_eq_nil_of_append (hk j hj)
  ingresses k hk := by
    have hne : k ≠ StatsIngress.keyOf (keys i) := fun he => by
      simpa [deedsOf_append] using hk i he.symm
    rw [hw.ingresses k hne]
    exact h.ingresses k fun j hj => deedsOf_eq_nil_of_append (hk j hj)
  alone j := by
    rw [deedsOf_append]
    by_cases hj : i = j
    · subst hj
      rw [deedsOf_cons_self, deedsOf_nil]
      exact halone
    · rw [deedsOf_cons_of_ne hj, deedsOf_nil, List.append_nil]
      -- another pass did nothing, and the deed did not touch what belongs to it
      obtain ⟨t, hleads, ht, halike⟩ := h.alone j
      have hkey : keys j ≠ keys i := fun he => hj (hkeys he).symm
      refine ⟨t, hleads, ht, ?_, ?_⟩
      · rw [hw.domains _ hkey]
        exact halike.domain
      · rw [hw.ingresses _ fun he => hkey (StatsIngress.keyOf_injective he)]
        exact halike.ingress

/-- **Passes for different domains do what they could do alone**, at every moment of every run:
`Beside` holds.

**Proof sketch.** By `Run.preserves`. One event is a deed of one pass. A call is one that the
protocol allows after what the pass has done, so that it is answered as it would be alone, by
`answer_alike`, and an observation changes no object. `Beside.snoc` does the rest. -/
theorem Run.beside (hdomains : s.domains.Valid) (hingresses : s.ingresses.Valid)
    (hkeys : Function.Injective keys) {t : State Stores ι (Except PassError Outcome)}
    (hrun : Run (storesRules checker) ⟨s, fun i => (reconcile config (keys i)).run⟩ es t) :
    Beside checker keys s es t.shared := by
  refine hrun.preserves (P := fun es t => Beside checker keys s es t.shared)
    (Beside.nil checker keys s) ?_
  intro es e t u hbefore hbeside hstep
  cases e with
  | other e => cases e
  | deed i x =>
    -- what the pass has made of `s` alone, up to this event
    obtain ⟨v, hleads, hv, halike⟩ := hbeside.alone i
    cases x with
    | noted o =>
      cases hstep with
      | noted _ =>
        refine hbeside.snoc hkeys (.note _ o _)
          ⟨v.note o, ?_, hv.trans (.note _ o v), halike.note o⟩
        exact Service.leads_append.2 ⟨v, hleads, rfl⟩
    | asked c a =>
      obtain ⟨next, hplan, -, hanswer⟩ := hstep.of_asked
      have hupholds := (reconcile_upholds config (keys i)).of_follows (hbefore.follows i)
      rw [hplan] at hupholds
      rcases hanswer with ⟨_, hfalse, -⟩ | hanswer
      · exact hfalse.elim
      obtain ⟨v', hanswer', hv', hwithin, halike'⟩ := answer_alike hdomains hingresses hupholds.1
        hleads hv hbeside.domainVersion hbeside.ingressVersion halike hanswer
      refine hbeside.snoc hkeys hwithin ⟨v', ?_, hv.trans hv', halike'⟩
      exact Service.leads_append.2 ⟨v, hleads, v', .inr hanswer', rfl⟩

/-- **A pass beside others does the first deeds of those that it does alone.** If it has ended, it
has done all of them, ended as it does alone, and left its own objects `Alike`.

**Proof sketch.** By `Run.beside` the pass has made a story that it could have made alone. By
`service_functional` the stores leave it no choice, so that this is the beginning of the one that it
makes alone. -/
theorem Run.alone (hdomains : s.domains.Valid) (hingresses : s.ingresses.Valid)
    (hkeys : Function.Injective keys) {t : State Stores ι (Except PassError Outcome)}
    (hrun : Run (storesRules checker) ⟨s, fun i => (reconcile config (keys i)).run⟩ es t) (i : ι) :
    let x := carryOut checker (reconcile config (keys i)) s
    ∃ h, (reconcile config (keys i)).run.Follows h (.done x.1) ∧ deedsOf i es <+: h ∧
      ∀ r, t.plans i = .done r → r = x.1 ∧ Alike s (keys i) x.2 t.shared := by
  intro x
  obtain ⟨h, hfollows, hleads⟩ := carryOut_leads checker (reconcile config (keys i)) s
  obtain ⟨v, hpart, -, halike⟩ := (hrun.beside hdomains hingresses hkeys).alone i
  obtain ⟨rest, rfl, hrest, hend⟩ :=
    (service_functional checker).follows_of_follows hfollows hleads (hrun.follows i) hpart
  refine ⟨_, hfollows, List.prefix_append _ _, fun r hr => ?_⟩
  rw [hr] at hrest
  cases hrest
  cases Service.leads_nil.1 hend
  exact ⟨rfl, halike⟩

/-- A pass that has not ended can always do something: the stores answer every call. -/
lemma exists_step (checker : Checker) (t : State Stores ι (Except PassError Outcome)) (i : ι) :
    (∃ r, t.plans i = .done r) ∨ ∃ x u, Step (storesRules checker) t (.deed i x) u := by
  cases hp : t.plans i with
  | done r => exact .inl ⟨r, rfl⟩
  | ask c next => exact .inr ⟨_, _, .asked hp (.inr rfl)⟩
  | note o next => exact .inr ⟨_, _, .noted hp⟩

/-! ### Passes one after the other -/

/-- Carrying out one pass while all others rest is a run, in which only that pass does deeds.

**Proof sketch.** Induction on the plan of the pass, each move of which is an event. -/
lemma exists_run_of_carryOut (checker : Checker) (p : Pass Outcome) (w : Stores)
    (plans : ι → Plan (Except PassError Outcome)) (hi : plans i = p.run) :
    ∃ es, (∀ j, j ≠ i → deedsOf j es = []) ∧ Run (storesRules checker) ⟨w, plans⟩ es
      ⟨(carryOut checker p w).2, Function.update plans i (.done (carryOut checker p w).1)⟩ := by
  unfold carryOut
  generalize p.run = q at hi ⊢
  induction q generalizing w plans with
  | done r =>
    refine ⟨[], fun _ _ => rfl, ?_⟩
    change Run _ _ _ ⟨w, Function.update plans i (.done r)⟩
    rw [← hi, Function.update_eq_self]
    exact .nil _
  | ask c next ih =>
    obtain ⟨es, hes, hrun⟩ := ih (answer checker c w).1 (answer checker c w).2
      (Function.update plans i (next (answer checker c w).1)) (Function.update_self ..)
    rw [Function.update_idem] at hrun
    refine ⟨.deed i (.asked c _) :: es, fun j hj => ?_, .cons (.asked hi (.inr rfl)) hrun⟩
    rw [deedsOf_cons_of_ne hj.symm, hes j hj]
  | note o next ih =>
    obtain ⟨es, hes, hrun⟩ := ih (w.note o) (Function.update plans i next)
      (Function.update_self ..)
    rw [Function.update_idem] at hrun
    refine ⟨.deed i (.noted o) :: es, fun j hj => ?_, .cons (.noted hi) hrun⟩
    rw [deedsOf_cons_of_ne hj.symm, hes j hj]

end System

/-- Passes for the domains under the keys `ks`, one carried out after the other. -/
def Stores.inTurn (checker : Checker) (config : PassConfig) (ks : List ObjectKey) :
    StateM Stores (List (Except PassError Outcome)) :=
  ks.mapM fun key s => carryOut checker (reconcile config key) s

namespace System

open Stores

variable {checker : Checker} {config : PassConfig} {s w : Stores} {ks : List ObjectKey}

/-- Of the passes `inTurn`, the first is followed by the others, from the stores that it leaves. -/
lemma run_inTurn_cons (key : ObjectKey) :
    (inTurn checker config (key :: ks)).run w =
      let x := carryOut checker (reconcile config key) w
      let y := (inTurn checker config ks).run x.2
      (x.1 :: y.1, y.2) := by
  rw [inTurn, List.mapM_cons]
  rfl

/-- Passes `inTurn` for different keys are a run of passes beside one another, in which each pass is
named by its key. -/
lemma exists_run_of_inTurn (checker : Checker) (config : PassConfig) (hks : ks.Nodup) (w : Stores)
    (plans : ObjectKey → Plan (Except PassError Outcome))
    (hplans : ∀ k ∈ ks, plans k = (reconcile config k).run) :
    let x := (inTurn checker config ks).run w
    ∃ es plans', Run (storesRules checker) ⟨w, plans⟩ es ⟨x.2, plans'⟩ ∧
      (∀ k ∉ ks, plans' k = plans k ∧ deedsOf k es = []) ∧ ks.map plans' = x.1.map .done := by
  induction ks generalizing w plans with
  | nil => exact ⟨[], plans, .nil _, fun _ _ => ⟨rfl, rfl⟩, rfl⟩
  | cons key ks ih =>
    obtain ⟨hkey, hks⟩ := List.nodup_cons.1 hks
    -- the first pass goes through while all others rest, and their plans are as before
    obtain ⟨es, hes, hrun⟩ := exists_run_of_carryOut checker (reconcile config key) w plans
      (hplans key List.mem_cons_self)
    obtain ⟨es', plans', hrest, hothers, hresults⟩ := ih hks
      (carryOut checker (reconcile config key) w).2
      (Function.update plans key (.done (carryOut checker (reconcile config key) w).1))
      fun k hk => by
        have hne : k ≠ key := fun he => hkey (he ▸ hk)
        rw [Function.update_of_ne hne]
        exact hplans k (List.mem_cons_of_mem _ hk)
    rw [run_inTurn_cons]
    refine ⟨es ++ es', plans', hrun.append hrest, fun k hk => ?_, ?_⟩
    · obtain ⟨hne, hk⟩ := not_or.1 (List.mem_cons.not.1 hk)
      obtain ⟨hplan, hdeeds⟩ := hothers k hk
      rw [hplan, Function.update_of_ne hne, deedsOf_append, hes k hne, hdeeds]
      exact ⟨rfl, rfl⟩
    · rw [List.map_cons, hresults, (hothers key hkey).1, Function.update_self]
      rfl

/-- Passes `inTurn` for different keys end as each of them does alone, leave the objects of their
domains `Alike`, and everything else as it was. -/
lemma inTurn_alone (hdomains : s.domains.Valid) (hingresses : s.ingresses.Valid)
    (checker : Checker) (config : PassConfig) (hks : ks.Nodup) :
    let x := (inTurn checker config ks).run s
    let alone := fun key => carryOut checker (reconcile config key) s
    x.1 = ks.map (fun key => (alone key).1) ∧ (∀ k ∈ ks, Alike s k (alone k).2 x.2) ∧
      (∀ k ∉ ks, x.2.domains.get k = s.domains.get k) ∧
      ∀ k, (∀ key ∈ ks, StatsIngress.keyOf key ≠ k) → x.2.ingresses.get k = s.ingresses.get k := by
  intro x alone
  obtain ⟨es, plans', hrun, hothers, hresults⟩ := exists_run_of_inTurn checker config hks s
    (fun k => (reconcile config k).run) fun _ _ => rfl
  have hbeside := Run.beside hdomains hingresses Function.injective_id hrun
  have hdone : ∀ k ∈ ks, plans' k = .done (alone k).1 ∧ Alike s k (alone k).2 x.2 := by
    intro k hk
    -- the pass is done in the end, so that `Run.alone` says how it ended
    have hmem : plans' k ∈ x.1.map .done := hresults ▸ List.mem_map_of_mem hk
    obtain ⟨r, -, hr⟩ := List.mem_map.1 hmem
    obtain ⟨h, -, -, hend⟩ := Run.alone hdomains hingresses Function.injective_id hrun k
    obtain ⟨rfl, halike⟩ := hend r hr.symm
    exact ⟨hr.symm, halike⟩
  refine ⟨?_, fun k hk => (hdone k hk).2, fun k hk => ?_, fun k hk => ?_⟩
  · have hmap : (ks.map fun key => (alone key).1).map Plan.done = x.1.map Plan.done := by
      rw [← hresults, List.map_map]
      exact List.map_congr_left fun k hk => (hdone k hk).1.symm
    exact (List.map_injective_iff.2 (fun _ _ => Plan.done.inj) hmap).symm
  · refine hbeside.domains k fun i hi => ?_
    obtain rfl : i = k := hi
    exact (hothers i hk).2
  · refine hbeside.ingresses k fun i hi => (hothers i fun hmem => ?_).2
    exact hk i hmem hi

/-- **Passes for different domains are independent.** They share any two stores that clients may
have written, with nobody else writing, and a checker whose answers depend on the domain alone.
Whatever the order of their calls, each pass can go on until it has done what it does alone, and no
more; then it has the result that it has alone, and has left its domain and its ingress as it does
alone, apart from the numbers that the stores gave. Nothing that belongs to no pass changes. In
particular any two orders of carrying out the passes one after the other agree.

**Proof sketch.** The stores that writes leave are `Valid`, by `valid_after`. `Run.alone` says what
a pass has done and how it ended if it has, and `exists_step` that it can go on if it has not;
`Run.beside` has what belongs to no pass. One pass after the other is a run by
`exists_run_of_inTurn`, so that two orders are `Alike` what each pass does alone, see
`inTurn_alone`, and with it `Alike` one another. -/
theorem passes_independent (ws₁ : List (Write DomainSpec DomainStatus))
    (ws₂ : List (Write (Option IngressSpec) IngressStatus)) (m : Registry) (checker : Checker)
    (config : PassConfig) :
    let s : Stores := ⟨after ws₁, after ws₂, m⟩
    let alone := fun key => carryOut checker (reconcile config key) s
    (∀ (ι : Type) [DecidableEq ι] (keys : ι → ObjectKey), Function.Injective keys →
      ∀ es t, Run (storesRules checker) ⟨s, fun i => (reconcile config (keys i)).run⟩ es t →
        (∀ i, ∃ h, (reconcile config (keys i)).run.Follows h (.done (alone (keys i)).1) ∧
          deedsOf i es <+: h ∧
          ((t.plans i = .done (alone (keys i)).1 ∧ Alike s (keys i) (alone (keys i)).2 t.shared) ∨
            ∃ x u, Step (storesRules checker) t (.deed i x) u)) ∧
        (∀ k, (∀ i, keys i ≠ k) → t.shared.domains.get k = s.domains.get k) ∧
        ∀ k, (∀ i, StatsIngress.keyOf (keys i) ≠ k) →
          t.shared.ingresses.get k = s.ingresses.get k) ∧
      ∀ ks ks' : List ObjectKey, ks.Nodup → ks.Perm ks' →
        let x := (inTurn checker config ks).run s
        let y := (inTurn checker config ks').run s
        x.1 = ks.map (fun key => (alone key).1) ∧ y.1 = ks'.map (fun key => (alone key).1) ∧
        (∀ k, Renumbered s.domains k (x.2.domains.get k) (y.2.domains.get k)) ∧
        ∀ k, Renumbered s.ingresses k (x.2.ingresses.get k) (y.2.ingresses.get k) := by
  intro s alone
  have hdomains : s.domains.Valid := valid_after ws₁
  have hingresses : s.ingresses.Valid := valid_after ws₂
  constructor
  · intro ι _ keys hkeys es t hrun
    have hbeside := hrun.beside hdomains hingresses hkeys
    refine ⟨fun i => ?_, fun k hk => hbeside.domains k fun i hi => absurd hi (hk i),
      fun k hk => hbeside.ingresses k fun i hi => absurd hi (hk i)⟩
    obtain ⟨h, hfollows, hprefix, hend⟩ := hrun.alone hdomains hingresses hkeys i
    refine ⟨h, hfollows, hprefix, ?_⟩
    rcases exists_step checker t i with ⟨r, hr⟩ | hstep
    · obtain ⟨rfl, halike⟩ := hend r hr
      exact .inl ⟨hr, halike⟩
    · exact .inr hstep
  · intro ks ks' hks hperm x y
    obtain ⟨hx, halike, hxd, hxi⟩ := inTurn_alone hdomains hingresses checker config hks
    obtain ⟨hy, halike', hyd, hyi⟩ :=
      inTurn_alone hdomains hingresses checker config (hperm.nodup hks)
    refine ⟨hx, hy, fun k => ?_, fun k => ?_⟩
    · by_cases hk : k ∈ ks
      · exact ((halike k hk).euclidean (halike' k (hperm.mem_iff.1 hk))).domain
      · rw [hxd k hk, hyd k fun hk' => hk (hperm.mem_iff.2 hk')]
        exact .same _
    · by_cases hk : ∃ key ∈ ks, StatsIngress.keyOf key = k
      · obtain ⟨key, hmem, rfl⟩ := hk
        exact ((halike key hmem).euclidean (halike' key (hperm.mem_iff.1 hmem))).ingress
      · have hnone : ∀ key ∈ ks, StatsIngress.keyOf key ≠ k := fun key hmem he => hk ⟨key, hmem, he⟩
        rw [hxi k hnone, hyi k fun key hmem => hnone key (hperm.mem_iff.2 hmem)]
        exact .same _

end System

end MailDomain
