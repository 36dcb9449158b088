import MailDomain.Proofs.Convergence.Quiescence
import MailDomain.Rehearsal.Run

/-!
# Rehearsed passes come to rest

In a rehearsal that shows no old copies and makes no steps while a check runs, the faults to come
are failures of calls before they have any effect. Such a rehearsal is the service of the two
stores, and what holds of passes over that service holds of rehearsed ones.

## Main definitions

* `Rehearsal.World.stores`, `Rehearsal.World.MayFail` — the stores of a rehearsal, and the failures
  that its script has for each call.
* `Rehearsal.Plays` — a world that calls may have made of another one.
* `Rehearsal.Side.Shows` — how one side of a world is seen as one of the stores.

## Main results

* `Rehearsal.environment_obeys` — the rehearsal is a way of the service of its stores.
* `Rehearsal.pass_quiet` — a rehearsed pass writes each store at most once.
-/

set_option relaxedAutoImplicit false
set_option autoImplicit false

namespace MailDomain

namespace Rehearsal

open Stores

variable {Spec Status α : Type} {w₀ w : World} {s : Stores} {f : DnsStatus}

/-! ### Faults -/

/-- When `takeFault` takes out a fault, the faults that are left are some of those that were
there. -/
lemma takeFault_subset (o : Operation) (fs : List Fault) : (takeFault o fs).2 ⊆ fs := by
  induction fs with
  | nil => exact List.Subset.refl _
  | cons f fs ih =>
    rw [takeFault]
    split
    · exact List.subset_cons_self _ _
    · exact List.cons_subset_cons _ ih

/-- The fault that `takeFault o` takes out was there, and is one of the operation `o`. -/
lemma of_takeFault {o : Operation} {fs : List Fault} {x : Fault}
    (h : (takeFault o fs).1 = some x) : x ∈ fs ∧ x.operation = o := by
  induction fs with
  | nil => cases h
  | cons y fs ih =>
    rw [takeFault] at h
    split at h
    · rename_i ho
      cases h
      exact ⟨List.mem_cons_self, ho⟩
    · obtain ⟨hmem, ho⟩ := ih h
      exact ⟨List.mem_cons_of_mem _ hmem, ho⟩

/-- Among the faults of the shelf there is one of the operation `o` with the error `e`. -/
def Shelf.MayFail (x : Shelf Spec Status) (o : Operation) (e : StoreError) : Prop :=
  ∃ y ∈ x.faults, y.operation = o ∧ y.error = some e

/-- The stores of a world, with what was counted. -/
def World.stores (w : World) : Stores := ⟨w.domains.store, w.ingresses.store, w.metrics⟩

/-- The failures that the script of the world has for each call, those of a check being its scripted
result. -/
def World.MayFail (w : World) : (c : Call) → c.Failure → Prop
  | .fetchDomain _, e => w.domains.MayFail .get e
  | .check c _, e => (w.checks c).result = .error e
  | .fetchIngress _, e => w.ingresses.MayFail .get e
  | .createIngress _, e => w.ingresses.MayFail .create e
  | .deleteIngress _, e => w.ingresses.MayFail .delete e
  | .writeStatus _, e => w.domains.MayFail .updateStatus e

/-- The world `w` is one that calls may have made of `w₀`, and has the stores `s`: it shows no old
copies, makes no steps while a check runs, and has no faults and results of checks but those of
`w₀`. -/
structure Plays (w₀ w : World) (s : Stores) : Prop where
  stores : w.stores = s
  domainsThawed : w.domains.frozen = none
  ingressesThawed : w.ingresses.frozen = none
  domainFaults : w.domains.faults ⊆ w₀.domains.faults
  ingressFaults : w.ingresses.faults ⊆ w₀.ingresses.faults
  during : ∀ c, (w.checks c).during = []
  result : ∀ c, (w.checks c).result = (w₀.checks c).result

/-! ### Calls -/

/-- A call is written down and takes out a fault. Then it waits longer than the time that is left,
or fails with the error of the fault, or does its `work`. These are the three cases of the
disjunction. -/
lemma run_call_cases (side : Side Spec Status) (o : Operation) (key : Option ObjectKey)
    (work : Shelf Spec Status → Except StoreError α × MemoryStore Spec Status) (k : Clock)
    (w : World) :
    ∃ text k',
      let w₁ := w.called text
      let x := takeFault o (side.look w₁).faults
      let w₂ := side.change (fun s => { s with faults := x.2 }) w₁
      (call side o key work).run (k, w) = (none, k', w₂) ∨
        (∃ y e, x.1 = some y ∧ y.error = some e ∧
          (call side o key work).run (k, w) = (some (.error e), k', w₂)) ∨
        (call side o key work).run (k, w) = (some (work (side.look w₂)).1, k',
          side.change (fun s => { s with store := (work (side.look w₂)).2 }) w₂) := by
  unfold call
  extract_lets keyText
  refine ⟨side.name ++ "." ++ o.name ++ " " ++ keyText, ?_⟩
  simp only [Timed.run_change_bind, Timed.run_world_bind]
  rcases takeFault o (side.look (w.called _)).faults with ⟨_ | y, rest⟩
  · exact ⟨k, .inr (.inr rfl)⟩
  · refine ⟨(k.advance y.delay).2, ?_⟩
    cases hk : (k.advance y.delay).1 with
    | false => exact .inl (Timed.run_bind_of_none (Timed.run_wait_of_late hk))
    | true =>
      have hwait := Timed.run_wait_of_inTime (s := side.change (fun s => { s with faults := rest })
        (w.called (side.name ++ "." ++ o.name ++ " " ++ keyText))) hk
      cases he : y.error with
      | some e =>
        refine .inr (.inl ⟨y, e, rfl, he, (Timed.run_bind_of_some hwait).trans ?_⟩)
        rw [he]
        rfl
      | none =>
        refine .inr (.inr ((Timed.run_bind_of_some hwait).trans ?_))
        rw [he]
        rfl

/-- One side of a world is seen as the store `look s` of stores `s`: it shows what is stored, its
faults are failures that `mayFail` allows, and what calls do to it is done to that store. The
relation `R` is kept by all that a call does besides. -/
structure Side.Shows (side : Side Spec Status) (R : World → Stores → Prop)
    (mayFail : Operation → StoreError → Prop) (look : Stores → MemoryStore Spec Status)
    (change : MemoryStore Spec Status → Stores → Stores) : Prop where
  store : ∀ {w s}, R w s → (side.look w).store = look s
  thawed : ∀ {w s}, R w s → (side.look w).frozen = none
  fault : ∀ {w s o e}, R w s → (side.look w).MayFail o e → mayFail o e
  called : ∀ {w s} text, R w s → R (w.called text) s
  dropped : ∀ {w s fs}, R w s → fs ⊆ (side.look w).faults →
    R (side.change (fun x => { x with faults := fs }) w) s
  stored : ∀ {w s} m, R w s → R (side.change (fun x => { x with store := m }) w) (change m s)

/-- A call on a side that is seen as a store is stopped, or it has an answer. If `P` holds of each
failure that it may have and of what its `work` makes of the store, then `P` holds of the answer and
of the stores that there are then. -/
lemma Side.Shows.call {side : Side Spec Status} {R : World → Stores → Prop}
    {mayFail : Operation → StoreError → Prop} {look : Stores → MemoryStore Spec Status}
    {change : MemoryStore Spec Status → Stores → Stores} (h : side.Shows R mayFail look change)
    (hw : R w s) {o : Operation} {key : Option ObjectKey}
    {work : Shelf Spec Status → Except StoreError α × MemoryStore Spec Status} {k k' : Clock}
    {w' : World} {r : Option (Except StoreError α)} {P : Except StoreError α → Stores → Prop}
    (hrun : (Rehearsal.call side o key work).run (k, w) = (r, k', w'))
    (hfail : ∀ e, mayFail o e → P (.error e) s)
    (hwork : ∀ x, x.store = look s → x.frozen = none → P (work x).1 (change (work x).2 s)) :
    (r = none ∧ R w' s) ∨ ∃ a t, r = some a ∧ R w' t ∧ P a t := by
  obtain ⟨text, k₁, hcases⟩ := run_call_cases side o key work k w
  have hcalled := h.called text hw
  have hdropped := h.dropped hcalled (takeFault_subset o _)
  rcases hcases with hr | ⟨y, e, hy, he, hr⟩ | hr
  · cases hr.symm.trans hrun
    exact .inl ⟨rfl, hdropped⟩
  · cases hr.symm.trans hrun
    obtain ⟨hmem, ho⟩ := of_takeFault hy
    exact .inr ⟨_, s, rfl, hdropped, hfail e (h.fault hcalled ⟨y, hmem, ho, he⟩)⟩
  · cases hr.symm.trans hrun
    exact .inr ⟨_, _, rfl, h.stored _ hdropped, hwork _ (h.store hdropped) (h.thawed hdropped)⟩

/-- In a world that `Plays w₀`, the side of the domains is seen as the store of domains. -/
lemma domainSide_shows (w₀ : World) : domainSide.Shows (Plays w₀) w₀.domains.MayFail
    Stores.domains (fun m s => { s with domains := m }) where
  store hw := congrArg Stores.domains hw.stores
  thawed hw := hw.domainsThawed
  fault hw := fun ⟨y, hy, ho, he⟩ => ⟨y, hw.domainFaults hy, ho, he⟩
  called _ hw := { hw with }
  dropped hw hfs := { hw with domainFaults := List.Subset.trans hfs hw.domainFaults }
  stored m hw := { hw with stores := congrArg (fun s => { s with domains := m }) hw.stores }

/-- In a world that `Plays w₀`, the side of the ingresses is seen as the store of ingresses. -/
lemma ingressSide_shows (w₀ : World) : ingressSide.Shows (Plays w₀) w₀.ingresses.MayFail
    Stores.ingresses (fun m s => { s with ingresses := m }) where
  store hw := congrArg Stores.ingresses hw.stores
  thawed hw := hw.ingressesThawed
  fault hw := fun ⟨y, hy, ho, he⟩ => ⟨y, hw.ingressFaults hy, ho, he⟩
  called _ hw := { hw with }
  dropped hw hfs := { hw with ingressFaults := List.Subset.trans hfs hw.ingressFaults }
  stored m hw := { hw with stores := congrArg (fun s => { s with ingresses := m }) hw.stores }

/-! ### Checks -/

/-- A check whose steps have been taken out leaves a world that still `Plays w₀`, since there were
none. -/
lemma Plays.withCheck (hw : Plays w₀ w s) (text : String) (c : Check) :
    Plays w₀ ((w.called text).withCheck c { w.checks c with during := [] }) s where
  __ := hw
  during e := by
    rw [World.withCheck]
    dsimp only
    split
    · rfl
    · exact hw.during e
  result e := by
    rw [World.withCheck]
    dsimp only
    split
    · rename_i he
      rw [he, hw.result]
    · exact hw.result e

/-- A check in which no steps are made is written down and waits for its scripted delay; then it has
its scripted result. -/
lemma run_check {c : Check} (hduring : (w.checks c).during = []) (d : Domain) (k : Clock) :
    (check c d).run (k, w) =
      (Timed.wait (w.checks c).delay >>= fun _ => pure (w.checks c).result : Timed World _).run
        (k, (w.called ("check." ++ c.label ++ " " ++ d.spec.baseDomain)).withCheck c
          { w.checks c with during := [] }) := by
  rw [check, Timed.run_change_bind, Timed.run_world_bind]
  change (Timed.change _ >>= fun _ => (w.checks c).during.forM runStep >>= _).run _ = _
  rw [Timed.run_change_bind, hduring]
  rfl

/-- A check in which no steps are made is stopped, or has the result that `w₀` has for it, and the
stores are as before. -/
lemma Plays.check (hw : Plays w₀ w s) {c : Check} {d : Domain} {k k' : Clock} {w' : World}
    {r : Option (Except ProbeError Bool)} (hrun : (check c d).run (k, w) = (r, k', w')) :
    Plays w₀ w' s ∧ (r = none ∨ r = some (w₀.checks c).result) := by
  rw [run_check (hw.during c)] at hrun
  cases hk : (k.advance (w.checks c).delay).1 with
  | false =>
    cases (Timed.run_bind_of_none (Timed.run_wait_of_late hk)).symm.trans hrun
    exact ⟨hw.withCheck _ c, .inl rfl⟩
  | true =>
    cases (Timed.run_bind_of_some (Timed.run_wait_of_inTime hk)).symm.trans hrun
    exact ⟨hw.withCheck _ c, .inr (congrArg some (hw.result c))⟩

/-! ### Passes -/

/-- A call of a pass is stopped, or fails as `w₀` may let it, or does to the stores what
`Stores.service` says.

**Proof sketch.** A check has its result (`Plays.check`), which is a failure or the flag that all
checks agree on. Any other call is one on the side of the store that it is about
(`Side.Shows.call`). -/
lemma Plays.answer (hw : Plays w₀ w s)
    (hchecks : ∀ c b, (w₀.checks c).result = .ok b → b = f.flag c) {c : Call} {k k' : Clock}
    {w' : World} {r : Option c.Answer} (hrun : (environment.answer c).run (k, w) = (r, k', w')) :
    (r = none ∧ Plays w₀ w' s) ∨ ∃ a t, r = some a ∧ Plays w₀ w' t ∧
      (service (always f) w₀.MayFail).answers c s a t := by
  have hdomains := domainSide_shows w₀
  have hingresses := ingressSide_shows w₀
  cases c with
  | fetchDomain key =>
    change (call domainSide .get (some key) fun x =>
      (.ok (x.frozen.getD (x.store.get key)), x.store)).run (k, w) = _ at hrun
    refine hdomains.call hw hrun (fun e he => .inl ⟨e, he, rfl, rfl⟩) fun x hx hthawed => .inr ?_
    rw [Stores.answer, hx, hthawed, Option.getD_none]
  | check c d =>
    -- a check is no call to a store: its result comes from the script
    obtain ⟨h, rfl | rfl⟩ := hw.check hrun
    · exact .inl ⟨rfl, h⟩
    · refine .inr ⟨_, s, rfl, h, ?_⟩
      cases hr : (w₀.checks c).result with
      | error e => exact .inl ⟨e, hr, rfl, rfl⟩
      | ok b => exact .inr (by rw [Stores.answer, always, hchecks c b hr])
  | fetchIngress key =>
    change (call ingressSide .get (some key) fun x =>
      (.ok (x.frozen.getD (x.store.get key)), x.store)).run (k, w) = _ at hrun
    refine hingresses.call hw hrun (fun e he => .inl ⟨e, he, rfl, rfl⟩) fun x hx hthawed => .inr ?_
    rw [Stores.answer, hx, hthawed, Option.getD_none]
  | createIngress i =>
    change (call ingressSide .create i.key? fun x => x.store.create i).run (k, w) = _ at hrun
    refine hingresses.call hw hrun (fun e he => .inl ⟨e, he, rfl, rfl⟩) fun x hx _ => .inr ?_
    rw [Stores.answer, hx]
  | deleteIngress i =>
    change (call ingressSide .delete i.key? fun x => x.store.delete i).run (k, w) = _ at hrun
    refine hingresses.call hw hrun (fun e he => .inl ⟨e, he, rfl, rfl⟩) fun x hx _ => .inr ?_
    rw [Stores.answer, hx]
  | writeStatus d =>
    change (call domainSide .updateStatus d.key? fun x => x.store.updateStatus d).run (k, w) = _
      at hrun
    refine hdomains.call hw hrun (fun e he => .inl ⟨e, he, rfl, rfl⟩) fun x hx _ => .inr ?_
    rw [Stores.answer, hx]

/-- A rehearsal whose checks agree on the flags `f` obeys the service of its stores, with the
failures that its script has. -/
theorem environment_obeys (hchecks : ∀ c b, (w₀.checks c).result = .ok b → b = f.flag c) :
    environment.Obeys (service (always f) w₀.MayFail) (Plays w₀) where
  answered hw hrun := by
    rcases hw.answer hchecks hrun with ⟨hnone, -⟩ | ⟨a, t, ha, ht, hanswer⟩
    · cases hnone
    · cases ha
      exact ⟨t, ht, hanswer⟩
  stopped hw hrun := by
    rcases hw.answer hchecks hrun with ⟨-, h⟩ | ⟨a, t, ha, -⟩
    · exact h
    · cases ha
  observed o _ hw := ⟨_, rfl, { hw with stores := congrArg (note o) hw.stores }⟩

/-- A rehearsed pass that sees what is stored, in which nobody else writes, whose checks agree on
the flags `f`, and whose deletions do not fail with the news that there is nothing to delete: it is
`Quiet`, and if it asks for another pass, the stores are `Settled`. So what `runPass_quiet` says
holds of the rehearsals that tests are made of. -/
theorem pass_quiet (config : PassConfig) (key : ObjectKey) (k : Clock)
    (hdomains : w.domains.frozen = none) (hingresses : w.ingresses.frozen = none)
    (hduring : ∀ c, (w.checks c).during = [])
    (hchecks : ∀ c b, (w.checks c).result = .ok b → b = f.flag c)
    (hdelete : ∀ e, w.ingresses.MayFail .delete e → e.isNotFound = false)
    (hvalid : w.stores.Valid) :
    let x := (pass config key).run (k, w)
    Quiet key f w.stores x.2.2.stores ∧ ∀ outcome, x.1 = .ok outcome →
      (outcome = .gone ∧ w.domains.store.get key = none ∧ Same w.stores x.2.2.stores) ∨
        (outcome = .requeue (config.intervals.next f) f.converged ∧
          Settled key f x.2.2.stores) := by
  have hw : Plays w w w.stores := ⟨rfl, hdomains, hingresses, List.Subset.refl _,
    List.Subset.refl _, hduring, fun _ => rfl⟩
  obtain ⟨t, ⟨rfl, -⟩, hquiet, hok⟩ :=
    runPass_quiet (environment_obeys hchecks) (fun _ => hdelete) config key k hw hvalid
  exact ⟨hquiet, hok⟩

end Rehearsal

end MailDomain
