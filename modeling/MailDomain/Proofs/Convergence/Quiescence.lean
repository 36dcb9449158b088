import MailDomain.Proofs.Convergence.Endings

/-!
# Passes come to rest

However many passes are made for one domain, and whatever fails or is stopped on the way, together
they write the stats ingress at most once and the status at most once, as long as nobody else writes
and the checks that are answered are always answered in the same way. After a pass that asks for
another one nothing is written any more.

## Main definitions

* `MemoryStore.SettledBy` — a store was left alone, or settled by one write.
* `Stores.Quiet`, `Stores.Settled` — what passes do to both stores, and that nothing is left to do.
* `Stores.passes` — some passes for one domain, each with its fate.

## Main results

* `Stores.runPass_quiet`, `Stores.passes_quiet` — one pass, wherever it is carried out, and any
  number of passes write each store at most once.
* `Stores.passes_settled` — passes over settled stores write nothing.
* `Stores.passes_quiescent` — both, for stores that clients may have written.
-/

set_option relaxedAutoImplicit false
set_option autoImplicit false

namespace MailDomain

open Protocol MemoryStore

namespace MemoryStore

variable {Spec Status : Type} {P : MemoryStore Spec Status → Prop}
  {s t u : MemoryStore Spec Status}

/-- The store `s` was left alone, or it did not satisfy `P`, and one counted write has made it a
store `t` that does. -/
def SettledBy (P : MemoryStore Spec Status → Prop) (s t : MemoryStore Spec Status) : Prop :=
  t = s ∨ (¬ P s ∧ P t ∧ t.writes.total = s.writes.total + 1)

/-- A store that nothing happens to is left alone. -/
lemma SettledBy.refl (s : MemoryStore Spec Status) : SettledBy P s s := .inl rfl

/-- A store that satisfies `P` already is left alone. -/
lemma SettledBy.eq_of (h : SettledBy P s t) (hs : P s) : t = s := by
  rcases h with h | ⟨hnot, -⟩
  · exact h
  · exact absurd hs hnot

/-- What is settled in two steps took one write at most: after the first write `P` holds, and the
second step leaves the store alone. -/
lemma SettledBy.trans (h : SettledBy P s t) (h' : SettledBy P t u) : SettledBy P s u := by
  rcases h with rfl | ⟨hnot, ht, htotal⟩
  · exact h'
  · rw [h'.eq_of ht]
    exact .inr ⟨hnot, ht, htotal⟩

/-- The count of writes grows by at most one. -/
lemma SettledBy.total_le (h : SettledBy P s t) : t.writes.total ≤ s.writes.total + 1 := by
  rcases h with rfl | ⟨-, -, htotal⟩
  · omega
  · omega

end MemoryStore

/-! ### The writing stages -/

section Stages

variable {key : ObjectKey} {d : Domain} {f : DnsStatus}

/-- The stage of the ingress makes at most one write, towards `StatsSettled`, and after it that
holds. -/
lemma IngressStage.settledBy {s t : IngressStore} (h : IngressStage key f s t) :
    SettledBy (StatsSettled key f) s t ∧ StatsSettled key f t := by
  cases h with
  | kept hsettled => exact ⟨.refl s, hsettled⟩
  | @removed i hstats hi hpresent =>
    suffices hsettled : StatsSettled key f _ by
      refine ⟨.inr ⟨?_, hsettled, ?_⟩, hsettled⟩
      · simp [StatsSettled, hi, hstats, hpresent]
      · simp only [WriteCounts.total]
        omega
    rw [StatsSettled, MemoryStore.get, Table.get?_erase_self]
    exact hstats
  | @created i hstats hi hkey =>
    suffices hsettled : StatsSettled key f _ by
      refine ⟨.inr ⟨?_, hsettled, ?_⟩, hsettled⟩
      · simp [StatsSettled, hi, hstats]
      · simp only [WriteCounts.total]
        omega
    rw [StatsSettled, MemoryStore.get, put, Table.get?_insert_self]
    exact .inl hstats

/-- The stage of the ingress leaves a valid store valid. -/
lemma IngressStage.valid {s t : IngressStore} (h : IngressStage key f s t) (hs : s.Valid) :
    t.Valid := by
  cases h with
  | kept _ => exact hs
  | @removed i _ hi _ =>
    exact Mutation.Makes.valid (c := .removed (StatsIngress.keyOf key)) ⟨rfl, rfl⟩ ⟨i, hi⟩ hs
  | @created i _ _ hkey =>
    exact Mutation.Makes.valid (c := .added (StatsIngress.keyOf key) i) ⟨rfl, rfl⟩ hkey hs

/-- The stage of the status makes at most one write, towards `StatusSettled`, and after it that
holds. -/
lemma StatusStage.settledBy {s t : DomainStore} (h : StatusStage key d f s t)
    (hd : s.get key = some d) :
    SettledBy (StatusSettled key f) s t ∧ (t.get key).isSome ∧ StatusSettled key f t := by
  cases h with
  | kept hstatus =>
    refine ⟨.refl s, by rw [hd, Option.isSome_some], fun d' hd' => ?_⟩
    cases hd.symm.trans hd'
    exact hstatus
  | written hstatus =>
    have hget : (s.put key (judged d f)).get key = some (stamped (judged d f) (s.version + 1)) :=
      Table.get?_insert_self _ _ _
    -- what is stored now has the status that was judged, whatever it had before
    have hsettled : StatusSettled key f { s.put key (judged d f) with
        writes := { s.writes with statusUpdates := s.writes.statusUpdates + 1 } } := by
      intro d' hd'
      cases hget.symm.trans hd'
      rfl
    refine ⟨.inr ⟨fun hsettled => hstatus (hsettled d hd), hsettled, rfl⟩, ?_, hsettled⟩
    exact Option.isSome_of_eq_some hget

/-- The stage of the status leaves a valid store valid. -/
lemma StatusStage.valid {s t : DomainStore} (h : StatusStage key d f s t)
    (hd : s.get key = some d) (hs : s.Valid) : t.Valid := by
  cases h with
  | kept _ => exact hs
  | written _ =>
    have hkey : d.key? = some key := hs.key_eq hd
    exact Mutation.Makes.valid (c := .rewritten key (judged d f)) ⟨rfl, rfl⟩
      ⟨d, hd, .inl hkey, rfl⟩ hs

end Stages

/-- A fate lets no deletion fail with the news that there is nothing to delete. A pass would take
that for a success and go on without the ingress being gone. -/
def Fate.Honest (fate : Fate) : Prop :=
  ∀ i e, fate.failure (.deleteIngress i) = some e → e.isNotFound = false

/-- Calls that take no time, of which the status write fails with `error` if there is one. -/
def Fate.ofStatusWrite (error : Option StoreError) : Fate where
  delay _ := .zero
  failure
    | .writeStatus _ => error
    | _ => none

/-- By `Fate.ofStatusWrite` no deletion fails at all. -/
lemma Fate.honest_ofStatusWrite (error : Option StoreError) : (ofStatusWrite error).Honest := by
  intro i e he
  cases he

namespace Stores

variable {config : PassConfig} {key : ObjectKey} {f : DnsStatus} {s t u : Stores}

/-- The checker that gives the flags `f` to every domain. -/
def always (f : DnsStatus) : Checker := fun c _ => .ok (f.flag c)

/-- If `always f` gives a domain the flags `g`, then `g` is `f`. -/
lemma eq_of_always {g : DnsStatus} {d : Domain} (h : ∀ c, always f c d = .ok (g.flag c)) :
    g = f := by
  have hflag : ∀ c, f.flag c = g.flag c := fun c => Except.ok.inj (h c)
  cases f
  cases g
  exact DnsStatus.mk.injEq .. ▸ ⟨(hflag .dkim).symm, (hflag .stats).symm, (hflag .spf).symm⟩

/-- Both stores are valid, as stores that clients wrote are. -/
structure Valid (s : Stores) : Prop where
  domains : s.domains.Valid
  ingresses : s.ingresses.Valid

/-- Each of the stores was left alone, or settled by one write, and both are valid afterwards. Other
than `Finished`, this is kept when passes follow one another. -/
structure Quiet (key : ObjectKey) (f : DnsStatus) (s t : Stores) : Prop where
  domains : SettledBy (StatusSettled key f) s.domains t.domains
  ingresses : SettledBy (StatsSettled key f) s.ingresses t.ingresses
  valid : t.Valid

/-- A domain is stored under `key`, and there is nothing to do about its status or its ingress, its
flags being `f`. -/
structure Settled (key : ObjectKey) (f : DnsStatus) (s : Stores) : Prop where
  stored : (s.domains.get key).isSome
  status : StatusSettled key f s.domains
  stats : StatsSettled key f s.ingresses

/-- Doing nothing is `Quiet`. -/
lemma Quiet.refl (hs : s.Valid) : Quiet key f s s := ⟨.refl _, .refl _, hs⟩

/-- What is `Quiet` twice is `Quiet`, by `SettledBy.trans` for each store. -/
lemma Quiet.trans (h : Quiet key f s t) (h' : Quiet key f t u) : Quiet key f s u :=
  ⟨h.domains.trans h'.domains, h.ingresses.trans h'.ingresses, h'.valid⟩

/-- Stores that stay the same are left alone. -/
lemma Quiet.of_same (hs : s.Valid) (h : Same s t) : Quiet key f s t := by
  obtain ⟨hd, hi⟩ := h
  exact ⟨.inl hd, .inl hi, ⟨hd ▸ hs.domains, hi ▸ hs.ingresses⟩⟩

/-- Stores that are `Settled` are left alone by what is `Quiet`. -/
lemma Quiet.same (h : Quiet key f s t) (hs : Settled key f s) : Same s t :=
  ⟨h.domains.eq_of hs.status, h.ingresses.eq_of hs.stats⟩

/-- Stores that stay the same stay `Settled`. -/
lemma Settled.of_same (hs : Settled key f s) (h : Same s t) : Settled key f t := by
  obtain ⟨hd, hi⟩ := h
  exact ⟨hd ▸ hs.stored, hd ▸ hs.status, hi ▸ hs.stats⟩

/-- A pass that leaves its stores `HalfDone`, and the store of domains as it was, is `Quiet`. -/
lemma HalfDone.quiet {checker : Checker} {d : Domain} (hs : s.Valid)
    (h : HalfDone checker key d f s t) (hd : t.domains = s.domains) : Quiet key f s t :=
  ⟨.inl hd, h.ingress.settledBy.1, hd ▸ hs.domains, h.ingress.valid hs.ingresses⟩

/-- A pass that leaves its stores `Finished` is `Quiet`, and leaves them `Settled`. -/
lemma Finished.quiet {checker : Checker} {d : Domain} (hs : s.Valid)
    (h : Finished checker key d f s t) : Quiet key f s t ∧ Settled key f t := by
  obtain ⟨hdomains, hstored, hstatus⟩ := h.status.settledBy h.stored
  obtain ⟨hingresses, hstats⟩ := h.ingress.settledBy
  exact ⟨⟨hdomains, hingresses, h.status.valid h.stored hs.domains, h.ingress.valid hs.ingresses⟩,
    hstored, hstatus, hstats⟩

/-! ### One pass -/

/-- One pass, wherever it is carried out and whatever fails or is stopped, as long as the checks
that are answered have the flags `f`: it is `Quiet`, and if it asks for another one, the stores are
`Settled`.

**Proof sketch.** The pass makes a story which its protocol allows up to the end or to the call at
which it is stopped. By `leads_passEnds_ok`, `leads_passEnds_error` and `leads_passDoes` such a
story did nothing, or left the stores `HalfDone` or `Finished`, and each of these is quiet. -/
theorem runPass_quiet {τ : Type} {env : Environment τ} {R : τ → Stores → Prop}
    {mayFail : (c : Call) → c.Failure → Prop} (henv : env.Obeys (service (always f) mayFail) R)
    (hdelete : ∀ i e, mayFail (.deleteIngress i) e → e.isNotFound = false) (config : PassConfig)
    (key : ObjectKey) (k : Clock) {w : τ} (hw : R w s) (hs : s.Valid) :
    let x := (runPass env config key).run (k, w)
    ∃ t, R x.2.2 t ∧ Quiet key f s t ∧ ∀ outcome, x.1 = .ok outcome →
      (outcome = .gone ∧ s.domains.get key = none ∧ Same s t) ∨
        (outcome = .requeue (config.intervals.next f) f.converged ∧ Settled key f t) := by
  intro x
  obtain ⟨h, q, t, hfollows, hleads, ht, hq⟩ := henv.runPass_leads config key k hw
  have hupholds := (reconcile_upholds config key).of_follows hfollows
  refine ⟨t, ht, ?_⟩
  rcases hq with ⟨r, rfl, hr⟩ | ⟨c, next, rfl, hr⟩
  · -- the pass ended, well or with a failure
    have hends : PassEnds config key h r := hupholds
    change x.1 = r at hr
    rw [hr]
    cases r with
    | ok outcome =>
      rcases leads_passEnds_ok hends hleads hs.domains hs.ingresses hdelete with
        ⟨hgone, rfl, hsame⟩ | ⟨d, g, hfinished, rfl⟩
      · refine ⟨.of_same hs hsame, fun outcome ho => .inl ?_⟩
        cases ho
        exact ⟨rfl, hgone, hsame⟩
      · obtain rfl := eq_of_always hfinished.flags
        refine ⟨(hfinished.quiet hs).1, fun outcome ho => .inr ?_⟩
        cases ho
        exact ⟨rfl, (hfinished.quiet hs).2⟩
    | error e =>
      refine ⟨?_, nofun⟩
      rcases leads_passEnds_error hends hleads hs.ingresses hdelete with hsame | ⟨d, g, hhalf, hd⟩
      · exact .of_same hs hsame
      · obtain rfl := eq_of_always hhalf.flags
        exact hhalf.quiet hs hd
  · -- the pass was stopped at the call `c`, which has no effect
    have hdoes : PassDoes config key h (.ask c) := hupholds.1
    change x.1 = _ at hr
    rw [hr]
    refine ⟨?_, nofun⟩
    rcases leads_passDoes hdoes hleads hs.ingresses hdelete with hsame | ⟨d, g, hhalf, hd⟩
    · exact .of_same hs hsame
    · obtain rfl := eq_of_always hhalf.flags
      exact hhalf.quiet hs hd

/-- The form of `runPass_quiet` for the environment of an honest fate. -/
lemma runPass_quiet_of_honest (config : PassConfig) (key : ObjectKey) (f : DnsStatus) {fate : Fate}
    (hfate : fate.Honest) (k : Clock) (hs : s.Valid) :
    let x := (runPass (environment (always f) fate) config key).run (k, s)
    Quiet key f s x.2.2 ∧ ∀ outcome, x.1 = .ok outcome →
      (outcome = .gone ∧ s.domains.get key = none ∧ Same s x.2.2) ∨
        (outcome = .requeue (config.intervals.next f) f.converged ∧ Settled key f x.2.2) := by
  obtain ⟨t, rfl, hquiet, hok⟩ :=
    runPass_quiet (environment_obeys (always f) fate) hfate config key k rfl hs
  exact ⟨hquiet, hok⟩

/-- A pass over stores that are `Settled` leaves them the same, and if it does not fail, it asks for
another one after the interval of the flags `f`. -/
lemma runPass_settled (config : PassConfig) {fate : Fate} (hfate : fate.Honest) (k : Clock)
    (hs : s.Valid) (hsettled : Settled key f s) :
    let x := (runPass (environment (always f) fate) config key).run (k, s)
    Same s x.2.2 ∧ ∀ outcome, x.1 = .ok outcome →
      outcome = .requeue (config.intervals.next f) f.converged := by
  intro x
  obtain ⟨hquiet, hok⟩ := runPass_quiet_of_honest config key f hfate k hs
  refine ⟨hquiet.same hsettled, fun outcome ho => ?_⟩
  rcases hok outcome ho with ⟨-, hgone, -⟩ | ⟨heq, -⟩
  · have hstored := hsettled.stored
    rw [hgone] at hstored
    cases hstored
  · exact heq

/-! ### Any number of passes -/

/-- Passes for the domain under `key`, one after the other, each with its fate. The checks that do
not fail are always answered with the flags `f`. -/
def passes (config : PassConfig) (key : ObjectKey) (f : DnsStatus) (fates : List Fate) :
    StateM (Clock × Stores) (List (Except PassError Outcome)) :=
  fates.mapM fun fate => runPass (environment (always f) fate) config key

/-- No pass leaves the time and the stores as they are. -/
lemma run_passes_nil (w : Clock × Stores) : (passes config key f []).run w = ([], w) := rfl

/-- The first pass is followed by the others, which go on from the time and the stores that it
leaves. -/
lemma run_passes_cons (fate : Fate) (fates : List Fate) (w : Clock × Stores) :
    (passes config key f (fate :: fates)).run w =
      let x := (runPass (environment (always f) fate) config key).run w
      let y := (passes config key f fates).run x.2
      (x.1 :: y.1, y.2) := by
  rw [passes, List.mapM_cons]
  rfl

/-- Any number of passes with honest fates is `Quiet`.

**Proof sketch.** Induction on the passes, by `runPass_quiet_of_honest` for each and
`Quiet.trans`. -/
theorem passes_quiet {fates : List Fate} (hfates : ∀ fate ∈ fates, fate.Honest) (k : Clock)
    (hs : s.Valid) : Quiet key f s ((passes config key f fates).run (k, s)).2.2 := by
  induction fates generalizing k s with
  | nil =>
    rw [run_passes_nil]
    exact .refl hs
  | cons fate fates ih =>
    rw [List.forall_mem_cons] at hfates
    obtain ⟨hquiet, -⟩ := runPass_quiet_of_honest config key f hfates.1 k hs
    rw [run_passes_cons]
    exact hquiet.trans (ih hfates.2 _ hquiet.valid)

/-- Passes over stores that are `Settled` leave them the same, and those that do not fail all end in
the same way.

**Proof sketch.** Induction on the passes, by `runPass_settled`: one that does nothing leaves
settled stores to the next. -/
theorem passes_settled (config : PassConfig) {fates : List Fate}
    (hfates : ∀ fate ∈ fates, fate.Honest) (k : Clock) (hs : s.Valid) (hsettled : Settled key f s) :
    let y := (passes config key f fates).run (k, s)
    Same s y.2.2 ∧ ∀ outcome, .ok outcome ∈ y.1 →
      outcome = .requeue (config.intervals.next f) f.converged := by
  induction fates generalizing k s with
  | nil =>
    rw [run_passes_nil]
    exact ⟨⟨rfl, rfl⟩, by simp⟩
  | cons fate fates ih =>
    rw [List.forall_mem_cons] at hfates
    obtain ⟨hquiet, -⟩ := runPass_quiet_of_honest config key f hfates.1 k hs
    obtain ⟨hsame, hok⟩ := runPass_settled config hfates.1 k hs hsettled
    rw [run_passes_cons]
    obtain ⟨hrest, hoks⟩ := ih hfates.2 _ hquiet.valid (hsettled.of_same hsame)
    refine ⟨hsame.trans hrest, fun outcome ho => ?_⟩
    rcases List.mem_cons.1 ho with ho | ho
    · exact hok outcome ho.symm
    · exact hoks outcome ho

/-- **Passes come to rest.** Let any number of passes be made for one domain over any two stores
that clients may have written, as long as nobody else writes and the checks that are answered have
the flags `f`. Whatever fails and whenever a pass is stopped, all passes together make at most one
write to each of the stores. After one that asks for another pass none makes a write, and all that
do not fail end as that one did.

**Proof sketch.** By `passes_quiet` all passes together are `Quiet`, and `SettledBy.total_le` bounds
the writes. A pass that asks for another one leaves the stores `Settled`
(`runPass_quiet_of_honest`), over which the later ones write nothing (`passes_settled`). -/
theorem passes_quiescent (ws₁ : List (Write DomainSpec DomainStatus))
    (ws₂ : List (Write (Option IngressSpec) IngressStatus)) (m : Registry) (k : Clock)
    (config : PassConfig) (key : ObjectKey) (f : DnsStatus) (fates : List Fate)
    (hfates : ∀ fate ∈ fates, fate.Honest) :
    let s : Stores := ⟨after ws₁, after ws₂, m⟩
    let t := ((passes config key f fates).run (k, s)).2.2
    t.ingresses.writes.total ≤ s.ingresses.writes.total + 1 ∧
      t.domains.writes.total ≤ s.domains.writes.total + 1 ∧
      ∀ before fate later delay converged, fates = before ++ fate :: later →
        let w := ((passes config key f before).run (k, s)).2
        let x := (runPass (environment (always f) fate) config key).run w
        let y := (passes config key f later).run x.2
        x.1 = .ok (.requeue delay converged) →
          y.2.2.domains = x.2.2.domains ∧ y.2.2.ingresses = x.2.2.ingresses ∧
            ∀ outcome, .ok outcome ∈ y.1 → outcome = .requeue delay converged := by
  intro s t
  have hs : s.Valid := ⟨valid_after ws₁, valid_after ws₂⟩
  have hquiet : Quiet key f s t := passes_quiet hfates k hs
  refine ⟨hquiet.ingresses.total_le, hquiet.domains.total_le, ?_⟩
  rintro before fate later delay converged rfl w x y hx
  rw [List.forall_mem_append, List.forall_mem_cons] at hfates
  obtain ⟨hbefore, hfate, hlater⟩ := hfates
  have hw : w.2.Valid := (passes_quiet hbefore k hs).valid
  obtain ⟨hpass, hok⟩ := runPass_quiet_of_honest config key f hfate w.1 hw
  rcases hok _ hx with ⟨hne, -⟩ | ⟨heq, hsettled⟩
  · cases hne
  · obtain ⟨⟨hd, hi⟩, hoks⟩ := passes_settled config hlater x.2.1 hpass.valid hsettled
    rw [heq]
    exact ⟨hd, hi, hoks⟩

/-- A status write fails in the first of two passes, and the second makes up for it without another
write of the ingress. -/
theorem passes_quiescent_of_failed_write :
    let key : ObjectKey := ⟨"mail", "acme"⟩
    let d : Domain := {
      metadata := { name := some "acme", ns := some "mail", generation := some 1 }
      spec := { baseDomain := "acme.example", dkim := ⟨"s1", "key"⟩ } }
    let raced : StoreError := .conflict "Domain" key "raced"
    let fates : List Fate := [.ofStatusWrite (some raced), .ofStatusWrite none]
    let s : Stores := ⟨after [.insert d], after [], {}⟩
    let y := (passes {} key ⟨true, true, true⟩ fates).run ({}, s)
    y.1 = [.error (.store key .persistStatus raced), .ok (.requeue (.ofSecs 3600) true)] ∧
      (∀ fate ∈ fates, fate.Honest) ∧
      y.2.2.ingresses.writes.total ≤ s.ingresses.writes.total + 1 ∧
      y.2.2.domains.writes.total ≤ s.domains.writes.total + 1 := by
  have hfates : ∀ fate ∈ [Fate.ofStatusWrite (some (.conflict "Domain" ⟨"mail", "acme"⟩ "raced")),
      .ofStatusWrite none], fate.Honest := by
    intro fate hfate
    rcases List.mem_pair.1 hfate with rfl | rfl
    · exact Fate.honest_ofStatusWrite _
    · exact Fate.honest_ofStatusWrite _
  refine ⟨by decide +kernel, hfates, ?_, ?_⟩
  · exact (passes_quiescent _ _ _ _ _ _ _ _ hfates).1
  · exact (passes_quiescent _ _ _ _ _ _ _ _ hfates).2.1

end Stores

end MailDomain
