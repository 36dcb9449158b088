import MailDomain.Proofs.Metrics.Balance

/-!
# The metrics of a controller at work

The controller attends to any domains, one after the other, over two stores in memory that hold
anything. Calls of its passes take time and fail, and before each of them others may make of the
stores what they like. A ledger keeps apart what the passes themselves wrote to the ingresses.

## Main definitions

* `Round` — a domain to be attended to, and what befalls the pass.
* `Ledger` — two stores, and the writes to the ingresses that passes made.
* `Ledger.environment` — the stores among others, as an environment.
* `Ledger.rounds`, `Ledger.results` — the controller at work, and how the passes ended.
* `Ledger.Accounted` — the metrics account for everything that was done.

## Main results

* `Ledger.Since.respond` — a call that is answered is accounted for by its answer.
* `Ledger.rounds_accounted` — the metrics account for every pass.
-/

set_option relaxedAutoImplicit false
set_option autoImplicit false

namespace MailDomain

open Protocol Registry

/-- A domain that the controller attends to, and what befalls the pass: the `checker` that answers
its checks, the `fate` of its calls, and what others make of the stores `meanwhile`, before each
call has its effect. -/
structure Round where
  domain : Domain
  checker : Checker
  fate : Fate
  meanwhile : Call → DomainStore × IngressStore → DomainStore × IngressStore

/-- Two stores with what was counted, and apart from them the writes to the ingresses that were the
passes' own. -/
structure Ledger where
  stores : Stores
  own : WriteCounts := {}

namespace Ledger

/-- Others make of the two stores whatever `v.meanwhile` says. Neither the metrics nor the passes'
own writes change by it. -/
def disturb (v : Round) (c : Call) (w : Ledger) : Ledger :=
  let x := v.meanwhile c (w.stores.domains, w.stores.ingresses)
  { w with stores := { w.stores with domains := x.1, ingresses := x.2 } }

/-- The call `c` meets its fate. What the store of ingresses counts as created and deleted by it is
added to the pass's own writes. -/
def respond (v : Round) (c : Call) (w : Ledger) : c.Answer × Ledger :=
  let x := w.stores.respond v.checker v.fate c
  let before := w.stores.ingresses.writes
  let after := x.2.ingresses.writes
  (x.1, {
    stores := x.2
    own := { w.own with
      creates := w.own.creates + (after.creates - before.creates)
      deletes := w.own.deletes + (after.deletes - before.deletes) } })

/-- An observation is recorded in the metrics. -/
def note (o : Observation) (w : Ledger) : Ledger := { w with stores := w.stores.note o }

/-- The stores among others as an environment: a call takes its time, others make of the stores what
they like, and then it meets its fate. -/
def environment (v : Round) : Environment Ledger where
  answer c := do
    Timed.wait (v.fate.delay c)
    Timed.change (disturb v c)
    Timed.act (respond v c)
  observed o := Timed.change (note o)

/-- The controller attends to the domains of `vs`, one after the other, and keeps a journal of all
that was done. -/
def rounds (config : PassConfig) (vs : List Round) :
    StateM (Clock × Journal Ledger) (List Action) :=
  vs.mapM fun v => Controller.attend (environment v).journalled config v.domain

/-- How the passes end that the controller makes in `rounds`. There is none for a domain without a
key. -/
def results (config : PassConfig) :
    List Round → Clock × Journal Ledger → List (Except PassError Outcome)
  | [], _ => []
  | v :: vs, x =>
    let y := (Controller.attend (environment v).journalled config v.domain).run x
    let rest := results config vs y.2
    match v.domain.key? with
    | none => rest
    | some key => ((runPass (environment v).journalled config key).run x).1 :: rest

/-! ### Calls -/

section Calls

variable {v : Round} {k : Clock} {c : Call} {w w₀ : Ledger} {h : List Deed}

/-- A call in `environment` meets its fate after what others did, or there is no time for it, and
then nothing happens. -/
lemma run_answer_cases {a : Option c.Answer} {k' : Clock} {w' : Ledger}
    (hrun : ((environment v).answer c).run (k, w) = (a, k', w')) :
    a = none ∧ w' = w ∨
      a = some (respond v c (disturb v c w)).1 ∧ w' = (respond v c (disturb v c w)).2 := by
  rcases Timed.run_wait_bind_cases hrun with hlate | hrun
  · exact .inl hlate
  · cases hrun
    exact .inr ⟨rfl, rfl⟩

end Calls

end Ledger

/-- A call that is refused from the start is no creation and no deletion that was done. -/
lemma Call.countP_failed (c : Call) (e : c.Failure) :
    [Deed.asked c (c.failed e)].countP Deed.isCreation = 0 ∧
      [Deed.asked c (c.failed e)].countP Deed.isDeletion = 0 := by
  cases c <;> exact ⟨rfl, rfl⟩

/-- The store of ingresses counts a call as a creation or a deletion exactly if the answer makes it
a deed that `isCreation` or `isDeletion`. -/
lemma Stores.writes_answer (checker : Checker) (c : Call) (s : Stores) :
    let x := s.answer checker c
    x.2.ingresses.writes.creates = s.ingresses.writes.creates +
        [Deed.asked c x.1].countP Deed.isCreation ∧
      x.2.ingresses.writes.deletes = s.ingresses.writes.deletes +
        [Deed.asked c x.1].countP Deed.isDeletion := by
  cases c with
  | createIngress i =>
    rcases h : s.ingresses.create i with ⟨e | ⟨⟨⟩⟩, t⟩
    · obtain rfl := MemoryStore.create_error h
      simp [answer, h, Deed.isCreation, Deed.isDeletion, Except.isOk, Except.toBool]
    · obtain ⟨key, -, -, rfl⟩ := MemoryStore.create_ok h
      simp [answer, h, Deed.isCreation, Deed.isDeletion, Except.isOk, Except.toBool]
  | deleteIngress i =>
    rcases h : s.ingresses.delete i with ⟨e | ⟨⟨⟩⟩, t⟩
    · obtain rfl := MemoryStore.delete_error h
      simp [answer, h, Deed.isCreation, Deed.isDeletion, Except.isOk, Except.toBool]
    · obtain ⟨key, old, -, -, rfl⟩ := MemoryStore.delete_ok h
      simp [answer, h, Deed.isCreation, Deed.isDeletion, Except.isOk, Except.toBool]
  | fetchDomain _ | check _ _ | fetchIngress _ | writeStatus _ => exact ⟨rfl, rfl⟩

/-- The same of a call that meets its fate. The metrics do not change by it. -/
lemma Stores.respond_spec (checker : Checker) (fate : Fate) (c : Call) (s : Stores) :
    let x := s.respond checker fate c
    x.2.metrics = s.metrics ∧
      x.2.ingresses.writes.creates = s.ingresses.writes.creates +
        [Deed.asked c x.1].countP Deed.isCreation ∧
      x.2.ingresses.writes.deletes = s.ingresses.writes.deletes +
        [Deed.asked c x.1].countP Deed.isDeletion := by
  cases hfate : fate.failure c with
  | some e =>
    obtain ⟨hcreation, hdeletion⟩ := c.countP_failed e
    simp only [respond, hfate, hcreation, hdeletion, Nat.add_zero, and_self]
  | none =>
    simp only [respond, hfate]
    exact ⟨by cases c <;> rfl, writes_answer checker c s⟩

namespace Ledger

variable {config : PassConfig} {key : ObjectKey} {v : Round} {k : Clock} {c : Call}
  {w w₀ : Ledger} {h : List Deed}

/-- What the ledger `w` shows after the story `h` of a pass that began with `w₀`: the metrics have
its observations in addition, and the passes' own writes its creations and deletions. -/
structure Since (w₀ : Ledger) (h : List Deed) (w : Ledger) : Prop where
  metrics : w.stores.metrics = w₀.stores.metrics.recordAll (observationsOf h)
  creates : w.own.creates = w₀.own.creates + h.countP Deed.isCreation
  deletes : w.own.deletes = w₀.own.deletes + h.countP Deed.isDeletion

/-- A call that is answered is accounted for by its answer, whatever others did before it. -/
theorem Since.respond (hw : Since w₀ h w) (v : Round) (c : Call) :
    let x := Ledger.respond v c (disturb v c w)
    Since w₀ (h ++ [.asked c x.1]) x.2 := by
  obtain ⟨hmetrics, hcreates, hdeletes⟩ :=
    (disturb v c w).stores.respond_spec v.checker v.fate c
  refine ⟨?_, ?_, ?_⟩
  · rw [observationsOf_append]
    exact hmetrics.trans (hw.metrics.trans (congrArg _ (List.append_nil _).symm))
  · rw [List.countP_append, ← Nat.add_assoc, ← hw.creates]
    simp only [Ledger.respond, hcreates, Nat.add_sub_cancel_left]
    rfl
  · rw [List.countP_append, ← Nat.add_assoc, ← hw.deletes]
    simp only [Ledger.respond, hdeletes, Nat.add_sub_cancel_left]
    rfl

/-- An observation is accounted for by being recorded. -/
lemma Since.note (hw : Since w₀ h w) (o : Observation) :
    Since w₀ (h ++ [.noted o]) (w.note o) where
  metrics := by
    change w.stores.metrics.record o = _
    rw [hw.metrics, observationsOf_append, recordAll, recordAll, List.foldl_append]
    rfl
  creates := by
    rw [List.countP_append]
    exact hw.creates
  deletes := by
    rw [List.countP_append]
    exact hw.deletes

/-- The environment keeps `Since` at every call and every observation, whatever the pass is allowed
to do. -/
lemma environment_keeps (v : Round) (w₀ : Ledger) (does : List Deed → Move → Prop) :
    (environment v).Keeps does (Since w₀) fun h _ => Since w₀ h where
  answered {h c k w a k' w'} _ hw hrun := by
    obtain ⟨hnone, -⟩ | ⟨ha, rfl⟩ := run_answer_cases hrun
    · cases hnone
    · cases ha
      exact hw.respond v c
  stopped {h c k w k' w'} _ hw hrun := by
    obtain ⟨-, rfl⟩ | ⟨ha, -⟩ := run_answer_cases hrun
    · exact hw
    · cases ha
  observed {h o} k {w} _ hw := ⟨_, rfl, hw.note o⟩

/-! ### Rounds -/

/-- The metrics balance with a number of `passes`, of which `gone` found no domain, and with all
that these did by their `story` and their own writes. -/
structure Accounted (w : Journal Ledger) (passes gone : Nat) : Prop where
  balanced : Balanced w.world.stores.metrics.count
    (w.world.stores.metrics.distribution Kind.domain.name).count passes gone
    w.world.own.creates w.world.own.deletes (outcomes w.story)
  /-- What passes wrote is what their calls were answered to have done. -/
  creates : w.world.own.creates = w.story.countP Deed.isCreation
  deletes : w.world.own.deletes = w.story.countP Deed.isDeletion

/-- Making some observations records them in the metrics, and changes nothing else. -/
lemma foldl_note (os : List Observation) (w : Ledger) :
    os.foldl (fun w o => note o w) w =
      { w with stores := { w.stores with metrics := w.stores.metrics.recordAll os } } := by
  induction os generalizing w with
  | nil => rfl
  | cons o os ih => exact ih (note o w)

/-- What the controller notes after a pass is no call, and does not count as one. -/
lemma countP_noted {p : Deed → Bool} (hp : ∀ o, p (.noted o) = false) (os : List Observation) :
    (os.map Deed.noted).countP p = 0 := by
  rw [List.countP_map, List.countP_eq_zero]
  exact fun o _ => ne_true_of_eq_false (hp o)

/-- **Attending to a domain is accounted for**, as one more pass.

**Proof sketch.** By `run_attend_journalled` and `environment_keeps` the pass is accounted for by
its story, as far as it gets, and by `PassHalts.balanced` that balances with what the controller
counts after it. What balances before and in the pass balances after it, by `Balanced.add`. -/
theorem Accounted.attend {config : PassConfig} {v : Round} {key : ObjectKey}
    {x : Clock × Journal Ledger} {passes gone : Nat} (hx : Accounted x.2 passes gone)
    (hkey : v.domain.key? = some key) :
    let r := ((runPass (environment v).journalled config key).run x).1
    Accounted ((Controller.attend (environment v).journalled config v.domain).run x).2.2
      (passes + 1) (gone + if r = .ok .gone then 1 else 0) := by
  obtain ⟨k, w⟩ := x
  have hw : Accounted w passes gone := hx
  intro r
  have hcounts : (environment v).Counts note := fun _ _ _ => rfl
  obtain ⟨h, elapsed, u, hhalts, hu, -, hworld⟩ := Controller.run_attend_journalled hcounts
    (environment_keeps v w.world (PassDoes config key)) hkey k (w := w) ⟨rfl, rfl, rfl⟩
  let os := observationsOf h ++ Controller.report elapsed r
  -- what the journal held before, and what the pass and the report add to it
  have hbalanced := hw.balanced.add (hhalts.balanced elapsed)
  have hmetrics : u.stores.metrics.recordAll (Controller.report elapsed r) =
      w.world.stores.metrics.recordAll os := by
    rw [hu.metrics, recordAll, recordAll, recordAll, List.foldl_append]
  have hcount : (w.world.stores.metrics.recordAll os).count =
      fun s => w.world.stores.metrics.count s + hits os s :=
    funext fun s => count_recordAll _ os s
  have hcreates : u.own.creates = w.world.own.creates + h.countP Deed.isCreation := hu.creates
  have hdeletes : u.own.deletes = w.world.own.deletes + h.countP Deed.isDeletion := hu.deletes
  have hstory : ∀ p : Deed → Bool, (∀ o, p (.noted o) = false) →
      (w.story ++ (h ++ (Controller.report elapsed r).map Deed.noted)).countP p =
        w.story.countP p + h.countP p := by
    intro p hp
    rw [List.countP_append, List.countP_append, countP_noted hp, Nat.add_zero]
  have houtcomes : outcomes (w.story ++ (h ++ (Controller.report elapsed r).map Deed.noted)) =
      fun c o => outcomes w.story c o + outcomes h c o :=
    funext fun c => funext fun o => hstory (fun x => x.outcome? = some (c, o)) fun _ => rfl
  rw [hworld, foldl_note]
  refine ⟨?_, ?_, ?_⟩
  · dsimp only
    rw [hmetrics, hcount, samples_recordAll, hcreates, hdeletes, houtcomes]
    exact hbalanced
  · rw [hstory Deed.isCreation fun _ => rfl, ← hw.creates]
    exact hcreates
  · rw [hstory Deed.isDeletion fun _ => rfl, ← hw.deletes]
    exact hdeletes

/-- Of the `rounds`, the first is followed by the others, on what it leaves. -/
lemma run_rounds_cons (config : PassConfig) (v : Round) (vs : List Round)
    (x : Clock × Journal Ledger) :
    (rounds config (v :: vs)).run x =
      let y := (Controller.attend (environment v).journalled config v.domain).run x
      let z := (rounds config vs).run y.2
      (y.1 :: z.1, z.2) := by
  rw [rounds, List.mapM_cons]
  rfl

/-- **Rounds are accounted for**: what is `Accounted` before them is so after them, with as many
more passes as there are domains with a key.

**Proof sketch.** Induction on the rounds. A domain without a key is left alone, and to any other
`Accounted.attend` applies. -/
theorem Accounted.rounds (config : PassConfig) (vs : List Round) {x : Clock × Journal Ledger}
    {passes gone : Nat} (hx : Accounted x.2 passes gone) :
    Accounted ((Ledger.rounds config vs).run x).2.2
      (passes + vs.countP fun v => v.domain.key?.isSome)
      (gone + (results config vs x).count (.ok .gone)) := by
  induction vs generalizing x passes gone with
  | nil => exact hx
  | cons v vs ih =>
    rw [run_rounds_cons, results]
    cases hkey : v.domain.key? with
    | none =>
      rw [Controller.run_attend_of_keyless hkey]
      simpa [List.countP_cons, hkey] using ih hx
    | some key =>
      -- the domain has a key, so that this is one more pass
      have hstep : Accounted ((Controller.attend (environment v).journalled config v.domain).run
          x).2.2 (passes + 1) _ := hx.attend hkey
      have hnext := ih hstep
      rw [List.countP_cons, hkey, List.count_cons]
      convert hnext using 1
      · simp only [Option.isSome_some, if_true]
        omega
      · simp only [beq_iff_eq]
        omega

/-- **The metrics account for every pass.** However long the controller is at work, whatever domains
it attends to, whatever the stores hold and others make of them, whatever the checks are answered,
whichever calls fail, and wherever a pass is stopped: the metrics, which begin with nothing, are
`Balanced` with the passes that were made, with what they wrote to the ingresses, and with the
outcomes of their checks.

**Proof sketch.** Nothing balances with nothing, by `Balanced.zero`, and `Accounted.rounds` carries
this over all rounds. -/
theorem rounds_accounted (config : PassConfig) (vs : List Round) (k : Clock)
    (domains : DomainStore) (ingresses : IngressStore) :
    let x : Clock × Journal Ledger := (k, ⟨⟨⟨domains, ingresses, {}⟩, {}⟩, []⟩)
    Accounted ((rounds config vs).run x).2.2 (vs.countP fun v => v.domain.key?.isSome)
      ((results config vs x).count (.ok .gone)) := by
  intro x
  have hstart : Accounted x.2 0 0 := ⟨.zero, rfl, rfl⟩
  simpa using hstart.rounds config vs

end Ledger

end MailDomain
