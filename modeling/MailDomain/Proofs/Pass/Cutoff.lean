import MailDomain.Proofs.Pass.Stores

/-!
# Where a deadline cuts a pass

Each call of a pass takes its time and then fails or has its effect. With a deadline the pass does
what it would do without one, up to the first call that would be answered too late. There it is
stopped, and that call does nothing.

## Main definitions

* `Fate.total` — the time that the calls of a story take.
* `Fate.cut` — the part of a story for which there is time.
* `Stores.fated` — the stores as a service in which each call meets its fate.

## Main results

* `Fate.prefix_cut_iff` — the part for which there is time is the longest such beginning.
* `Stores.run_unlimited`, `Stores.run_limited` — a plan without a deadline, and the same plan with
  one.
* `Stores.runPass_cutoff` — a pass with its deadline, in terms of the same pass without one.
-/

set_option relaxedAutoImplicit false
set_option autoImplicit false

namespace MailDomain

open Protocol MemoryStore

/-! ### Time -/

section Duration

variable {a b c : Duration}

/-- Durations are ordered as their nanoseconds are, which is what `omega` is given. -/
lemma Duration.le_iff : a ≤ b ↔ a.nanos ≤ b.nanos := Iff.rfl

/-- Durations are strictly ordered as their nanoseconds are. -/
lemma Duration.lt_iff : a < b ↔ a.nanos < b.nanos := Iff.rfl

@[simp] lemma Duration.nanos_add : (a + b).nanos = a.nanos + b.nanos := rfl

@[simp] lemma Duration.nanos_sub : (a - b).nanos = a.nanos - b.nanos := rfl

lemma Duration.add_assoc : a + b + c = a + (b + c) := congrArg Duration.mk (Nat.add_assoc ..)

/-- What is left of the time `a` after a part `b` of it, and that part, are `a` again. -/
lemma Duration.add_sub_cancel (h : b ≤ a) : b + (a - b) = a :=
  congrArg Duration.mk (Nat.add_sub_cancel' h)

end Duration

namespace Fate

variable (fate : Fate)

/-- The time that the calls of a story take together, by `fate.delay`. Observations take none. -/
def total : List Deed → Duration
  | [] => .zero
  | .asked c _ :: h => fate.delay c + total h
  | .noted _ :: h => total h

/-- The longest beginning of a story for which the time `b` is enough: the story is cut before the
first call that would be answered later. -/
def cut (b : Duration) : List Deed → List Deed
  | [] => []
  | .asked c a :: h =>
    if fate.delay c ≤ b then .asked c a :: cut (b - fate.delay c) h else []
  | .noted o :: h => .noted o :: cut b h

variable {fate} {b : Duration} {g h : List Deed}

/-- What there is time for is a beginning of the story. -/
lemma cut_prefix : fate.cut b h <+: h := by
  induction h generalizing b with
  | nil => exact List.prefix_rfl
  | cons x h ih =>
    cases x with
    | asked c a =>
      rw [cut]
      split
      · exact (List.prefix_cons_inj _).2 ih
      · exact List.nil_prefix
    | noted o => exact (List.prefix_cons_inj _).2 ih

/-- A beginning `g` of a story is one of `fate.cut b h` exactly if its calls take no longer than `b`
together. This is what makes `cut` the longest such beginning.

**Proof sketch.** Induction on the story. A beginning that is not empty starts with the first deed
of the story; if that is a call, there is time for the beginning exactly if there is time for the
call and, after it, for the rest. -/
theorem prefix_cut_iff (hg : g <+: h) : g <+: fate.cut b h ↔ fate.total g ≤ b := by
  induction h generalizing g b with
  | nil =>
    cases List.prefix_nil.1 hg
    exact iff_of_true List.prefix_rfl (Duration.le_iff.2 (Nat.zero_le _))
  | cons x h ih =>
    cases g with
    | nil => exact iff_of_true List.nil_prefix (Duration.le_iff.2 (Nat.zero_le _))
    | cons y g =>
      obtain ⟨rfl, htail⟩ := List.cons_prefix_cons.1 hg
      cases y with
      | asked c a =>
        simp only [cut, total, Duration.le_iff, Duration.nanos_add]
        split
        · next hc =>
          rw [List.prefix_cons_inj, ih htail, Duration.le_iff, Duration.nanos_sub]
          omega
        · next hc =>
          refine iff_of_false (fun hnil => by cases List.prefix_nil.1 hnil) (by omega)
      | noted o => rw [cut, List.prefix_cons_inj, ih htail, total]

/-- The calls of `fate.cut b h` take no longer than `b` together. -/
lemma total_cut_le : fate.total (fate.cut b h) ≤ b :=
  (prefix_cut_iff cut_prefix).1 List.prefix_rfl

end Fate

/-! ### Plans with and without a deadline -/

namespace Stores

/-- The stores as a service in which each call meets its `fate`. Other than in `Stores.service`, the
answer to a call is determined. -/
def fated (checker : Checker) (fate : Fate) : Service Stores where
  answers c s a t := (a, t) = respond checker fate c s
  noted := note

variable {α : Type} {checker : Checker} {fate : Fate} {k : Clock} {p q : Plan α} {h : List Deed}
  {s t : Stores}

/-- An observation is recorded, and takes no time. -/
lemma run_observed (o : Observation) :
    ((environment checker fate).observed o).run (k, s) = (some (), k, note o s) := rfl

/-- A plan without a deadline makes a complete story `h` of the service `fated`, and takes the time
`fate.total h`. -/
theorem run_unlimited (checker : Checker) (fate : Fate) (p : Plan α) (now : Duration)
    (s : Stores) :
    ∃ h r t, p.Follows h (.done r) ∧ (fated checker fate).Leads h s t ∧
      (p.run (environment checker fate).answer (environment checker fate).observed).run
        (⟨now, none⟩, s) = (some r, ⟨now + fate.total h, none⟩, t) := by
  induction p generalizing now s with
  | done r => exact ⟨[], r, s, .here _, rfl, rfl⟩
  | ask c next ih =>
    obtain ⟨h, r, t, hfollows, hleads, hrun⟩ :=
      ih (respond checker fate c s).1 (now + fate.delay c) (respond checker fate c s).2
    refine ⟨.asked c _ :: h, r, t, .asked _ hfollows, ⟨_, rfl, hleads⟩, ?_⟩
    have hadvance : ((⟨now, none⟩ : Clock).advance (fate.delay c)).1 = true := rfl
    have hcall := run_answer_of_inTime checker (s := s) hadvance
    rw [Plan.run, Timed.run_bind_of_some hcall, Fate.total, ← Duration.add_assoc]
    exact hrun
  | note o next ih =>
    obtain ⟨h, r, t, hfollows, hleads, hrun⟩ := ih now (note o s)
    refine ⟨.noted o :: h, r, t, .noted hfollows, hleads, ?_⟩
    rw [Plan.run, Timed.run_bind_of_some (run_observed o)]
    exact hrun

/-- A plan with a deadline, compared with the story `h` that it makes without one, `b` being the
time that is left. If `fate.total h` is at most `b`, the plan does the same. Otherwise it is stopped
at the deadline, and has made exactly the part `fate.cut b h` of that story.

**Proof sketch.** Induction on the story that the plan makes without a deadline. A call that is
answered in time leaves less time to what comes after it; at the first that is not, the story is
cut, and the plan is stopped. -/
theorem run_limited {r : α} {now b deadline : Duration} (hfollows : p.Follows h q)
    (hq : q = .done r) (hleads : (fated checker fate).Leads h s t) (hb : now + b = deadline) :
    let x := (p.run (environment checker fate).answer (environment checker fate).observed).run
      (⟨now, some deadline⟩, s)
    (fate.total h ≤ b → x = (some r, ⟨now + fate.total h, some deadline⟩, t)) ∧
      (b < fate.total h → ∃ u, (fated checker fate).Leads (fate.cut b h) s u ∧
        x = (none, ⟨deadline, some deadline⟩, u)) := by
  induction hfollows generalizing now b s with
  | here p =>
    subst hq
    cases Service.leads_nil.1 hleads
    exact ⟨fun _ => rfl, fun hlt => absurd hlt (Nat.not_lt_zero _)⟩
  | @asked c next h q a _ ih =>
    obtain ⟨u, ha, hleads⟩ := hleads
    obtain ⟨rfl, rfl⟩ := Prod.mk.inj ha
    simp only [Plan.run, Fate.total, Fate.cut]
    -- is there time for the call to be answered?
    by_cases hc : fate.delay c ≤ b
    · have hadvance := Clock.advance_of_le (c := ⟨now, some deadline⟩) (d := fate.delay c) rfl
        (by rw [← hb]; exact Nat.add_le_add_left hc _)
      have hcall := run_answer_of_inTime checker (s := s) (congrArg Prod.fst hadvance)
      rw [hadvance] at hcall
      -- what is left of the time is what is left until the deadline
      have hleft : now + fate.delay c + (b - fate.delay c) = deadline := by
        rw [Duration.add_assoc, Duration.add_sub_cancel hc, hb]
      obtain ⟨hin, hout⟩ := ih hq hleads hleft
      rw [Timed.run_bind_of_some hcall, if_pos hc]
      rw [Duration.le_iff] at hc
      refine ⟨fun hle => ?_, fun hlt => ?_⟩
      · rw [← Duration.add_assoc]
        refine hin ?_
        rw [Duration.le_iff, Duration.nanos_add] at hle
        rw [Duration.le_iff, Duration.nanos_sub]
        omega
      · rw [Duration.lt_iff, Duration.nanos_add] at hlt
        obtain ⟨u, hu, hrun⟩ := hout (by rw [Duration.lt_iff, Duration.nanos_sub]; omega)
        exact ⟨u, ⟨_, rfl, hu⟩, hrun⟩
    · have hadvance := Clock.advance_of_lt (c := ⟨now, some deadline⟩) (d := fate.delay c) rfl
        (by rw [← hb]; exact fun hle => hc (Nat.le_of_add_le_add_left hle))
      have hcall := run_answer_of_late checker (s := s) (congrArg Prod.fst hadvance)
      rw [hadvance] at hcall
      rw [Timed.run_bind_of_none hcall, if_neg hc]
      refine ⟨fun hle => absurd (Nat.le_trans (Nat.le_add_right _ _) hle) hc, fun _ => ?_⟩
      -- the call is stopped before it has any effect, and `Fate.cut` ends the story before it
      exact ⟨s, rfl, rfl⟩
  | @noted o next h q _ ih =>
    obtain ⟨hin, hout⟩ := ih hq (Service.leads_noted.1 hleads) hb
    simp only [Plan.run, Timed.run_bind_of_some (run_observed o)]
    exact ⟨hin, hout⟩

/-! ### Passes with and without their deadline -/

variable {config : PassConfig} {key : ObjectKey} {r : Except PassError Outcome} {u : Domain}
  {a : Except StoreError Unit} {g : List Deed}

/-- A status write is the last deed of a pass, so a beginning of its story that has one is the whole
story. -/
lemma eq_of_writeStatus_mem (hfollows : (reconcile config key).run.Follows h (.done r))
    (hg : g <+: h) (hmem : .asked (.writeStatus u) a ∈ g) : g = h := by
  obtain ⟨before, after, rfl⟩ := List.append_of_mem hmem
  obtain ⟨rest, rfl⟩ := hg
  have hparted : (reconcile config key).run.Follows
      ((before ++ [.asked (.writeStatus u) a]) ++ (after ++ rest)) (.done r) := by
    simpa using hfollows
  obtain ⟨q, hq, hrest⟩ := hparted.of_append
  obtain ⟨r', rfl, -⟩ := ((reconcile_upholds config key).of_follows hq).eq_done
    fun _ => not_passDoes_of_writeStatus
  generalize hl : after ++ rest = l at hrest
  cases hrest
  rw [(List.append_eq_nil_iff.1 hl).2, List.append_nil]

/-- **A deadline cuts a pass.** Let a pass be carried out over any two stores that clients may have
written, each call of which takes some time and then fails or has its effect. Without its deadline
the pass makes the story `h`, with the result `r`. If `fate.total h` is within the limit, the
deadline changes nothing. Otherwise the pass is cancelled at the limit, after exactly the longest
beginning `g` of `h` for which there is time, and has written no status. Wherever a status is
written in the story, `convergeIngress` was completed before.

**Proof sketch.** Without its deadline the pass makes a story (`run_unlimited`), which is then what
the pass with its deadline goes by (`run_limited`). By `eq_of_writeStatus_mem` a status write would
be the last deed, so that a pass that is stopped has not come to it; `Fate.prefix_cut_iff` says that
`g` is the longest such beginning. -/
theorem runPass_cutoff (ws₁ : List (Write DomainSpec DomainStatus))
    (ws₂ : List (Write (Option IngressSpec) IngressStatus)) (m : Registry) (checker : Checker)
    (fate : Fate) (config : PassConfig) (key : ObjectKey) (now : Duration) :
    let env := environment checker fate
    let s : Stores := ⟨after ws₁, after ws₂, m⟩
    let x := (Timed.within none (env.carryOut (reconcile config key))).run (⟨now, none⟩, s)
    let y := (runPass env config key).run (⟨now, none⟩, s)
    ∃ h r, (reconcile config key).run.Follows h (.done r) ∧
      (fated checker fate).Leads h s x.2.2 ∧ x.1 = some r ∧
      x.2.1 = ⟨now + fate.total h, none⟩ ∧
      (fate.total h ≤ config.limit → y = (r, x.2)) ∧
      (config.limit < fate.total h →
        y.1 = .error (.cancelled key config.limit) ∧ y.2.1 = ⟨now + config.limit, none⟩ ∧
        ∃ g, g <+: h ∧ (∀ g', g' <+: h → (g' <+: g ↔ fate.total g' ≤ config.limit)) ∧
          (fated checker fate).Leads g s y.2.2 ∧ ∀ u a, .asked (.writeStatus u) a ∉ g) ∧
      ∀ before u a, before ++ [.asked (.writeStatus u) a] <+: h →
        ∃ d f t act, before = checked key d f ++ t ∧
          ConvergeEnds config.backend key d f t (.ok act) := by
  intro env s x y
  obtain ⟨h, r, t, hfollows, hleads, hrun⟩ :=
    run_unlimited checker fate (reconcile config key).run now s
  have hx : x = (some r, ⟨now + fate.total h, none⟩, t) := by
    change (let x := ((reconcile config key).run.run env.answer env.observed).run (⟨now, none⟩, s)
      (x.1, { x.2.1 with deadline := none }, x.2.2)) = _
    rw [hrun]
  have hy : y = _ := Environment.Obeys.run_runPass env config key ⟨now, none⟩ s
  obtain ⟨hin, hout⟩ := run_limited hfollows rfl hleads (b := config.limit) rfl
  refine ⟨h, r, hfollows, hx ▸ hleads, by rw [hx], by rw [hx], fun hle => ?_, fun hlt => ?_, ?_⟩
  · rw [hy, hin hle, hx]
    rfl
  · -- a story with a status write ends with it, so that there would have been time for all of it
    obtain ⟨v, hv, hstopped⟩ := hout hlt
    rw [hstopped] at hy
    refine ⟨by rw [hy]; rfl, by rw [hy], fate.cut config.limit h, Fate.cut_prefix,
      fun g' => Fate.prefix_cut_iff, by rw [hy]; exact hv, fun u a hmem => ?_⟩
    have hall := eq_of_writeStatus_mem hfollows Fate.cut_prefix hmem
    have hle : fate.total h ≤ config.limit := hall ▸ Fate.total_cut_le
    exact absurd hlt (Nat.not_lt.2 hle)
  · rintro before u a ⟨rest, rfl⟩
    rw [List.append_assoc] at hfollows
    obtain ⟨d, f, t, act, hbefore, hends, -⟩ :=
      ((reconcile_upholds config key).does_of_follows hfollows).of_writeStatus
    exact ⟨d, f, t, act, hbefore, hends⟩

end Stores

end MailDomain
