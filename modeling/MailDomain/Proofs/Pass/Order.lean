import MailDomain.Proofs.Pass.Protocol
import MailDomain.Proofs.Pass.Service

/-!
# The order of the calls of a pass

Whatever the stores and the checker answer, and however their answers depend on what was done
before, a pass makes its calls stage by stage and ends at the first that fails. What it does about
the ingress depends on what was found and on the stats check.

## Main definitions

* `Behaviour` — answers that may depend on everything before, with `Behaviour.carryOut`.
* `callsOf` — the calls of a story.
* `Call.stage`, `Call.fault?` — the stage of a call, and the failure of the pass in its answer.
* `Protocol.Orderly` — a story keeps to the order of stages and ends where it should.

## Main results

* `Behaviour.follows` — the deeds that are written down are those of the plan.
* `Protocol.PassEnds.unfailing`, `Protocol.PassEnds.failsWith` — no call fails in a pass that
  succeeds, and in any other at most the last one does.
* `reconcile_orderly` — a pass is orderly whatever it is answered.
-/

set_option relaxedAutoImplicit false
set_option autoImplicit false

namespace MailDomain

open Protocol

/-! ### Calls -/

/-- The checks in the order in which `checkDns` makes them. -/
def Check.inOrder : List Check := [.dkim, .stats, .spf]

/-- The stage of a pass to which the call `c` belongs. A failure of the pass in the answer to `c`
carries the label of this stage. -/
def Call.stage : Call → Stage
  | .fetchDomain _ => .fetch
  | .check _ _ => .probe
  | .fetchIngress _ | .createIngress _ | .deleteIngress _ => .convergeIngress
  | .writeStatus _ => .persistStatus

/-- The failure of a pass in an answer: `fail e` if the answer is `.error e`, and none if it is a
success. -/
def PassError.ofAnswer? {ε α : Type} (fail : ε → PassError) : Except ε α → Option PassError
  | .ok _ => none
  | .error e => some (fail e)

/-- The failure of the pass for the domain under `key` in the answer to the call `c`, if there is
one. A deletion that finds no ingress fails for the store but not for the pass, which wanted it
gone. -/
def Call.fault? (key : ObjectKey) : (c : Call) → c.Answer → Option PassError
  | .fetchDomain _, a => PassError.ofAnswer? (.store key .fetch) a
  | .check c _, a => PassError.ofAnswer? (.probe key c) a
  | .fetchIngress _, a => PassError.ofAnswer? (.store key .convergeIngress) a
  | .createIngress _, a => PassError.ofAnswer? (.store key .convergeIngress) a
  | .deleteIngress _, .error e =>
    if e.isNotFound then none else some (.store key .convergeIngress e)
  | .deleteIngress _, .ok _ => none
  | .writeStatus _, a => PassError.ofAnswer? (.store key .persistStatus) a

namespace Deed

/-- The call of a deed, and `none` for an observation. -/
def call? : Deed → Option Call
  | .asked c _ => some c
  | .noted _ => none

/-- The failure of the pass for the domain under `key` in a deed: that in the answer if the deed is
a call, and none for an observation. -/
def fault? (key : ObjectKey) : Deed → Option PassError
  | .asked c a => c.fault? key a
  | .noted _ => none

end Deed

/-- The calls of a story in their order, without the answers. -/
def callsOf (h : List Deed) : List Call := h.filterMap Deed.call?

section Calls

variable {key : ObjectKey} {h h' : List Deed} {e : PassError}

@[simp] lemma callsOf_nil : callsOf [] = [] := rfl

@[simp] lemma callsOf_asked (c : Call) (a : c.Answer) :
    callsOf (.asked c a :: h) = c :: callsOf h := rfl

@[simp] lemma callsOf_noted (o : Observation) : callsOf (.noted o :: h) = callsOf h := rfl

@[simp] lemma callsOf_append : callsOf (h ++ h') = callsOf h ++ callsOf h' :=
  List.filterMap_append

/-- A story of observations only has no calls. -/
@[simp] lemma callsOf_map_noted (os : List Observation) : callsOf (os.map .noted) = [] := by
  induction os with
  | nil => rfl
  | cons o os ih => exact ih

/-- What `c.fault? key a` names is the domain under `key` and the stage of the call `c`. -/
lemma Call.of_fault?_eq_some {c : Call} {a : c.Answer} (h : c.fault? key a = some e) :
    e.key = key ∧ e.label = c.stage.label := by
  have hanswer : ∀ {ε α : Type} {fail : ε → PassError} {a : Except ε α},
      PassError.ofAnswer? fail a = some e → ∃ cause, e = fail cause := by
    intro ε α fail a ha
    cases a with
    | ok _ => cases ha
    | error cause => exact ⟨cause, (Option.some.inj ha).symm⟩
  cases c with
  | deleteIngress i =>
    cases a with
    | ok _ => cases h
    | error cause =>
      simp only [fault?] at h
      split at h
      · cases h
      · cases h
        exact ⟨rfl, rfl⟩
  | _ =>
    obtain ⟨cause, rfl⟩ := hanswer h
    exact ⟨rfl, rfl⟩

/-- No call of the story `h` failed, in the sense of `Deed.fault?`. -/
def Unfailing (key : ObjectKey) (h : List Deed) : Prop := ∀ x ∈ h, x.fault? key = none

/-- The last call of the story `h` failed with `e`, and no call before it failed. Observations may
come after the last call. -/
def FailsWith (key : ObjectKey) (h : List Deed) (e : PassError) : Prop :=
  ∃ (before : List Deed) (c : Call) (a : c.Answer) (os : List Observation),
    h = before ++ .asked c a :: os.map .noted ∧ Unfailing key before ∧ c.fault? key a = some e

lemma Unfailing.append (hh : Unfailing key h) (hh' : Unfailing key h') :
    Unfailing key (h ++ h') := by
  intro x hx
  exact (List.mem_append.1 hx).elim (hh x) (hh' x)

/-- A story fails with `e` if it consists of one call whose answer is the failure `e`, and
observations afterwards. -/
lemma FailsWith.of_fault? {c : Call} {a : c.Answer} (he : c.fault? key a = some e)
    (os : List Observation) : FailsWith key (.asked c a :: os.map .noted) e :=
  ⟨[], c, a, os, rfl, List.forall_mem_nil _, he⟩

/-- A story that fails with `e` still does so with an unfailing story `h` in front of it. -/
lemma FailsWith.append_left (hh' : FailsWith key h' e) (hh : Unfailing key h) :
    FailsWith key (h ++ h') e := by
  obtain ⟨before, c, a, os, rfl, hbefore, he⟩ := hh'
  exact ⟨h ++ before, c, a, os, (List.append_assoc ..).symm, hh.append hbefore, he⟩

/-- In a story that fails with `e`, a call that failed is the last one, and its failure is `e`. -/
lemma FailsWith.of_mem {c : Call} {a : c.Answer} {e' : PassError} (hh : FailsWith key h e)
    (hmem : .asked c a ∈ h) (he' : c.fault? key a = some e') :
    (callsOf h).getLast? = some c ∧ e' = e := by
  obtain ⟨before, c', a', os, rfl, hbefore, he⟩ := hh
  rcases List.mem_append.1 hmem with hmem | hmem
  · have hnone : c.fault? key a = none := hbefore _ hmem
    rw [hnone] at he'
    cases he'
  · rcases List.mem_cons.1 hmem with heq | hmem
    · cases heq
      refine ⟨?_, Option.some.inj (he'.symm.trans he)⟩
      rw [callsOf_append, callsOf_asked, callsOf_map_noted, List.getLast?_concat]
    · obtain ⟨o, -, ho⟩ := List.mem_map.1 hmem
      cases ho

end Calls

/-! ### Behaviours -/

/-- Answers to calls, each of which may depend on all that was done before: the behaviour is told
the story so far. Stores that change behind the back of a pass, and ones that fail at some calls,
are behaviours. -/
abbrev Behaviour := List Deed → (c : Call) → c.Answer

namespace Behaviour

variable {α : Type}

/-- The plan `p` carried out with the answers of the behaviour `b`. The state is the story so far,
to which each call is added with its answer, and each observation. -/
def carryOut (b : Behaviour) (p : Plan α) : StateM (List Deed) α :=
  p.run (fun c => modifyGet fun h => (b h c, h ++ [.asked c (b h c)]))
    (fun o => modify (· ++ [.noted o]))

/-- A behaviour as a service, whose state is the story that was written down. -/
def service (b : Behaviour) : Service (List Deed) where
  answers c h a t := a = b h c ∧ t = h ++ [.asked c a]
  noted o h := h ++ [.noted o]

/-- A story `h` that leads from `g` to `t` in the service of a behaviour is written down behind `g`
as it is. -/
lemma eq_of_leads {b : Behaviour} {g h t : List Deed} (hleads : b.service.Leads g h t) :
    t = h ++ g := by
  induction g generalizing h with
  | nil => rw [Service.leads_nil.1 hleads, List.append_nil]
  | cons x g ih =>
    cases x with
    | asked c a =>
      obtain ⟨u, ⟨-, rfl⟩, hleads⟩ := hleads
      rw [ih hleads, List.append_assoc, List.singleton_append]
    | noted o => rw [ih (Service.leads_noted.1 hleads), service, List.append_assoc,
        List.singleton_append]

/-- What `Behaviour.carryOut` writes down of a plan is a complete story of the plan, with the result
that it gives. -/
theorem follows (b : Behaviour) (p : Plan α) :
    p.Follows ((b.carryOut p).run []).2 (.done ((b.carryOut p).run []).1) := by
  obtain ⟨h, hfollows, hleads⟩ : ∃ h, p.Follows h (.done ((b.carryOut p).run []).1) ∧
      b.service.Leads h [] ((b.carryOut p).run []).2 :=
    Plan.run_leads (v := b.service) (fun _ _ => ⟨rfl, rfl⟩) (fun _ _ => rfl) p []
  have hh := eq_of_leads hleads
  rw [List.nil_append] at hh
  rw [← hh] at hfollows
  exact hfollows

end Behaviour

/-! ### Stages -/

namespace Protocol

/-- A list of calls with at most one that writes an ingress, and no other call. -/
inductive IngressWrites : List Call → Prop
  | none : IngressWrites []
  | create (i : Ingress) : IngressWrites [.createIngress i]
  | delete (i : Ingress) : IngressWrites [.deleteIngress i]

/-- A list of calls with at most one that writes a status, and no other call. -/
inductive StatusWrites : List Call → Prop
  | none : StatusWrites []
  | write (u : Domain) : StatusWrites [.writeStatus u]

/-- The calls of the three checks of the domain `d` in their order. -/
def checkCalls (d : Domain) : List Call := Check.inOrder.map fun c => .check c d

/-- The calls of a pass for the domain `d` under `key` that goes through all of its stages: the
fetch, the checks, the look-up of the ingress followed by `x`, and then `y`. For a pass `x` is one
of `IngressWrites` and `y` one of `StatusWrites`. -/
def allCalls (key : ObjectKey) (d : Domain) (x y : List Call) : List Call :=
  .fetchDomain key :: checkCalls d ++ .fetchIngress (StatsIngress.keyOf key) :: (x ++ y)

section Stages

variable {backend : StatsBackend} {config : PassConfig} {key : ObjectKey} {d : Domain}
  {s : DnsStatus} {h : List Deed}

/-- The calls of `checkDns` are the first ones of `checkCalls d`, in their order. -/
lemma ChecksEnd.calls_prefix {r : Except PassError DnsStatus} (hends : ChecksEnd key d h r) :
    callsOf h <+: checkCalls d := by
  cases hends with
  | answered s => exact ⟨[], rfl⟩
  | dkim e => exact ⟨[.check .stats d, .check .spf d], rfl⟩
  | stats dkim e => exact ⟨[.check .spf d], rfl⟩
  | spf dkim stats e => exact ⟨[], rfl⟩

/-- If `checkDns` fails with `e`, then the last check did, and those before it were answered. -/
lemma ChecksEnd.failsWith {e : PassError} (hends : ChecksEnd key d h (.error e)) :
    FailsWith key h e := by
  have hpassed : ∀ c passed, Unfailing key (Protocol.answered d c passed) := by
    intro c passed
    simp [Unfailing, Protocol.answered, Deed.fault?, Call.fault?, PassError.ofAnswer?]
  have hunanswered : ∀ c e, FailsWith key (unanswered d c e) (.probe key c e) :=
    fun c e => .of_fault? (c := .check c d) (a := .error e) rfl [.checked c.label .error]
  cases hends with
  | dkim e => exact hunanswered .dkim e
  | stats dkim e => exact (hunanswered .stats e).append_left (hpassed .dkim dkim)
  | spf dkim stats e =>
    exact ((hunanswered .spf e).append_left (hpassed .stats stats)).append_left
      (hpassed .dkim dkim)

/-- No call failed up to the last check, if all checks were answered with the flags of `s`. -/
lemma unfailing_checked : Unfailing key (checked key d s) := by
  simp [Unfailing, checked, fetched, allAnswered, answered, Deed.fault?, Call.fault?,
    PassError.ofAnswer?]

/-- The calls of `convergeIngress` are the look-up and at most one write of an ingress. -/
lemma ConvergeEnds.calls_eq {r : Except PassError IngressAction}
    (hends : ConvergeEnds backend key d s h r) :
    ∃ x, IngressWrites x ∧ callsOf h = .fetchIngress (StatsIngress.keyOf key) :: x := by
  cases hends with
  | unread _ | foreign _ | kept _ _ | pending _ _ _ | absent _ | unbuilt _ _ =>
    exact ⟨[], .none, rfl⟩
  | deleted _ | vanished _ _ | undeleted _ _ => exact ⟨_, .delete _, rfl⟩
  | created _ _ | uncreated _ _ => exact ⟨_, .create _, rfl⟩

/-- No call of `convergeIngress` failed if it ended well. That an ingress to delete was gone is no
failure here. -/
lemma ConvergeEnds.unfailing {a : IngressAction} (hends : ConvergeEnds backend key d s h (.ok a)) :
    Unfailing key h := by
  cases hends with
  | vanished _ he =>
    simp [Unfailing, lookedUp, Deed.fault?, Call.fault?, PassError.ofAnswer?, he]
  | _ => simp [Unfailing, lookedUp, Deed.fault?, Call.fault?, PassError.ofAnswer?]

/-- The failure `e` is not that of a call: it is an invariant of the objects that does not hold,
seen in the stage `convergeIngress` right after the look-up of the ingress. -/
def Unsound (key : ObjectKey) (h : List Deed) (e : PassError) : Prop :=
  (∃ reason, e = .invariant key .convergeIngress reason) ∧
    (callsOf h).getLast? = some (.fetchIngress (StatsIngress.keyOf key))

/-- If `convergeIngress` fails with `e`, then either its last call did, or no call did and `e` is
for what is wrong with the objects. -/
lemma ConvergeEnds.failsWith {e : PassError} (hends : ConvergeEnds backend key d s h (.error e)) :
    FailsWith key h e ∨ (Unfailing key h ∧ Unsound key h e) := by
  have hfound : ∀ found, Unfailing key [lookedUp key found] := by
    intro found
    simp [Unfailing, lookedUp, Deed.fault?, Call.fault?, PassError.ofAnswer?]
  cases hends with
  | unread e =>
    exact .inl (.of_fault? (c := .fetchIngress (StatsIngress.keyOf key)) (a := .error e) rfl [])
  | foreign _ => exact .inr ⟨hfound _, ⟨_, rfl⟩, rfl⟩
  | @undeleted i e _ he =>
    have hfault : (Call.deleteIngress i).fault? key (.error e) =
        some (.store key .convergeIngress e) := by simp [Call.fault?, he]
    exact .inl ((FailsWith.of_fault? hfault []).append_left (hfound (some i)))
  | unbuilt _ hbuild =>
    -- an ingress that cannot be built is the failure of no call
    rw [StatsIngress.build] at hbuild
    split at hbuild
    · cases hbuild
      exact .inr ⟨hfound _, ⟨_, rfl⟩, rfl⟩
    · cases hbuild
  | @uncreated i e _ _ =>
    have hfails : FailsWith key [.asked (.createIngress i) (.error e)]
        (.store key .convergeIngress e) :=
      .of_fault? (c := .createIngress i) (a := .error e) rfl []
    exact .inl (hfails.append_left (hfound none))

/-! ### The whole pass -/

/-- No call of a pass failed if the pass ended well. -/
theorem PassEnds.unfailing {r : Outcome} (hends : PassEnds config key h (.ok r)) :
    Unfailing key h := by
  cases hends with
  | gone => simp [Unfailing, fetched, Deed.fault?, Call.fault?, PassError.ofAnswer?]
  | unchanged hends _ => exact unfailing_checked.append hends.unfailing
  | written hends _ =>
    refine unfailing_checked.append (hends.unfailing.append ?_)
    simp [Unfailing, Deed.fault?, Call.fault?, PassError.ofAnswer?]

/-- If a pass fails with `e`, then either its last call did, or no call did and `e` is for what is
wrong with the objects. -/
theorem PassEnds.failsWith {e : PassError} (hends : PassEnds config key h (.error e)) :
    FailsWith key h e ∨ (Unfailing key h ∧ Unsound key h e) := by
  cases hends with
  | unread e => exact .inl (.of_fault? (c := .fetchDomain key) (a := .error e) rfl [])
  | @unchecked d h e hends =>
    refine .inl (hends.failsWith.append_left (h := [fetched key (some d)]) ?_)
    simp [Unfailing, fetched, Deed.fault?, Call.fault?, PassError.ofAnswer?]
  | @unconverged d s h e hends =>
    rcases hends.failsWith with hfails | ⟨hun, hreason, hlast⟩
    · exact .inl (hfails.append_left unfailing_checked)
    · refine .inr ⟨unfailing_checked.append hun, hreason, ?_⟩
      rw [callsOf_append, List.getLast?_append, hlast, Option.some_or]
  | @unwritten d s h a e hends _ =>
    have hfails : FailsWith key [.asked (.writeStatus (judged d s)) (.error e)]
        (.store key .persistStatus e) :=
      .of_fault? (c := .writeStatus (judged d s)) (a := .error e) rfl []
    exact .inl ((hfails.append_left hends.unfailing).append_left unfailing_checked)

/-! ### Where a call stands -/

/-- Every call of `checkDns` belongs to the stage `probe`. -/
lemma ChecksEnd.stage_of_mem {r : Except PassError DnsStatus} (hends : ChecksEnd key d h r)
    {c : Call} (hc : c ∈ callsOf h) : c.stage = .probe := by
  have hmem : c ∈ checkCalls d := hends.calls_prefix.subset hc
  obtain ⟨check, -, rfl⟩ := List.mem_map.1 hmem
  rfl

/-- Up to its last check a pass makes no calls but the fetch of its domain and checks. -/
lemma stage_of_mem_checked {c : Call} (hc : c ∈ callsOf (checked key d s)) :
    c = .fetchDomain key ∨ c.stage = .probe := by
  have hmem : c ∈ .fetchDomain key :: checkCalls d := hc
  rcases List.mem_cons.1 hmem with rfl | hmem
  · exact .inl rfl
  · have hends : ChecksEnd key d (allAnswered d s) (.ok s) := .answered s
    exact .inr (hends.stage_of_mem hmem)

/-- Every call of `convergeIngress` belongs to the stage of that name. -/
lemma ConvergeEnds.stage_of_mem {r : Except PassError IngressAction}
    (hends : ConvergeEnds backend key d s h r) {c : Call} (hc : c ∈ callsOf h) :
    c.stage = .convergeIngress := by
  obtain ⟨x, hx, hcalls⟩ := hends.calls_eq
  rw [hcalls] at hc
  rcases List.mem_cons.1 hc with rfl | hc
  · rfl
  cases hx with
  | none => cases hc
  | create i => rw [List.mem_singleton.1 hc]; rfl
  | delete i => rw [List.mem_singleton.1 hc]; rfl

/-- If `convergeIngress` creates an ingress, then it found none, and the stats check passed. -/
lemma ConvergeEnds.of_mem_create {r : Except PassError IngressAction} {i : Ingress}
    {a : Except StoreError Unit} (hends : ConvergeEnds backend key d s h r)
    (hmem : .asked (.createIngress i) a ∈ h) : lookedUp key none ∈ h ∧ s.stats = true := by
  cases hends with
  | created hs _ | uncreated hs _ => exact ⟨List.mem_cons_self, hs⟩
  | _ => simp [lookedUp] at hmem

/-- If `convergeIngress` deletes the ingress `i`, then it found `i`, which is not being deleted
already, and the stats check did not pass. -/
lemma ConvergeEnds.of_mem_delete {r : Except PassError IngressAction} {i : Ingress}
    {a : Except StoreError Unit} (hends : ConvergeEnds backend key d s h r)
    (hmem : .asked (.deleteIngress i) a ∈ h) :
    lookedUp key (some i) ∈ h ∧ i.metadata.deletionTimestamp = none ∧ s.stats = false := by
  cases hends with
  | @deleted j hrem =>
    obtain ⟨rfl, -⟩ : i = j ∧ a = .ok () := by simpa [lookedUp] using hmem
    exact ⟨List.mem_cons_self, hrem.present, hrem.unwanted⟩
  | @vanished j e hrem _ | @undeleted j e hrem _ =>
    obtain ⟨rfl, -⟩ : i = j ∧ a = .error e := by simpa [lookedUp] using hmem
    exact ⟨List.mem_cons_self, hrem.present, hrem.unwanted⟩
  | _ => simp [lookedUp] at hmem

/-- If the store says that the ingress to delete was not found, `convergeIngress` ends well, as
after a deletion. -/
lemma ConvergeEnds.ok_of_vanished {r : Except PassError IngressAction} {i : Ingress}
    {e : StoreError} (hends : ConvergeEnds backend key d s h r)
    (hmem : .asked (.deleteIngress i) (.error e) ∈ h) (he : e.isNotFound = true) :
    r = .ok .deleted := by
  cases hends with
  | vanished _ _ => rfl
  | @undeleted j f _ hne =>
    obtain ⟨-, hef⟩ : i = j ∧ e = f := by simpa [lookedUp] using hmem
    rw [← hef, he] at hne
    cases hne
  | _ => simp [lookedUp] at hmem

/-- How a pass ends that gets no further than the fetch of its domain: the store failed, or there is
no domain. -/
inductive FetchEnds (key : ObjectKey) : List Deed → Except PassError Outcome → Prop
  | unread (e : StoreError) :
      FetchEnds key [.asked (.fetchDomain key) (.error e)] (.error (.store key .fetch e))
  | gone : FetchEnds key [fetched key none] (.ok .gone)

/-- How a pass goes on after `convergeIngress` ended with a given result, by which deeds, and with
which result of its own: it fails with the failure `e` of that stage, or it asks for another pass,
with a status write before that if there is something to write. -/
inductive GoesOn (key : ObjectKey) :
    Except PassError IngressAction → List Deed → Except PassError Outcome → Prop
  | failed (e : PassError) : GoesOn key (.error e) [] (.error e)
  | unchanged (a : IngressAction) (delay : Duration) (converged : Bool) :
      GoesOn key (.ok a) [] (.ok (.requeue delay converged))
  | written (a : IngressAction) (u : Domain) (delay : Duration) (converged : Bool) :
      GoesOn key (.ok a) [.asked (.writeStatus u) (.ok ())] (.ok (.requeue delay converged))
  | unwritten (a : IngressAction) (u : Domain) (e : StoreError) :
      GoesOn key (.ok a) [.asked (.writeStatus u) (.error e)] (.error (.store key .persistStatus e))

variable {r : Except PassError Outcome}

/-- A pass ends at the fetch, or at a check, or it goes through `convergeIngress` with a story `t`
and on with a story `w`. The lemmas on `PassEnds` below are proved along these three cases. -/
lemma PassEnds.parts (hends : PassEnds config key h r) :
    FetchEnds key h r ∨
      (∃ d t e, h = fetched key (some d) :: t ∧ r = .error e ∧ ChecksEnd key d t (.error e)) ∨
      ∃ d s t w a, h = checked key d s ++ (t ++ w) ∧ ConvergeEnds config.backend key d s t a ∧
        GoesOn key a w r := by
  cases hends with
  | unread e => exact .inl (.unread e)
  | gone => exact .inl .gone
  | @unchecked d t e hends => exact .inr (.inl ⟨d, t, e, rfl, rfl, hends⟩)
  | @unconverged d s t e hends =>
    exact .inr (.inr ⟨d, s, t, [], _, by rw [List.append_nil], hends, .failed e⟩)
  | @unchanged d s t a hends _ =>
    exact .inr (.inr ⟨d, s, t, [], _, by rw [List.append_nil], hends, .unchanged a _ _⟩)
  | @written d s t a hends _ =>
    exact .inr (.inr ⟨d, s, t, _, _, rfl, hends, .written a _ _ _⟩)
  | @unwritten d s t a e hends _ =>
    exact .inr (.inr ⟨d, s, t, _, _, rfl, hends, .unwritten a _ e⟩)

/-- After `convergeIngress` a pass makes no calls but at most one status write. -/
lemma GoesOn.statusWrites {a : Except PassError IngressAction} {w : List Deed}
    (hgoes : GoesOn key a w r) : StatusWrites (callsOf w) := by
  cases hgoes with
  | failed _ | unchanged _ _ _ => exact .none
  | written _ u _ _ | unwritten _ u _ => exact .write u

/-- A call that stands in a story with its answer is one of `callsOf`. -/
lemma mem_callsOf {c : Call} {a : c.Answer} (hmem : .asked c a ∈ h) : c ∈ callsOf h :=
  List.mem_filterMap.2 ⟨_, hmem, rfl⟩

/-- A pass that goes through `convergeIngress` makes the calls `allCalls key d x y`, with at most
one write each in `x` and `y`. -/
lemma calls_eq_allCalls {t w : List Deed} {a : Except PassError IngressAction}
    (hends : ConvergeEnds config.backend key d s t a) (hgoes : GoesOn key a w r) :
    ∃ x y, IngressWrites x ∧ StatusWrites y ∧
      callsOf (checked key d s ++ (t ++ w)) = allCalls key d x y := by
  obtain ⟨x, hx, hcalls⟩ := hends.calls_eq
  refine ⟨x, callsOf w, hx, hgoes.statusWrites, ?_⟩
  rw [callsOf_append, callsOf_append, hcalls]
  rfl

/-- A pass only fetches its domain, or it checks the very domain `d` that it found, and its calls
are the first ones of some `allCalls key d x y`. -/
lemma PassEnds.calls_prefix (hends : PassEnds config key h r) :
    callsOf h = [.fetchDomain key] ∨ ∃ d x y, fetched key (some d) ∈ h ∧ IngressWrites x ∧
      StatusWrites y ∧ callsOf h <+: allCalls key d x y := by
  rcases hends.parts with hfetch | ⟨d, t, e, rfl, -, hends⟩ | ⟨d, s, t, w, a, rfl, hends, hgoes⟩
  · cases hfetch <;> exact .inl rfl
  · refine .inr ⟨d, [], [], List.mem_cons_self, .none, .none, ?_⟩
    have hprefix := hends.calls_prefix.trans
      (List.prefix_append (checkCalls d) [.fetchIngress (StatsIngress.keyOf key)])
    exact (List.prefix_cons_inj (Call.fetchDomain key)).2 hprefix
  · obtain ⟨x, y, hx, hy, hcalls⟩ := calls_eq_allCalls hends hgoes
    exact .inr ⟨d, x, y, List.mem_cons_self, hx, hy, hcalls ▸ List.prefix_rfl⟩

/-- A pass that asks for another one has made all of its calls. -/
lemma PassEnds.calls_eq {delay : Duration} {converged : Bool}
    (hends : PassEnds config key h (.ok (.requeue delay converged))) :
    ∃ d x y, IngressWrites x ∧ StatusWrites y ∧ callsOf h = allCalls key d x y := by
  rcases hends.parts with hfetch | ⟨d, t, e, -, hr, -⟩ | ⟨d, s, t, w, a, rfl, hends, hgoes⟩
  · cases hfetch
  · cases hr
  · exact ⟨d, calls_eq_allCalls hends hgoes⟩

/-- A call of the stage `convergeIngress` that a pass made stands in the part `t` of its story that
is the story of `convergeIngress`. -/
lemma PassEnds.of_mem_ingress {c : Call} {b : c.Answer} (hends : PassEnds config key h r)
    (hc : c.stage = .convergeIngress) (hmem : .asked c b ∈ h) :
    ∃ d s t w a, h = checked key d s ++ (t ++ w) ∧ .asked c b ∈ t ∧
      ConvergeEnds config.backend key d s t a ∧ GoesOn key a w r := by
  have hnot : ¬ (c = .fetchDomain key ∨ c.stage = .probe) := by
    rintro (rfl | hprobe)
    · cases hc
    · rw [hc] at hprobe
      cases hprobe
  rcases hends.parts with hfetch | ⟨d, t, e, rfl, -, hends⟩ | ⟨d, s, t, w, a, rfl, hends, hgoes⟩
  · refine absurd (.inl ?_) hnot
    cases hfetch <;> exact List.mem_singleton.1 (mem_callsOf hmem)
  · refine absurd ?_ hnot
    exact (List.mem_cons.1 (mem_callsOf hmem)).imp id hends.stage_of_mem
  -- of the three parts of the story only the middle one has calls of that stage
  refine ⟨d, s, t, w, a, rfl, ?_, hends, hgoes⟩
  rcases List.mem_append.1 hmem with hmem | hmem
  · exact absurd (stage_of_mem_checked (mem_callsOf hmem)) hnot
  rcases List.mem_append.1 hmem with hmem | hmem
  · exact hmem
  · cases hgoes with
    | failed _ | unchanged _ _ _ => cases hmem
    | written _ u _ _ | unwritten _ u _ =>
      cases List.mem_singleton.1 hmem
      cases hc

/-- After its first call a pass does not fetch its domain again. -/
lemma fetchDomain_not_mem {x y : List Call} (hx : IngressWrites x) (hy : StatusWrites y) :
    .fetchDomain key ∉ checkCalls d ++ .fetchIngress (StatsIngress.keyOf key) :: (x ++ y) := by
  cases hx <;> cases hy <;> simp [checkCalls]

/-- A pass that finds no domain makes no other call and ends as `Outcome.gone`. -/
lemma PassEnds.of_mem_gone (hends : PassEnds config key h r) (hmem : fetched key none ∈ h) :
    callsOf h = [.fetchDomain key] ∧ r = .ok .gone := by
  rcases hends.parts with hfetch | ⟨d, t, e, rfl, -, hends⟩ | ⟨d, s, t, w, a, rfl, hends, hgoes⟩
  · cases hfetch with
    | unread e => simp [fetched] at hmem
    | gone => exact ⟨rfl, rfl⟩
  · rcases List.mem_cons.1 hmem with heq | hmem
    · cases heq
    · cases hends.stage_of_mem (mem_callsOf hmem)
  · obtain ⟨x, y, hx, hy, hcalls⟩ := calls_eq_allCalls hends hgoes
    have hrest : callsOf (allAnswered d s ++ (t ++ w)) = _ := (List.cons.inj hcalls).2
    rcases List.mem_cons.1 hmem with heq | hmem
    · cases heq
    · have hcall : .fetchDomain key ∈ callsOf (allAnswered d s ++ (t ++ w)) := mem_callsOf hmem
      rw [hrest] at hcall
      exact absurd hcall (fetchDomain_not_mem hx hy)

/-- If a pass creates an ingress, then it found none under the name of its ingress, and its stats
check passed. -/
lemma PassEnds.of_mem_create {i : Ingress} {b : Except StoreError Unit}
    (hends : PassEnds config key h r) (hmem : .asked (.createIngress i) b ∈ h) :
    lookedUp key none ∈ h ∧ ∃ d, .asked (.check .stats d) (.ok true) ∈ h := by
  obtain ⟨d, s, t, w, a, rfl, hmem, hends, -⟩ := hends.of_mem_ingress rfl hmem
  obtain ⟨hfound, hs⟩ := hends.of_mem_create hmem
  refine ⟨List.mem_append_right _ (List.mem_append_left _ hfound), d, List.mem_append_left _ ?_⟩
  simp [checked, allAnswered, answered, hs]

/-- If a pass deletes the ingress `i`, then it found `i` under the name of its ingress, `i` is not
being deleted already, and its stats check did not pass. -/
lemma PassEnds.of_mem_delete {i : Ingress} {b : Except StoreError Unit}
    (hends : PassEnds config key h r) (hmem : .asked (.deleteIngress i) b ∈ h) :
    lookedUp key (some i) ∈ h ∧ i.metadata.deletionTimestamp = none ∧
      ∃ d, .asked (.check .stats d) (.ok false) ∈ h := by
  obtain ⟨d, s, t, w, a, rfl, hmem, hends, -⟩ := hends.of_mem_ingress rfl hmem
  obtain ⟨hfound, hpresent, hs⟩ := hends.of_mem_delete hmem
  refine ⟨List.mem_append_right _ (List.mem_append_left _ hfound), hpresent, d,
    List.mem_append_left _ ?_⟩
  simp [checked, allAnswered, answered, hs]

/-- A pass whose deletion finds no ingress goes on: it asks for another pass, or comes to its status
write. -/
lemma PassEnds.of_mem_vanished {i : Ingress} {e : StoreError} (hends : PassEnds config key h r)
    (hmem : .asked (.deleteIngress i) (.error e) ∈ h) (he : e.isNotFound = true) :
    (∃ delay converged, r = .ok (.requeue delay converged)) ∨
      ∃ u a, .asked (.writeStatus u) a ∈ h := by
  obtain ⟨d, s, t, w, a, rfl, hmem, hends, hgoes⟩ := hends.of_mem_ingress rfl hmem
  cases hends.ok_of_vanished hmem he
  cases hgoes with
  | unchanged _ delay converged => exact .inl ⟨delay, converged, rfl⟩
  | written _ u _ _ => exact .inr ⟨u, .ok (), by simp⟩
  | unwritten _ u e => exact .inr ⟨u, .error e, by simp⟩

/-- A failure `e` of a pass names its domain. Its label is that of the stage of the call in whose
answer it was, or it is for what is wrong with the objects. -/
lemma PassEnds.of_error {e : PassError} (hends : PassEnds config key h (.error e)) :
    e.key = key ∧ ((∃ c a, .asked c a ∈ h ∧ c.fault? key a = some e ∧ e.label = c.stage.label) ∨
      Unsound key h e) := by
  rcases hends.failsWith with ⟨before, c, a, os, rfl, -, he⟩ | ⟨-, hunsound⟩
  · obtain ⟨hkey, hlabel⟩ := Call.of_fault?_eq_some he
    exact ⟨hkey, .inl ⟨c, a, List.mem_append_right _ List.mem_cons_self, he, hlabel⟩⟩
  · obtain ⟨⟨reason, rfl⟩, -⟩ := id hunsound
    exact ⟨rfl, .inr hunsound⟩

/-- A call of a pass whose answer is a failure is its last one, and that failure is the result of
the pass. -/
lemma PassEnds.of_fault? {c : Call} {a : c.Answer} {e : PassError}
    (hends : PassEnds config key h r) (hmem : .asked c a ∈ h) (he : c.fault? key a = some e) :
    (callsOf h).getLast? = some c ∧ r = .error e := by
  have hnot : ¬ Unfailing key h := by
    intro hun
    have hnone : c.fault? key a = none := hun _ hmem
    rw [hnone] at he
    cases he
  cases r with
  | ok outcome => exact absurd hends.unfailing hnot
  | error e' =>
    rcases hends.failsWith with hfails | ⟨hun, -⟩
    · obtain ⟨hlast, rfl⟩ := hfails.of_mem hmem he
      exact ⟨hlast, rfl⟩
    · exact absurd hun hnot

/-- A failure of `convergeIngress` never has the label of the stage `probe`. -/
lemma ConvergeEnds.ne_probe {e : PassError} (hends : ConvergeEnds backend key d s h (.error e)) :
    e.label ≠ Stage.probe.label := by
  rcases hends.failsWith with ⟨before, c, a, os, rfl, -, he⟩ | ⟨-, ⟨reason, rfl⟩, -⟩
  · have hc : c.stage = .convergeIngress := hends.stage_of_mem (by simp)
    rw [(Call.of_fault?_eq_some he).2, hc]
    decide
  · rw [PassError.label]
    decide

/-- A pass that ends with the failure of a check has made no calls but the fetch of its domain and
checks; it wrote nothing. -/
lemma PassEnds.of_probe {k : ObjectKey} {c : Check} {e : ProbeError}
    (hends : PassEnds config key h (.error (.probe k c e))) :
    ∀ x ∈ callsOf h, x = .fetchDomain key ∨ x.stage = .probe := by
  rcases hends.parts with hfetch | ⟨d, t, e, rfl, -, hends⟩ | ⟨d, s, t, w, a, rfl, hends, hgoes⟩
  · cases hfetch
  · exact fun x hx => (List.mem_cons.1 hx).imp id hends.stage_of_mem
  · cases hgoes with
    | failed e => exact absurd rfl hends.ne_probe

end Stages

/-- The story `h` of a pass for the domain under `key` keeps to the order of the stages, and the
pass ended with `r` where it should. Each field is one rule of that order. -/
structure Orderly (key : ObjectKey) (h : List Deed) (r : Except PassError Outcome) : Prop where
  /-- The calls are the first of those of a pass that goes through all stages. -/
  calls : callsOf h = [.fetchDomain key] ∨ ∃ d x y, fetched key (some d) ∈ h ∧ IngressWrites x ∧
    StatusWrites y ∧ callsOf h <+: allCalls key d x y
  /-- A pass that asks for another one went through all stages. -/
  complete : ∀ delay converged, r = .ok (.requeue delay converged) →
    ∃ d x y, IngressWrites x ∧ StatusWrites y ∧ callsOf h = allCalls key d x y
  /-- A call that fails is the last one. -/
  stopped : ∀ c a e, .asked c a ∈ h → c.fault? key a = some e →
    (callsOf h).getLast? = some c ∧ r = .error e
  /-- A pass goes on if there is no ingress to delete any more. -/
  vanished : ∀ i e, .asked (.deleteIngress i) (.error e) ∈ h → e.isNotFound = true →
    (∃ delay converged, r = .ok (.requeue delay converged)) ∨ ∃ u a, .asked (.writeStatus u) a ∈ h
  /-- A pass ends if there is no domain. -/
  gone : fetched key none ∈ h → callsOf h = [.fetchDomain key] ∧ r = .ok .gone
  /-- An ingress is created only if none was found and the stats check passed. -/
  created : ∀ i a, .asked (.createIngress i) a ∈ h →
    lookedUp key none ∈ h ∧ ∃ d, .asked (.check .stats d) (.ok true) ∈ h
  /-- An ingress is deleted only if it was found, is not being deleted, and the stats check did not
  pass. -/
  deleted : ∀ i a, .asked (.deleteIngress i) a ∈ h → lookedUp key (some i) ∈ h ∧
    i.metadata.deletionTimestamp = none ∧ ∃ d, .asked (.check .stats d) (.ok false) ∈ h
  /-- A failure names the domain, and the stage of the call that failed or of the ingress that was
  found to be wrong. -/
  failed : ∀ e, r = .error e → e.key = key ∧
    ((∃ c a, .asked c a ∈ h ∧ c.fault? key a = some e ∧ e.label = c.stage.label) ∨ Unsound key h e)
  /-- Nothing but the domain was asked for if a check failed, and nothing was written. -/
  probed : ∀ k c e, r = .error (.probe k c e) →
    ∀ x ∈ callsOf h, x = .fetchDomain key ∨ x.stage = .probe

end Protocol

/-- **A pass is orderly**, whatever the stores and the checker answer, and however their answers
depend on what was done before: for every behaviour `b` the story of `reconcile config key` is
`Orderly`.

**Proof sketch.** What is written down is a complete story of the pass (`Behaviour.follows`), so
that by `reconcile_upholds` it is one of `PassEnds`. Each field of `Orderly` is then one lemma on
`PassEnds`. -/
theorem reconcile_orderly (config : PassConfig) (key : ObjectKey) (b : Behaviour) :
    let x := (b.carryOut (reconcile config key).run).run []
    Orderly key x.2 x.1 := by
  intro x
  have hends : PassEnds config key x.2 x.1 :=
    (reconcile_upholds config key).of_follows (b.follows (reconcile config key).run)
  exact {
    calls := hends.calls_prefix
    complete := fun delay converged hr => (hr ▸ hends).calls_eq
    stopped := fun c a e => hends.of_fault?
    vanished := fun i e => hends.of_mem_vanished
    gone := hends.of_mem_gone
    created := fun i a => hends.of_mem_create
    deleted := fun i a => hends.of_mem_delete
    failed := fun e hr => (hr ▸ hends).of_error
    probed := fun k c e hr => (hr ▸ hends).of_probe }

end MailDomain
