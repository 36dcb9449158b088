import MailDomain.Proofs.Interleaving.System
import MailDomain.Proofs.Pass.Stores

/-!
# Stats ingresses beside other writers

Any number of passes work on their stats ingresses in a store that other clients write to whenever
they like, without bringing identities of their own. The store gives no identity twice, so that a
deletion hits the incarnation that was looked up or nothing, and a creation never replaces anything.

## Main definitions

* `ingressRules` — the store of ingresses, shared with other clients.
* `turned?` — the key under which an event began or ended an incarnation.
* `Creation`, `Deletion` — how the two writes end.

## Main results

* `Step.exists_turned` — an event makes a mutation that begins or ends an incarnation where the
  event does.
* `ingress_write_safe` — everything that the work on a stats ingress does to the store.
-/

set_option relaxedAutoImplicit false
set_option autoImplicit false

namespace MailDomain.System

open Protocol MemoryStore

/-- A `Mutation` of a store of ingresses. -/
abbrev IngressMutation := Mutation (Option IngressSpec) IngressStatus

/-- The store of ingresses as a world that is shared with other clients. Of the calls, those that
read or write ingresses are answered by the store, and the others in any way. The others may do the
mutation that any `Write` makes, as long as it brings no `uid` from outside. -/
def ingressRules : Rules IngressStore IngressMutation where
  answers
    | .fetchIngress key => fun s a t => a = .ok (s.get key) ∧ t = s
    | .createIngress i => fun s a t => (a, t) = s.create i
    | .deleteIngress i => fun s a t => (a, t) = s.delete i
    | _ => fun s _ t => t = s
  others c s t := ∃ w : Write (Option IngressSpec) IngressStatus,
    c = w.mutation s ∧ t = (w.perform s).2 ∧ c.KeepsUids s

variable {ι : Type}

/-- The key under which the event began or ended an incarnation of an ingress: that of a creation or
deletion that succeeded, or of such a mutation by others. -/
def turned? : Event ι IngressMutation → Option ObjectKey
  | .deed _ (.asked (.createIngress i) (.ok _)) => i.key?
  | .deed _ (.asked (.deleteIngress i) (.ok _)) => i.key?
  | .deed _ _ => none
  | .other c => c.turned?

section Events

variable {α : Type} [DecidableEq ι] {s t : State IngressStore ι α} {e : Event ι IngressMutation}
  {key : ObjectKey}

/-- Every event makes a `Mutation` that brings no `uid` from outside, and an incarnation begins or
ends by it under the key `turned?`. -/
theorem Step.exists_turned (hstep : Step ingressRules s e t) :
    ∃ c : IngressMutation, c.Makes s.shared t.shared ∧ c.Fits s.shared ∧ c.KeepsUids s.shared ∧
      c.turned? = turned? e := by
  cases hstep with
  | @asked s t plans i c next a _ ha =>
    cases c with
    | fetchDomain key => exact ⟨.nothing, ha, trivial, trivial, rfl⟩
    | check c d => exact ⟨.nothing, ha, trivial, trivial, rfl⟩
    | fetchIngress key => exact ⟨.nothing, ha.2, trivial, trivial, rfl⟩
    | createIngress i =>
      -- a write that succeeds is a mutation of its own, one that is refused changes nothing
      have hwrite : s.create i = (a, t) := Eq.symm ha
      cases a with
      | ok _ =>
        obtain ⟨hmakes, hfits⟩ := Write.makes s (.create i)
        obtain ⟨hturned, hkeeps⟩ := Write.turned?_mutation_create hwrite
        rw [Write.perform, hwrite] at hmakes
        exact ⟨_, hmakes, hfits, hkeeps, hturned⟩
      | error e => exact ⟨.nothing, create_error hwrite, trivial, trivial, rfl⟩
    | deleteIngress i =>
      have hwrite : s.delete i = (a, t) := Eq.symm ha
      cases a with
      | ok _ =>
        obtain ⟨hmakes, hfits⟩ := Write.makes s (.delete i)
        obtain ⟨hturned, hkeeps⟩ := Write.turned?_mutation_delete hwrite
        rw [Write.perform, hwrite] at hmakes
        exact ⟨_, hmakes, hfits, hkeeps, hturned⟩
      | error e => exact ⟨.nothing, delete_error hwrite, trivial, trivial, rfl⟩
    | writeStatus d => exact ⟨.nothing, ha, trivial, trivial, rfl⟩
  | noted _ => exact ⟨.nothing, rfl, trivial, trivial, rfl⟩
  | other hw =>
    obtain ⟨w, rfl, rfl, hkeeps⟩ := hw
    exact ⟨_, (w.makes _).1, (w.makes _).2, hkeeps, rfl⟩

/-- A store that is `Valid` and in which the `uid` of every object was given by the store. -/
structure Sound (s : IngressStore) : Prop where
  valid : s.Valid
  ownUids : s.OwnUids

/-- Every event leaves a store `Sound`. -/
lemma Step.sound (hstep : Step ingressRules s e t) (hs : Sound s.shared) : Sound t.shared := by
  obtain ⟨c, hmakes, hfits, hkeeps, -⟩ := hstep.exists_turned
  exact ⟨hmakes.valid hfits hs.valid, hmakes.ownUids hkeeps hfits hs.ownUids⟩

/-- An event with another key for its `turned?` leaves the `uid` of what is under `key`. -/
lemma Step.uid_of_turned?_ne (hstep : Step ingressRules s e t) (hs : Sound s.shared)
    (he : turned? e ≠ some key) :
    (t.shared.get key).map (·.metadata.uid) = (s.shared.get key).map (·.metadata.uid) := by
  obtain ⟨c, hmakes, hfits, hkeeps, hturned⟩ := hstep.exists_turned
  exact hmakes.uid_eq hfits hkeeps hs.valid (hturned ▸ he)

variable {es : List (Event ι IngressMutation)}

/-- A run leaves a store `Sound`. -/
lemma Run.sound (hrun : Run ingressRules s es t) (hs : Sound s.shared) : Sound t.shared :=
  hrun.invariant (Q := fun _ => True) (fun hstep _ => hstep.sound) (fun _ _ => trivial) hs

/-- A run in which no event has `key` for its `turned?` leaves the `uid` of what is under `key`. -/
lemma Run.uid_of_unturned (hrun : Run ingressRules s es t) (hs : Sound s.shared)
    (hes : ∀ e ∈ es, turned? e ≠ some key) :
    (t.shared.get key).map (·.metadata.uid) = (s.shared.get key).map (·.metadata.uid) := by
  refine (hrun.invariant (P := fun u => Sound u ∧ (u.get key).map (·.metadata.uid) =
    (s.shared.get key).map (·.metadata.uid)) ?_ hes ⟨hs, rfl⟩).2
  intro u w e hstep he hu
  exact ⟨hstep.sound hu.1, (hstep.uid_of_turned?_ne hu.1 he).trans hu.2⟩

/-- After a run in which some event has `key` for its `turned?`, the ingress under `key`, if there
is one, does not have a `uid` that was given before the run.

**Proof sketch.** By `Run.once`: the event leaves a new `uid` or nothing, every other such event
does so as well, and whatever else happens leaves the `uid` under the key. -/
lemma Run.uid_ne_of_turned (hrun : Run ingressRules s es t) (hs : Sound s.shared)
    {uid : Option String} (huid : s.shared.IssuedUid uid) (hes : ∃ e ∈ es, turned? e = some key) :
    ∀ r, t.shared.get key = some r → r.metadata.uid ≠ uid := by
  refine hrun.once (P := fun u => Sound u ∧ u.IssuedUid uid)
    (R := fun u => ∀ r, u.get key = some r → r.metadata.uid ≠ uid) ?_ ?_ ?_ hes ⟨hs, huid⟩
  · intro u w e hstep hu
    obtain ⟨c, hmakes, -⟩ := hstep.exists_turned
    exact ⟨hstep.sound hu.1, hu.2.mono hmakes.version_le⟩
  · intro u w e hstep he hu r hr
    obtain ⟨c, hmakes, -, hkeeps, hturned⟩ := hstep.exists_turned
    exact hmakes.uid_ne hkeeps (hturned.trans he) hu.2 hr
  · intro u w e hstep he hu hne r hr
    have hsame := hstep.uid_of_turned?_ne hu.1 he
    rw [hr, Option.map_some] at hsame
    obtain ⟨r', hr', huid'⟩ := Option.map_eq_some_iff.1 hsame.symm
    rw [← huid']
    exact hne r' hr'

end Events

/-! ### The work on a stats ingress -/

variable {key : ObjectKey}

/-- The write was answered with a conflict about the ingress of the domain under `key`, and the work
on that ingress ends with this failure, which is a transient one. -/
def Raced (key : ObjectKey) (a : Except StoreError Unit)
    (p : Plan (Except PassError IngressAction)) : Prop :=
  ∃ reason, a = .error (.conflict Kind.ingress.name (StatsIngress.keyOf key) reason) ∧
    ∃ e : PassError, p.verdict? = some (.error e) ∧ e.isTransient = true ∧
      e = .store key .convergeIngress
        (.conflict Kind.ingress.name (StatsIngress.keyOf key) reason)

/-- How the creation of the ingress of the domain under `key` ends, where `s` and `t` are the stores
before and after, and `p` is what is left to do. -/
inductive Creation (key : ObjectKey) (a : Except StoreError Unit) (s t : IngressStore)
    (p : Plan (Except PassError IngressAction)) : Prop
  /-- There was no ingress at that moment, and now there is one. -/
  | made (vacant : s.get (StatsIngress.keyOf key) = none) (answer : a = .ok ())
    (stored : (t.get (StatsIngress.keyOf key)).isSome)
    (others : ∀ k, k ≠ StatsIngress.keyOf key → t.get k = s.get k)
    (result : p.verdict? = some (.ok .created))
  /-- Somebody else had created an ingress, which stays as it is. -/
  | preceded (taken : (s.get (StatsIngress.keyOf key)).isSome) (unchanged : t = s)
    (result : Raced key a p)

/-- How the deletion of the ingress `old` ends, which was looked up before the events `es`. -/
inductive Deletion (key : ObjectKey) (old : Ingress) (es : List (Event ι IngressMutation))
    (a : Except StoreError Unit) (s t : IngressStore) (p : Plan (Except PassError IngressAction)) :
    Prop
  /-- The incarnation that was looked up was still there, and is removed. -/
  | removed {i : Ingress} (same : ∀ e ∈ es, turned? e ≠ some (StatsIngress.keyOf key))
    (found : s.get (StatsIngress.keyOf key) = some i) (uid_eq : i.metadata.uid = old.metadata.uid)
    (identified : old.metadata.uid.isSome)
    (answer : a = .ok ()) (removed : t.get (StatsIngress.keyOf key) = none)
    (others : ∀ k, k ≠ StatsIngress.keyOf key → t.get k = s.get k)
    (result : p.verdict? = some (.ok .deleted))
  /-- The ingress had vanished, which is as good. -/
  | vanished (gone : s.get (StatsIngress.keyOf key) = none) (unchanged : t = s)
    (result : p.verdict? = some (.ok .deleted))
  /-- There was a new incarnation, which stays as it is. -/
  | recreated {i : Ingress} (turned : ∃ e ∈ es, turned? e = some (StatsIngress.keyOf key))
    (found : s.get (StatsIngress.keyOf key) = some i) (uid_ne : i.metadata.uid ≠ old.metadata.uid)
    (unchanged : t = s) (result : Raced key a p)

/-- A creation that the store answers is one of the cases of `Creation`. -/
lemma creation_of_write {s t : IngressStore} {i : Ingress} {a : Except StoreError Unit}
    {p : Plan (Except PassError IngressAction)} (hkey : i.key? = some (StatsIngress.keyOf key))
    (hwrite : (a, t) = s.create i) (hp : p.verdict? = some (afterCreation key a)) :
    Creation key a s t p := by
  cases hs : s.get (StatsIngress.keyOf key) with
  | none =>
    rw [create_of_vacant hkey hs] at hwrite
    cases hwrite
    refine .made hs rfl ?_ (fun k hk => Table.get?_insert_of_ne hk _ _) hp
    simp [MemoryStore.get, put]
  | some other =>
    rw [create_of_taken hkey hs] at hwrite
    cases hwrite
    exact .preceded (by simp [hs]) rfl ⟨_, rfl, _, hp, rfl, rfl⟩

/-- A deletion that the store answers is one of the cases of `Deletion`, if without a turn since the
look-up the `uid` is still that of `old`, and with a turn it is another. -/
lemma deletion_of_write {s t : IngressStore} {old : Ingress} {a : Except StoreError Unit}
    {p : Plan (Except PassError IngressAction)} {es : List (Event ι IngressMutation)}
    (hkey : old.key? = some (StatsIngress.keyOf key)) (huid : old.metadata.uid.isSome)
    (hsame : (∀ e ∈ es, turned? e ≠ some (StatsIngress.keyOf key)) →
      (s.get (StatsIngress.keyOf key)).map (·.metadata.uid) = some old.metadata.uid)
    (hnew : (∃ e ∈ es, turned? e = some (StatsIngress.keyOf key)) →
      ∀ r, s.get (StatsIngress.keyOf key) = some r → r.metadata.uid ≠ old.metadata.uid)
    (hwrite : (a, t) = s.delete old) (hp : p.verdict? = some (afterDeletion key a)) :
    Deletion key old es a s t p := by
  cases hs : s.get (StatsIngress.keyOf key) with
  | none =>
    rw [delete_of_vacant hkey hs] at hwrite
    cases hwrite
    exact .vanished hs rfl hp
  | some i =>
    by_cases hturned : ∃ e ∈ es, turned? e = some (StatsIngress.keyOf key)
    · have hne := hnew hturned i hs
      rw [delete_of_uid_ne hkey hs huid hne] at hwrite
      cases hwrite
      exact .recreated hturned hs hne rfl ⟨_, rfl, _, hp, rfl, rfl⟩
    · push Not at hturned
      have heq : i.metadata.uid = old.metadata.uid := by simpa [hs] using hsame hturned
      rw [delete_of_uid_eq hkey hs fun _ => heq] at hwrite
      cases hwrite
      exact .removed hturned hs heq huid rfl (Table.get?_erase_self _ _)
        (fun k hk => Table.get?_erase_of_ne hk _) hp

/-- **What the work on a stats ingress can do to the store.** It runs any number of times beside
itself, for whichever domains, while other clients act as they like, from an empty store on. Each of
its deeds changes nothing in the store, or is a creation after no ingress was looked up, or is a
deletion of the ingress that was looked up. A creation never replaces anything, and a deletion never
hits anything but the incarnation that was looked up.

**Proof sketch.** The protocol `convergeIngress_upholds` says what was done before. Part the events
at the look-up, which found what was stored then. If no incarnation began or ended under the key
since, what is stored has the `uid` of what was found, by `Run.uid_of_unturned`, and otherwise it
has not, by `Run.uid_ne_of_turned`; this is what `deletion_of_write` needs. For a creation,
`creation_of_write` looks at the present store alone. -/
theorem ingress_write_safe [DecidableEq ι] (backends : ι → StatsBackend) (keys : ι → ObjectKey)
    (domains : ι → Domain) (flags : ι → DnsStatus) {es : List (Event ι IngressMutation)}
    {s t : State IngressStore ι (Except PassError IngressAction)} {i : ι} {x : Deed}
    (hrun : Run ingressRules
      ⟨{}, fun i => (convergeIngress (backends i) (keys i) (domains i) (flags i)).run⟩ es s)
    (hstep : Step ingressRules s (.deed i x) t) :
    (t.shared = s.shared ∧ ((∃ o, x = .noted o) ∨
        ∃ a, x = .asked (.fetchIngress (StatsIngress.keyOf (keys i))) a)) ∨
      (∃ new a before after, x = .asked (.createIngress new) a ∧
        es = before ++ .deed i (lookedUp (keys i) none) :: after ∧
        Creation (keys i) a s.shared t.shared (t.plans i)) ∨
      ∃ old a before after, x = .asked (.deleteIngress old) a ∧
        es = before ++ .deed i (lookedUp (keys i) (some old)) :: after ∧
        Deletion (keys i) old after a s.shared t.shared (t.plans i) := by
  have hupholds := (convergeIngress_upholds (backends i) (keys i) (domains i) (flags i)).of_follows
    (hrun.follows i)
  rw [List.nil_append] at hupholds
  cases x with
  | noted o =>
    cases hstep with
    | noted _ => exact .inl ⟨rfl, .inl ⟨o, rfl⟩⟩
  | asked c a =>
  obtain ⟨next, hplan, hleft, hanswer⟩ := hstep.of_asked
  rw [hplan] at hupholds
  obtain ⟨hdoes, hnext⟩ := hupholds
  rcases hdoes.of_ask with ⟨-, rfl⟩ | ⟨old, hdeeds, rfl⟩ | ⟨new, hdeeds, rfl, hbuild⟩
  · exact .inl ⟨hanswer.2, .inr ⟨a, rfl⟩⟩
  · -- a deletion: the ingress was stored when it was looked up
    obtain ⟨before, after, s₁, s₂, hes, -, hbefore, ⟨hfound, hsame⟩, hrest⟩ :=
      hrun.of_deedsOf_eq_cons hdeeds
    refine .inr (.inr ⟨old, a, before, after, rfl, hes, ?_⟩)
    have hs₂ : Sound s₂.shared := by
      rw [hsame]
      exact hbefore.sound ⟨valid_empty, nofun⟩
    have hold : s₂.shared.get (StatsIngress.keyOf (keys i)) = some old := by
      rw [hsame]
      exact (Except.ok.inj hfound).symm
    have hverdict := hnext a
    rw [hdeeds] at hverdict
    rw [hleft]
    refine deletion_of_write (hs₂.valid.key_eq hold) (hs₂.valid.uid_isSome hold) (fun hun => ?_)
      (hrest.uid_ne_of_turned hs₂ (hs₂.ownUids hold)) hanswer (verdict?_of_deleteIngress hverdict)
    rw [hrest.uid_of_unturned hs₂ hun, hold, Option.map_some]
  · -- a creation: the key of what is built is that of what was looked up
    obtain ⟨before, after, hes, -⟩ := exists_of_deedsOf_eq_cons hdeeds
    refine .inr (.inl ⟨new, a, before, after, rfl, hes, ?_⟩)
    have hverdict := hnext a
    rw [hdeeds] at hverdict
    rw [hleft]
    exact creation_of_write (StatsIngress.key?_build hbuild) hanswer
      (verdict?_of_createIngress hverdict)

/-- Another client deletes an ingress and creates it again after it was looked up: the deletion of
the one that was looked up ends at a conflict. -/
theorem ingress_kept_after_recreation :
    let key : ObjectKey := ⟨"mail", "acme"⟩
    let i : Ingress := {
      metadata := { name := some "acme-stats", ns := some "mail" }
      spec := none }
    let d : Domain := {
      metadata := { name := some "acme", ns := some "mail", uid := some "uid-1" }
      spec := { baseDomain := "acme.example", dkim := ⟨"s1", "key"⟩ } }
    let es : List (Event Unit IngressMutation) := [
      .other (.added (StatsIngress.keyOf key) i),
      .deed () (lookedUp key (some (stamped i 1))),
      .other (.removed (StatsIngress.keyOf key)),
      .other (.added (StatsIngress.keyOf key) i)]
    let a : Except StoreError Unit := .error
      (.conflict Kind.ingress.name (StatsIngress.keyOf key) "uid precondition failed")
    ∃ s t : State IngressStore Unit (Except PassError IngressAction),
      Run ingressRules ⟨{}, fun _ => (convergeIngress {} key d ⟨true, false, true⟩).run⟩ es s ∧
        Step ingressRules s (.deed () (.asked (.deleteIngress (stamped i 1)) a)) t ∧
        t.shared = s.shared ∧ Raced key a (t.plans ()) := by
  intro key i d es a
  have hrun : ∃ s : State IngressStore Unit (Except PassError IngressAction),
      Run ingressRules ⟨{}, fun _ => (convergeIngress {} key d ⟨true, false, true⟩).run⟩ es s ∧
        s.shared.get (StatsIngress.keyOf key) = some (stamped i 2) ∧
        ∃ next, s.plans () = .ask (.deleteIngress (stamped i 1)) next :=
    ⟨_, .cons (.other ⟨.insert i, rfl, rfl, rfl⟩) <| .cons (.asked rfl ⟨rfl, rfl⟩) <|
      .cons (.other ⟨.delete i, rfl, rfl, trivial⟩) <|
      .cons (.other ⟨.create i, rfl, rfl, rfl⟩) <| .nil _, rfl, _, rfl⟩
  obtain ⟨s, hrun, hs, next, hnext⟩ := hrun
  have hwrite : s.shared.delete (stamped i 1) = (a, s.shared) :=
    delete_of_uid_ne rfl hs rfl (by decide)
  have hstep : Step ingressRules s (.deed () (.asked (.deleteIngress (stamped i 1)) a))
      ⟨s.shared, Function.update s.plans () (next a)⟩ := .asked hnext hwrite.symm
  refine ⟨s, _, hrun, hstep, rfl, ?_⟩
  rcases ingress_write_safe (fun _ => {}) (fun _ => key) (fun _ => d) (fun _ => ⟨true, false, true⟩)
    hrun hstep with ⟨-, ⟨o, ho⟩ | ⟨b, hb⟩⟩ | ⟨new, b, before, after, hb, -⟩ |
      ⟨old, b, before, after, hb, hes, hdeletion⟩
  · cases ho
  · cases hb
  · cases hb
  · cases hb
    cases hdeletion with
    | removed _ _ _ _ answer => exact absurd answer nofun
    | vanished gone => cases gone.symm.trans hs
    | recreated _ _ _ _ result => exact result

end MailDomain.System
