import MailDomain.Proofs.Store.Accounts

/-!
# The numbers that a store gives

A store numbers what it stores, and makes identities from these numbers for objects that bring none.
No two objects that are there have one number, and what is stored under a key later has a greater
number, whatever was deleted and created anew. If no identity comes from outside, the same holds of
identities: each belongs to one incarnation of one object, for all time.

## Main definitions

* `MemoryStore.Numbered` — the version of an object is a number.
* `MemoryStore.Ordered` — the objects of a store have numbers of their own, none of them greater
  than its version.
* `MemoryStore.Confined` — an identity was given, and stands nowhere but under one key.
* `MemoryStore.Identified` — every identity stands nowhere but under its key.
* `MemoryStore.Exchange.BringsNoUid` — a request brings no identity from outside.

## Main results

* `MemoryStore.history_invariant` — what every request keeps holds at all times.
* `MemoryStore.Mutation.Makes.ordered`, `MemoryStore.Mutation.Makes.identified` — what a mutation
  keeps.
* `MemoryStore.objects_numbered` — what always holds of the objects of a store and their numbers.
-/

set_option relaxedAutoImplicit false
set_option autoImplicit false

namespace MailDomain.MemoryStore

variable {Spec Status : Type} {s t : MemoryStore Spec Status} {c : Mutation Spec Status}
  {key : ObjectKey} {r : Resource Spec Status} {m n : Nat} {uid : Option String}
  {o : Option ObjectKey}

/-! ### Versions -/

/-- The version of the object `r` is the number `n`, in decimal digits. -/
def Numbered (r : Resource Spec Status) (n : Nat) : Prop :=
  r.metadata.resourceVersion = some (toString n)

/-- An object has one number, since a decimal text is that of one number only. -/
lemma Numbered.unique (h : Numbered r m) (h' : Numbered r n) : m = n :=
  Nat.repr_inj.1 (Option.some.inj (h.symm.trans h'))

/-- The objects of a store have numbers of their own, none of which is zero or greater than the
version of the store. -/
structure Ordered (s : MemoryStore Spec Status) : Prop where
  bounds : ∀ {k r}, s.get k = some r → ∃ n, 1 ≤ n ∧ n ≤ s.version ∧ Numbered r n
  version_injective : ∀ {k k' r r'}, s.get k = some r → s.get k' = some r' →
    r.metadata.resourceVersion = r'.metadata.resourceVersion → k = k'

/-- What stands under `key` after a mutation stood there before, or the mutation was one under `key`
and the object has the next number. -/
lemma Mutation.Makes.get_or (h : c.Makes s t) (hr : t.get key = some r) :
    s.get key = some r ∨
      c.key? = some key ∧ Numbered r (s.version + 1) ∧ t.version = s.version + 1 := by
  by_cases hk : c.key? = some key
  · obtain ⟨hnone, -⟩ | ⟨new, hnew, hv⟩ := h.get_self hk
    · rw [hnone] at hr
      cases hr
    · rw [hnew] at hr
      cases hr
      exact .inr ⟨hk, rfl, hv⟩
  · rw [h.get_of_ne hk] at hr
    exact .inl hr

/-- The version of an object that is there was given by the store. -/
lemma Ordered.issued (hs : s.Ordered) (hr : s.get key = some r) :
    s.Issued r.metadata.resourceVersion := by
  obtain ⟨n, -, hle, hn⟩ := hs.bounds hr
  exact ⟨n, hle, hn⟩

/-- A mutation leaves the objects of a store with numbers of their own: only what it puts gets a new
one, which is greater than all others. -/
theorem Mutation.Makes.ordered (h : c.Makes s t) (hs : s.Ordered) : t.Ordered where
  bounds hr := by
    rcases h.get_or hr with hr | ⟨-, hn, hv⟩
    · obtain ⟨n, hpos, hle, hn⟩ := hs.bounds hr
      exact ⟨n, hpos, hle.trans h.version_le, hn⟩
    · exact ⟨s.version + 1, by omega, hv.ge, hn⟩
  version_injective hr hr' hv := by
    rcases h.get_or hr with hold | ⟨hk, hnew, -⟩ <;>
      rcases h.get_or hr' with hold' | ⟨hk', hnew', -⟩
    · exact hs.version_injective hold hold' hv
    · exact absurd (hnew'.symm.trans hv.symm) (hs.issued hold).ne_next
    · exact absurd (hnew.symm.trans hv) (hs.issued hold').ne_next
    · exact Option.some.inj (hk.symm.trans hk')

/-- There is nothing in an empty store that could share a number. -/
lemma ordered_empty : ({} : MemoryStore Spec Status).Ordered := ⟨nofun, nofun⟩

/-! ### Identities -/

/-- The identity `uid` was made by the store `s`, and no object has it but the one under the key
`o`, or none at all if `o` is `none`. -/
structure Confined (s : MemoryStore Spec Status) (uid : Option String) (o : Option ObjectKey) :
    Prop where
  issued : s.IssuedUid uid
  key_eq : ∀ {k r}, s.get k = some r → r.metadata.uid = uid → o = some k

/-- Every identity of an object is `Confined` to the key under which the object lies. -/
def Identified (s : MemoryStore Spec Status) : Prop :=
  ∀ {k r}, s.get k = some r → s.Confined r.metadata.uid (some k)

/-- The key at which an incarnation begins or ends is the key of the mutation. -/
lemma Mutation.key?_of_turned? (hk : c.turned? = some key) : c.key? = some key := by
  cases c with
  | nothing => cases hk
  | added k r => exact hk
  | rewritten k r => cases hk
  | removed k => exact hk

/-- If no identity comes from outside, an identity that is confined to `o` stays so under a
mutation. -/
theorem Mutation.Makes.confined (h : c.Makes s t) (hf : c.Fits s) (hc : c.KeepsUids s)
    (hs : s.Valid) (hu : s.Confined uid o) : t.Confined uid o where
  issued := hu.issued.mono h.version_le
  key_eq {k r} hr huid := by
    by_cases hk : c.turned? = some k
    · exact absurd huid (h.uid_ne hc hk hu.issued hr)
    · have hsame := h.uid_eq hf hc hs hk
      rw [hr] at hsame
      obtain ⟨old, hold, hsame⟩ := Option.map_eq_some_iff.1 hsame.symm
      exact hu.key_eq hold (hsame.trans huid)

/-- If an incarnation ends under `key`, and no identity comes from outside, the identity that was
confined to `key` is confined to no key afterwards. -/
lemma Mutation.Makes.confined_of_turned (h : c.Makes s t) (hf : c.Fits s) (hc : c.KeepsUids s)
    (hs : s.Valid) (hk : c.turned? = some key) (hu : s.Confined uid (some key)) :
    t.Confined uid none where
  issued := hu.issued.mono h.version_le
  key_eq hr huid := by
    cases (h.confined hf hc hs hu).key_eq hr huid
    exact absurd huid (h.uid_ne hc hk hu.issued hr)

/-- A mutation leaves every identity confined to its key, if no identity comes from outside.

**Proof sketch.** The identity of a new incarnation is made from the next number, so that nothing
else has it. Any other identity stood under its key before, and stays confined by
`Mutation.Makes.confined`. -/
theorem Mutation.Makes.identified (h : c.Makes s t) (hf : c.Fits s) (hc : c.KeepsUids s)
    (hs : s.Valid) (hi : s.Identified) : t.Identified := by
  intro k r hr
  by_cases hk : c.turned? = some k
  · have hissued : t.IssuedUid r.metadata.uid := h.ownUids hc hf (fun hr => (hi hr).issued) hr
    refine ⟨hissued, fun {k' r'} hr' huid => ?_⟩
    by_contra hne
    have hk' : c.key? ≠ some k' := fun he => hne ((key?_of_turned? hk).symm.trans he)
    rw [h.get_of_ne hk'] at hr'
    exact h.uid_ne hc hk (hi hr').issued hr huid.symm
  · have hsame := h.uid_eq hf hc hs hk
    rw [hr] at hsame
    obtain ⟨old, hold, hsame⟩ := Option.map_eq_some_iff.1 hsame.symm
    have hsame : old.metadata.uid = r.metadata.uid := hsame
    exact hsame ▸ h.confined hf hc hs (hi hold)

/-- There is no identity in an empty store. -/
lemma identified_empty : ({} : MemoryStore Spec Status).Identified := nofun

/-! ### Requests -/

variable [Manifest (Resource Spec Status)] {qs : List (Request Spec Status)}

/-- An invariant `P` of stores that every exchange keeps of which `Q` holds is true of the store
after all requests, if `Q` holds of each exchange. -/
theorem history_invariant {P : MemoryStore Spec Status → Prop} {Q : Exchange Spec Status → Prop}
    (hstep : ∀ {e : Exchange Spec Status}, Q e → P e.before → P e.after) (hs : P s)
    (hqs : ∀ e ∈ history s qs, Q e) : P (served s qs) := by
  induction qs generalizing s with
  | nil => exact hs
  | cons q qs ih =>
    obtain ⟨hq, hqs⟩ := List.forall_mem_cons.1 hqs
    exact ih (hstep hq hs) hqs

/-- The objects of a store have numbers of their own after any requests. -/
lemma Ordered.served (hs : s.Ordered) (qs : List (Request Spec Status)) :
    (served s qs).Ordered :=
  history_invariant (Q := fun _ => True) (fun {e} _ h => e.makes.1.ordered h) hs fun _ _ => trivial

/-- A store that begins valid is valid after any requests. -/
lemma Valid.served (hs : s.Valid) (qs : List (Request Spec Status)) : (served s qs).Valid :=
  history_invariant (Q := fun _ => True) (fun _ h => Exchange.valid_after h) hs fun _ _ => trivial

/-- What stands under `key` stays there if no request takes effect under it. -/
lemma get_served_of_untouched (hnot : ∀ e ∈ history s qs, ¬ e.Touches key) :
    (served s qs).get key = s.get key :=
  history_invariant (P := fun t => t.get key = s.get key) (Q := fun e => ¬ e.Touches key)
    (fun hnot h => (Exchange.get_of_not_touches hnot).trans h) rfl hnot

/-- If some request takes effect under `key`, then what stands there in the end has a greater number
than `s` had given.

**Proof sketch.** Induction on the requests. After the last one that takes effect under the key,
what it stored stands there with the number that was next. -/
lemma version_lt_of_touched (htouch : ∃ e ∈ history s qs, e.Touches key)
    (hr : (served s qs).get key = some r) : ∃ n, s.version < n ∧ Numbered r n := by
  induction qs generalizing s with
  | nil => simp [history] at htouch
  | cons q qs ih =>
    have hmakes := (Exchange.makes ⟨s, q⟩).1
    -- is the key touched again after the first request?
    by_cases hlater : ∃ e ∈ history (Exchange.after ⟨s, q⟩) qs, e.Touches key
    · obtain ⟨n, hlt, hn⟩ := ih hlater hr
      exact ⟨n, hmakes.version_le.trans_lt hlt, hn⟩
    · -- nothing later touches the key, so that what the first request stored is still there
      have hnot : ∀ e ∈ history (Exchange.after ⟨s, q⟩) qs, ¬ e.Touches key :=
        fun e he htouch => hlater ⟨e, he, htouch⟩
      obtain ⟨e, he, hfirst⟩ := htouch
      obtain rfl := (List.mem_cons.1 he).resolve_right fun he => hnot e he hfirst
      have hr : (Exchange.after ⟨s, q⟩).get key = some r :=
        (get_served_of_untouched hnot).symm.trans hr
      obtain ⟨hnone, -⟩ | ⟨new, hnew, -⟩ := hmakes.get_self hfirst
      · rw [hnone] at hr
        cases hr
      · rw [hnew] at hr
        cases hr
        exact ⟨s.version + 1, Nat.lt_succ_self _, rfl⟩

section OwnIdentities

variable (hs : s.Valid) (hqs : ∀ e ∈ history s qs, e.mutation.KeepsUids e.before)

include hs hqs

/-- Every identity stays confined to its key if no request brings one from outside. -/
lemma Identified.served (hi : s.Identified) : (served s qs).Identified :=
  (history_invariant (P := fun t => t.Valid ∧ t.Identified)
    (fun {e} hc h => ⟨Exchange.valid_after h.1, e.makes.1.identified e.makes.2 hc h.1 h.2⟩)
    ⟨hs, hi⟩ hqs).2

/-- An identity that is confined to `o` stays so after any requests that bring none from outside. -/
lemma Confined.served (hu : s.Confined uid o) : (served s qs).Confined uid o :=
  (history_invariant (P := fun t => t.Valid ∧ t.Confined uid o)
    (fun {e} hc h => ⟨Exchange.valid_after h.1, e.makes.1.confined e.makes.2 hc h.1 h.2⟩)
    ⟨hs, hu⟩ hqs).2

/-- If an incarnation under `key` ends or another begins there, then the identity that was confined
to `key` is confined to no key afterwards, and never comes back. -/
lemma Confined.served_of_turned (hu : s.Confined uid (some key))
    (hturn : ∃ e ∈ history s qs, e.mutation.turned? = some key) :
    (MemoryStore.served s qs).Confined uid none := by
  induction qs generalizing s with
  | nil => simp [history] at hturn
  | cons q qs ih =>
    obtain ⟨hmakes, hfits⟩ := Exchange.makes ⟨s, q⟩
    obtain ⟨hc, hqs⟩ := List.forall_mem_cons.1 hqs
    have hs' : (Exchange.after ⟨s, q⟩).Valid := Exchange.valid_after hs
    obtain ⟨e, he, hturn⟩ := hturn
    change (MemoryStore.served (Exchange.after ⟨s, q⟩) qs).Confined uid none
    rcases List.mem_cons.1 he with rfl | he
    · exact (hmakes.confined_of_turned hfits hc hs hturn hu).served hs' hqs
    · exact ih hs' hqs (hmakes.confined hfits hc hs hu) ⟨e, he, hturn⟩

end OwnIdentities

/-- A request brings no identity from outside: an object that is inserted has none, and one whose
status is written has that of the stored object. -/
def Exchange.BringsNoUid (e : Exchange Spec Status) : Prop :=
  match e.request with
  | .write (.insert r) => r.metadata.uid = none
  | .write (.updateStatus r) => e.Succeeds → ∀ k old, r.key? = some k → e.before.get k = some old →
    r.metadata.uid = old.metadata.uid
  | .write (.create _) | .write (.delete _) | .write (.bump _) | .get _ => True

/-- A request that brings no identity from outside makes a mutation that keeps the identities of the
store. -/
lemma Exchange.keepsUids {e : Exchange Spec Status} (he : e.BringsNoUid) :
    e.mutation.KeepsUids e.before := by
  obtain ⟨s, key | ⟨r⟩ | ⟨r⟩ | ⟨r⟩ | ⟨r⟩ | k⟩ := e
  · trivial
  all_goals simp only [mutation, Write.mutation]
  · cases r.key? with
    | none => trivial
    | some k => exact he
  · split
    · cases r.key? with
      | none => trivial
      | some k => rfl
    · trivial
  · split
    · cases r.key? <;> trivial
    · trivial
  · split
    · next hdone =>
      cases hr : r.key? with
      | none => trivial
      -- only here the object of the request could bring an identity along
      | some k => exact fun old hold => he (congrArg Reply.written hdone) k old hr hold
    · trivial
  · cases hs : s.get k with
    | none => trivial
    | some r =>
      intro old hold
      rw [Option.some.inj (hs.symm.trans hold)]

/-- **The objects of a store are numbered.** Let a store that begins empty be asked for anything any
number of times, and then for some more. Each object that is there lies under its own key, has an
identity, and has for its version a number that is not zero and not greater than the version of the
store. No two of them have the same. The version of the store is the number of insertions,
creations, status writes and bumps that took effect. What is stored under a key later has a greater
number than what was there, whatever was deleted and created anew in between. If no identity comes
from outside, then no two objects have the same identity, and an object with one that was there
before is still the same incarnation, under the same key.

**Proof sketch.** Each fact about one time is an invariant of mutations, carried over the requests
by `history_invariant`: `Valid`, `Ordered` and `Identified`. The version is one of the
`served_accounts`. A request that takes effect under a key leaves the next number there
(`version_lt_of_touched`). An identity that was given never spreads to other keys, and when its
incarnation ends it is nowhere (`Confined.served_of_turned`). -/
theorem objects_numbered (qs qs' : List (Request Spec Status)) :
    let s : MemoryStore Spec Status := served {} qs
    let t := served s qs'
    let es := history {} qs
    (∀ key r, s.get key = some r → r.key? = some key ∧ r.metadata.uid.isSome ∧
        ∃ n, 1 ≤ n ∧ n ≤ s.version ∧ r.metadata.resourceVersion = some (toString n)) ∧
      (∀ key key' r r', s.get key = some r → s.get key' = some r' →
        r.metadata.resourceVersion = r'.metadata.resourceVersion → key = key') ∧
      s.version =
        successes .insert es + successes .create es + successes .updateStatus es + bumps es ∧
      (∀ key r r' m n, s.get key = some r → t.get key = some r' →
        (∃ e ∈ history s qs', e.Touches key) → Numbered r m → Numbered r' n → m < n) ∧
      ((∀ e ∈ es ++ history s qs', e.BringsNoUid) →
        (∀ key key' r r', s.get key = some r → s.get key' = some r' →
          r.metadata.uid = r'.metadata.uid → key = key') ∧
        ∀ key key' r r', s.get key = some r → t.get key' = some r' →
          r'.metadata.uid = r.metadata.uid →
            key' = key ∧ ∀ e ∈ history s qs', e.mutation.turned? ≠ some key) := by
  intro s t es
  have hvalid : s.Valid := valid_empty.served qs
  have hordered : s.Ordered := ordered_empty.served qs
  refine ⟨?_, ?_, ?_, ?_, fun hbrings => ?_⟩
  · exact fun key r hr => ⟨hvalid.key_eq hr, hvalid.uid_isSome hr, hordered.bounds hr⟩
  · exact fun key key' r r' => hordered.version_injective
  · exact (served_accounts {} qs).version.trans (Nat.zero_add _)
  · intro key r r' m n hr hr' htouch hm hn
    obtain ⟨k, -, hle, hk⟩ := hordered.bounds hr
    obtain ⟨k', hlt, hk'⟩ := version_lt_of_touched htouch hr'
    obtain rfl := hm.unique hk
    obtain rfl := hn.unique hk'
    exact hle.trans_lt hlt
  · obtain ⟨hes, hlater⟩ :=
      List.forall_mem_append.1 fun e he => Exchange.keepsUids (hbrings e he)
    have hidentified : s.Identified := identified_empty.served valid_empty hes
    refine ⟨?_, ?_⟩
    · intro key key' r r' hr hr' huid
      exact Option.some.inj ((hidentified hr).key_eq hr' huid.symm)
    · intro key key' r r' hr hr' huid
      refine ⟨?_, fun e he hturn => ?_⟩
      · exact (Option.some.inj (((hidentified hr).served hvalid hlater).key_eq hr' huid)).symm
      · cases ((hidentified hr).served_of_turned hvalid hlater ⟨e, he, hturn⟩).key_eq hr' huid

/-- A domain is inserted, and another is created and bumped. Then the first is deleted and created
anew, and a status is written to it: its number is greater and its identity another one. -/
theorem objects_numbered_anew :
    let d : Domain := {
      metadata := { name := some "acme", ns := some "mail" }
      spec := { baseDomain := "acme.example", dkim := ⟨"s1", "key"⟩ } }
    let other : Domain := { d with metadata := { d.metadata with name := some "other" } }
    let qs : List (Request DomainSpec DomainStatus) :=
      [.write (.insert d), .write (.create other), .write (.bump ⟨"mail", "other"⟩)]
    let qs' : List (Request DomainSpec DomainStatus) :=
      [.write (.delete d), .write (.create d), .write (.updateStatus (stamped d 4))]
    let s : MemoryStore DomainSpec DomainStatus := served {} qs
    let t := served s qs'
    s.version = 3 ∧ ∃ r r', s.get ⟨"mail", "acme"⟩ = some r ∧ t.get ⟨"mail", "acme"⟩ = some r' ∧
      (∀ m n, Numbered r m → Numbered r' n → m < n) ∧ r'.metadata.uid ≠ r.metadata.uid := by
  intro d other qs qs' s t
  obtain ⟨-, -, hversion, hgrows, huids⟩ := objects_numbered qs qs'
  have hr : s.get ⟨"mail", "acme"⟩ = some (stamped d 1) := by decide +kernel
  have hr' : t.get ⟨"mail", "acme"⟩ = some (stamped (stamped d 4) 5) := by decide +kernel
  have hdeleted : Exchange.mutation ⟨s, .write (.delete d)⟩ = .removed ⟨"mail", "acme"⟩ := by
    have hdone : (s.delete d).1 = .ok () := by decide +kernel
    simp only [Exchange.mutation, Write.mutation, hdone]
    rfl
  have hbrings : ∀ e ∈ history {} qs ++ history s qs', e.BringsNoUid := by
    have hstored : (Exchange.after ⟨Exchange.after ⟨s, .write (.delete d)⟩,
        .write (.create d)⟩).get ⟨"mail", "acme"⟩ = some (stamped d 4) := by decide +kernel
    refine List.forall_mem_append.2 ⟨?_, ?_⟩ <;>
      simp only [qs, qs', history, List.forall_mem_cons, List.not_mem_nil, false_imp_iff,
        implies_true, and_true, Exchange.BringsNoUid, true_and]
    · rfl
    · intro _ k old hk hold
      cases hk
      rw [hstored] at hold
      exact congrArg (·.metadata.uid) (Option.some.inj hold)
  refine ⟨hversion.trans (by decide +kernel), _, _, hr, hr', ?_, ?_⟩
  · intro m n hm hn
    refine hgrows _ _ _ m n hr hr' ⟨⟨s, .write (.delete d)⟩, List.mem_cons_self, ?_⟩ hm hn
    rw [Exchange.Touches, hdeleted, Mutation.key?]
  · intro huid
    refine ((huids hbrings).2 _ _ _ _ hr hr' huid).2 ⟨s, .write (.delete d)⟩ List.mem_cons_self ?_
    rw [hdeleted, Mutation.turned?]

end MailDomain.MemoryStore
