import MailDomain.Proofs.Convergence.Existence
import MailDomain.Proofs.Interleaving.Independence
import MailDomain.Proofs.Pass.Diary

/-!
# Every ingress is the one of a domain

Where only passes write ingresses, and other clients leave the domains what they are, every ingress
that is stored is the one that would be built for a stored domain. So no pass finds an ingress that
something else manages, and an ingress that comes back is what it was.

## Main definitions

* `Identity`, `identityOf` — what of a domain its ingress is made from.
* `StatsIngress.unstamped` — an ingress without what a store gave it.
* `Stores.Canonical` — every ingress is that of a stored domain.
* `Diary.turnsOf` — the creations and deletions of the ingress under a key.
* `Stores.Kept`, `Diary.Kept` — the invariant, of stores and of what happened to them.

## Main results

* `Stores.Kept.answer` — a call keeps the invariant.
* `Diary.leads_kept` — so does the story of a pass.
* `Diary.visits_canonical` — the invariant over any number of passes, and what follows from it.
-/

set_option relaxedAutoImplicit false
set_option autoImplicit false

namespace MailDomain

open Protocol MemoryStore

/-! ### What an ingress is made from -/

/-- The part of a domain that its stats ingress is made from: `name` and `uid` go into the owner
reference, `spec` into the host. Neither the status nor the resource version is among them. -/
structure Identity where
  name : String
  uid : Option String
  spec : DomainSpec

/-- The `Identity` of the domain `d`. `StatsIngress.build` reads nothing else of `d`, see
`build_congr`. -/
def identityOf (d : Domain) : Identity := ⟨d.metadata.anyName, d.metadata.uid, d.spec⟩

namespace StatsIngress

/-- The ingress `i` without the `uid` and the `resourceVersion` that a store gave it, which is what
`StatsIngress.build` returned before the ingress was created. -/
def unstamped (i : Ingress) : Ingress :=
  { i with metadata := { i.metadata with uid := none, resourceVersion := none } }

variable {key : ObjectKey} {d e : Domain} {backend : StatsBackend} {i : Ingress}

/-- Domains with the same `identityOf` have the same ingress, for `build` reads the name, the `uid`
and the `spec` and nothing else. -/
lemma build_congr (h : identityOf d = identityOf e) :
    build key d backend = build key e backend := by
  obtain ⟨hname, huid, hspec⟩ := Identity.mk.inj h
  rw [build, build, ownerOf?, ownerOf?, specOf, specOf, hname, huid, hspec]

/-- An ingress that `build` returns carries no `uid` and no `resourceVersion`, so `unstamped`
changes nothing in it. -/
lemma unstamped_of_build (h : build key d backend = .ok i) : unstamped i = i := by
  unfold build at h
  split at h
  · cases h
  · cases h
    rfl

/-- If `build` makes the ingress `unstamped i` for the domain `d`, its only owner is `d`, and so
`ownedByOther` does not hold against any domain `e` with the same `identityOf`. -/
lemma ownedByOther_of_build (hd : identityOf d = identityOf e)
    (h : build key d backend = .ok (unstamped i)) : ownedByOther i e = false := by
  have huid : d.metadata.uid = e.metadata.uid := congrArg Identity.uid hd
  unfold build ownerOf? at h
  cases hu : d.metadata.uid with
  | none =>
    rw [hu] at h
    cases h
  | some uid =>
    rw [hu] at h
    have howners : (unstamped i).metadata.owners = i.metadata.owners := rfl
    have hstored : e.metadata.uid.isSome := by rw [← huid, hu, Option.isSome_some]
    rw [ownedByOther_eq_false_iff hstored, ← howners, ← Except.ok.inj h, ← huid, hu]
    simp [ObjectMeta.owners]

end StatsIngress

open StatsIngress

/-- The stores `s` and `t` hold domains under the same keys, and those under one key have the same
`identityOf`. Their status and version may have been written in between. -/
def Kindred (s t : DomainStore) : Prop :=
  ∀ key, (t.get key).map identityOf = (s.get key).map identityOf

/-- The domain `d` has the key `key` and a `uid`, and its `identityOf` is that of the domain which
`s` holds under `key`. This is what remains true of a domain that a pass fetched when others revise
it afterwards. -/
structure Genuine (s : DomainStore) (key : ObjectKey) (d : Domain) : Prop where
  key_eq : d.key? = some key
  uid_isSome : d.metadata.uid.isSome
  stored : (s.get key).map identityOf = some (identityOf d)

/-- The ingress `i` under `k` was built for a domain of the store `s`: `k` is `keyOf key` for the
`key` of a stored domain `d`, and `build` returns `unstamped i` for `d`. -/
def IsBuilt (s : DomainStore) (backend : StatsBackend) (k : ObjectKey) (i : Ingress) : Prop :=
  ∃ key d, s.get key = some d ∧ k = keyOf key ∧ build key d backend = .ok (unstamped i)

variable {s t u : DomainStore} {key k : ObjectKey} {d e : Domain} {i : Ingress}
  {backend : StatsBackend}

/-- Stores that are `Kindred` one after the other are `Kindred` from the first to the last. -/
lemma Kindred.trans (h : Kindred s t) (h' : Kindred t u) : Kindred s u :=
  fun key => (h' key).trans (h key)

/-- An ingress that `IsBuilt` from a store is built from every `Kindred` store too, by
`build_congr`. -/
lemma IsBuilt.of_kindred (h : Kindred t s) (hi : IsBuilt s backend k i) :
    IsBuilt t backend k i := by
  obtain ⟨key, d, hd, hk, hb⟩ := hi
  have hkin := h key
  rw [hd, Option.map_some, eq_comm, Option.map_eq_some_iff] at hkin
  obtain ⟨e, he, hkin⟩ := hkin
  exact ⟨key, e, he, hk, (build_congr hkin).trans hb⟩

/-- If `build` makes `i` for a `Genuine` domain `d`, then each `j` that differs from `i` by what a
store stamps on it `IsBuilt` from the store in which `d` is genuine. -/
lemma Genuine.isBuilt {j : Ingress} (hd : Genuine s key d) (hi : build key d backend = .ok i)
    (hj : unstamped j = unstamped i) : IsBuilt s backend (keyOf key) j := by
  obtain ⟨e, he, hkin⟩ := Option.map_eq_some_iff.1 hd.stored
  refine ⟨key, e, he, rfl, ?_⟩
  rw [build_congr hkin, hi, hj, unstamped_of_build hi]

/-- An ingress that `IsBuilt` under `keyOf key` is not `ownedByOther` for a domain that is `Genuine`
under `key`: since `keyOf` is injective, both speak of the same domain. -/
lemma IsBuilt.ownedByOther_eq_false (hi : IsBuilt s backend (keyOf key) i) (hd : Genuine s key d) :
    ownedByOther i d = false := by
  obtain ⟨key', e, he, hk, hb⟩ := hi
  cases keyOf_injective hk
  have hkin := hd.stored
  rw [he, Option.map_some, Option.some_inj] at hkin
  exact ownedByOther_of_build hkin hb

/-! ### The invariant of the stores -/

/-- A status write of `e` over the stored domain `d` leaves the store `Kindred`, if `e` names the
same key and has the same `identityOf`. A write that is refused leaves it as it is. -/
lemma kindred_updateStatus (hs : s.Valid) (hd : s.get key = some d) (hkey : e.key? = some key)
    (he : identityOf e = identityOf d) : Kindred s (s.updateStatus e).2 := by
  rcases hr : s.updateStatus e with ⟨x | _, t⟩
  · exact updateStatus_error hr ▸ fun _ => rfl
  · obtain ⟨_, _, hkey', -, -, rfl⟩ := updateStatus_ok hr
    cases hkey.symm.trans hkey'
    intro k
    by_cases hk : k = key
    · obtain ⟨uid, hu⟩ := Option.isSome_iff_exists.1 (hs.uid_isSome hd)
      have hnew : MemoryStore.get { s.put key e with
          writes := { s.writes with statusUpdates := s.writes.statusUpdates + 1 } } k =
            some (stamped e (s.version + 1)) := by
        rw [hk]
        exact Table.get?_insert_self ..
      have huid : e.metadata.uid = some uid := (congrArg Identity.uid he).trans hu
      rw [hnew, hk, hd, Option.map_some, Option.map_some, ← he]
      simp [identityOf, stamped, huid, ObjectMeta.anyName]
    · exact congrArg _ (Table.get?_insert_of_ne hk ..)

/-- A `Revision`, which is a write of the status by another client, leaves a store `Kindred` to what
it was. -/
lemma Revision.kindred (hs : s.Valid) (r : Revision) : Kindred s (r.perform s) := by
  unfold Revision.perform
  split
  · exact fun _ => rfl
  · next d hd =>
    have hkey : d.key? = some r.key := hs.key_eq hd
    obtain ⟨name, hname, -⟩ := Option.bind_eq_some_iff.1 hkey
    refine kindred_updateStatus hs hd hkey ?_
    simp [identityOf, Revision.of, ObjectMeta.anyName, hname]

/-- A `Revision` leaves a store `Valid`, whether or not there is a domain to revise. -/
lemma Revision.valid (hs : s.Valid) (r : Revision) : (r.perform s).Valid := by
  unfold Revision.perform
  split
  · exact hs
  · next d _ => exact hs.perform (.updateStatus (r.of d))

namespace Stores

/-- Every ingress of the stores `IsBuilt` from a domain that is stored now, with the backend
`backend`. -/
def Canonical (backend : StatsBackend) (s : Stores) : Prop :=
  ∀ k i, s.ingresses.get k = some i → IsBuilt s.domains backend k i

/-- The invariant of the stores, against the store `start` of domains from which the passes began:
both stores are `Valid`, the domains are `Kindred` to those of `start`, and every ingress `IsBuilt`
from `start`. -/
structure Kept (start : DomainStore) (backend : StatsBackend) (s : Stores) : Prop where
  domains : s.domains.Valid
  ingresses : s.ingresses.Valid
  kindred : Kindred start s.domains
  built : ∀ {k i}, s.ingresses.get k = some i → IsBuilt start backend k i

variable {start : DomainStore} {s : Stores} {checker : Checker} {fate : Fate}

/-- A domain that `Kept` stores hold under `key` is `Genuine` in `start`. -/
lemma Kept.genuine (hs : s.Kept start backend) (hd : s.domains.get key = some d) :
    Genuine start key d :=
  ⟨hs.domains.key_eq hd, hs.domains.uid_isSome hd, by rw [← hs.kindred, hd, Option.map_some]⟩

/-- Stores that are `Kept` are `Canonical`: an ingress that `IsBuilt` from `start` is built from the
domains as they are now, since these are `Kindred`. -/
lemma Kept.canonical (hs : s.Kept start backend) : s.Canonical backend :=
  fun _ _ hi => (hs.built hi).of_kindred fun key => (hs.kindred key).symm

end Stores

/-- What is true of the calls that passes make: an ingress that they create is what `build` returns
for a `Genuine` domain, and a status that they write is that of a `Genuine` domain. The other calls
read only, or take something away. -/
def Call.Proper (start : DomainStore) (backend : StatsBackend) : Call → Prop
  | .createIngress i => ∃ key d, Genuine start key d ∧ build key d backend = .ok i
  | .writeStatus d => ∃ key, Genuine start key d
  | _ => True

namespace Stores

variable {start : DomainStore} {s : Stores} {checker : Checker} {fate : Fate}

/-- **A call keeps the invariant** `Stores.Kept`, if it is a `Proper` one.

**Proof sketch.** By cases on the call. A creation puts an ingress under `keyOf key` that `IsBuilt`
by `Genuine.isBuilt`, and leaves the other keys alone. After a deletion the ingresses are among
those that were there before. A status write leaves the domains `Kindred` by `kindred_updateStatus`.
The remaining calls change no store. -/
theorem Kept.answer (hs : s.Kept start backend) {c : Call} (hc : c.Proper start backend) :
    (answer checker c s).2.Kept start backend := by
  cases c with
  | fetchDomain key => exact hs
  | check c d => exact hs
  | fetchIngress key => exact hs
  | createIngress i =>
    obtain ⟨key, d, hd, hi⟩ := hc
    refine ⟨hs.domains, hs.ingresses.perform (.create i), hs.kindred, fun {k j} hj => ?_⟩
    change (s.ingresses.create i).2.get k = some j at hj
    rcases hr : s.ingresses.create i with ⟨e | _, t⟩
    · rw [hr, create_error hr] at hj
      exact hs.built hj
    · rw [hr] at hj
      obtain ⟨_, hkey, -, rfl⟩ := create_ok hr
      -- the new ingress lies under the key that `build` gives it, and all others are as before
      cases hkey.symm.trans (key?_build hi)
      by_cases hk : k = keyOf key
      · subst hk
        cases (Table.get?_insert_self ..).symm.trans hj
        exact hd.isBuilt hi rfl
      · exact hs.built ((Table.get?_insert_of_ne hk ..).symm.trans hj)
  | deleteIngress i =>
    refine ⟨hs.domains, hs.ingresses.perform (.delete i), hs.kindred, fun {k j} hj => ?_⟩
    change (s.ingresses.delete i).2.get k = some j at hj
    rcases hr : s.ingresses.delete i with ⟨e | _, t⟩
    · rw [hr, delete_error hr] at hj
      exact hs.built hj
    · rw [hr] at hj
      obtain ⟨key, _, -, -, rfl⟩ := delete_ok hr
      by_cases hk : k = key
      · subst hk
        cases (Table.get?_erase_self ..).symm.trans hj
      · exact hs.built ((Table.get?_erase_of_ne hk ..).symm.trans hj)
  | writeStatus d =>
    obtain ⟨key, hd⟩ := hc
    -- the domain written is the one stored but for its status, so that the store stays `Kindred`
    have hstored := hd.stored
    rw [← hs.kindred, Option.map_eq_some_iff] at hstored
    obtain ⟨e, he, hkin⟩ := hstored
    exact ⟨hs.domains.perform (.updateStatus d), hs.ingresses,
      hs.kindred.trans (kindred_updateStatus hs.domains he hd.key_eq hkin.symm), hs.built⟩

/-- A `Proper` call keeps `Stores.Kept` whatever its `fate`: it is answered by the stores, or it
fails and leaves them alone. -/
lemma Kept.respond (hs : s.Kept start backend) {c : Call} (hc : c.Proper start backend) :
    (respond checker fate c s).2.Kept start backend := by
  unfold Stores.respond
  split
  · exact hs
  · exact hs.answer hc

/-- An observation goes to the metrics and keeps `Stores.Kept`. -/
lemma Kept.note (hs : s.Kept start backend) (o : Observation) : (s.note o).Kept start backend :=
  ⟨hs.domains, hs.ingresses, hs.kindred, hs.built⟩

/-- A `Revision` of the domains keeps `Stores.Kept`, by `Revision.kindred` and `Revision.valid`. -/
lemma Kept.revise (hs : s.Kept start backend) (r : Revision) :
    Kept start backend { s with domains := r.perform s.domains } :=
  ⟨r.valid hs.domains, hs.ingresses, hs.kindred.trans (r.kindred hs.domains), hs.built⟩

/-- The ingress under `k` begins or ceases to be there by a call exactly if the call is a creation
or deletion under `k` that succeeded, which is when its `turn?` is `true` or `false`. -/
lemma isSome_of_respond {c : Call} {a : c.Answer} {t : Stores}
    (h : respond checker fate c s = (a, t)) (k : ObjectKey) :
    match (Happening.deed (.asked c a)).turn? k with
    | none => (t.ingresses.get k).isSome = (s.ingresses.get k).isSome
    | some b => (s.ingresses.get k).isSome = !b ∧ (t.ingresses.get k).isSome = b := by
  unfold Stores.respond at h
  cases hf : fate.failure c with
  | some e =>
    rw [hf] at h
    cases h
    cases c <;> rfl
  | none =>
    rw [hf] at h
    cases c with
    | createIngress i =>
      rw [Stores.answer] at h
      rcases hr : s.ingresses.create i with ⟨e | _, t'⟩
      · rw [hr, create_error hr] at h
        cases h
        rfl
      · obtain ⟨key, hkey, hvacant, rfl⟩ := create_ok hr
        rw [hr] at h
        rw [MemoryStore.get] at hvacant
        cases h
        by_cases hk : key = k
        · subst hk
          simp [Happening.turn?, hkey, hvacant, MemoryStore.get, put]
        · simp [Happening.turn?, hkey, hk, MemoryStore.get, put,
            Table.get?_insert_of_ne (Ne.symm hk)]
    | deleteIngress i =>
      rw [Stores.answer] at h
      rcases hr : s.ingresses.delete i with ⟨e | _, t'⟩
      · rw [hr, delete_error hr] at h
        cases h
        rfl
      · obtain ⟨key, old, hkey, hold, rfl⟩ := delete_ok hr
        rw [hr] at h
        rw [MemoryStore.get] at hold
        cases h
        by_cases hk : key = k
        · subst hk
          simp [Happening.turn?, hkey, hold, MemoryStore.get]
        · simp [Happening.turn?, hkey, hk, MemoryStore.get, Table.get?_erase_of_ne (Ne.symm hk)]
    | _ =>
      cases h
      rfl

end Stores

/-! ### The invariant of a diary -/

namespace Diary

/-- The `turn?` of each happening of `past` that has one for `k`, in order: `true` for a creation of
the ingress under `k`, `false` for its deletion. -/
def turnsOf (k : ObjectKey) (past : List (Happening × Stores)) : List Bool :=
  past.filterMap fun e => e.1.turn? k

/-- The invariant of a diary: its stores are `Stores.Kept` now and were so after each happening; and
for every key the `turnsOf` the past, with `false` for the empty start in front, alternate and end
with whether an ingress is there. -/
structure Kept (start : DomainStore) (backend : StatsBackend) (w : Diary) : Prop where
  stores : w.stores.Kept start backend
  past : ∀ e ∈ w.past, e.2.Kept start backend
  turns : ∀ k, (false :: turnsOf k w.past).IsChain (· ≠ ·)
  last : ∀ k, (false :: turnsOf k w.past).getLast? = some (w.stores.ingresses.get k).isSome

variable {start : DomainStore} {w t : Diary} {v : Visit} {x : Happening} {s : Stores}

/-- If the happening `x` leads to stores `s` that are `Stores.Kept`, and its `turn?` says truly for
each key whether the ingress begins or ceases to be there, then recording `x` keeps `Diary.Kept`. -/
lemma Kept.record (hw : w.Kept start backend) (hs : s.Kept start backend)
    (hturn : ∀ k, match x.turn? k with
      | none => (s.ingresses.get k).isSome = (w.stores.ingresses.get k).isSome
      | some b => (w.stores.ingresses.get k).isSome = !b ∧ (s.ingresses.get k).isSome = b) :
    (w.record x s).Kept start backend := by
  have hturns : ∀ k, turnsOf k (w.record x s).past = turnsOf k w.past ++ (x.turn? k).toList := by
    intro k
    simp only [turnsOf, Diary.record, List.filterMap_append]
    cases hx : x.turn? k <;> simp [hx]
  refine ⟨hs, ?_, fun k => ?_, fun k => ?_⟩
  · intro e he
    rcases List.mem_append.1 he with he | he
    · exact hw.past e he
    · cases List.mem_singleton.1 he
      exact hs
  · have hk := hturn k
    rw [hturns]
    cases hx : x.turn? k with
    | none => simpa using hw.turns k
    | some b =>
      rw [hx] at hk
      -- a turn differs from the one before, which by `hw.last` says whether the ingress was there
      rw [Option.toList_some, ← List.cons_append, List.isChain_append]
      refine ⟨hw.turns k, List.isChain_singleton b, ?_⟩
      rw [hw.last k, hk.1]
      simp
  · have hk := hturn k
    rw [hturns]
    cases hx : x.turn? k with
    | none =>
      rw [hx] at hk
      rw [Option.toList_none, List.append_nil, hw.last k]
      exact congrArg some hk.symm
    | some b =>
      rw [hx] at hk
      rw [Option.toList_some, ← List.cons_append, List.getLast?_concat]
      exact congrArg some hk.2.symm

/-- Revisions keep `Diary.Kept`, one after the other. None of them is a turn of any key. -/
lemma Kept.revise (hw : w.Kept start backend) (rs : List Revision) :
    (rs.foldl Diary.revise w).Kept start backend := by
  induction rs generalizing w with
  | nil => exact hw
  | cons r rs ih => exact ih (hw.record (hw.stores.revise r) fun _ => rfl)

/-- A `Proper` call that the stores `respond` to keeps `Diary.Kept`, whatever is answered. -/
lemma Kept.respond (hw : w.Kept start backend) {c : Call} (hc : c.Proper start backend) :
    (respond v c w).2.Kept start backend :=
  hw.record (hw.stores.respond hc) (Stores.isSome_of_respond rfl)

/-- An observation is not recorded among the happenings and keeps `Diary.Kept`. -/
lemma Kept.note (hw : w.Kept start backend) (o : Observation) : (w.note o).Kept start backend :=
  ⟨hw.stores.note o, hw.past, hw.turns, hw.last⟩

/-! ### The story of a pass -/

/-- What the history `h` of a pass for `key` has told it: a domain that it fetched is `Genuine` in
`start`, and an ingress that it looked up `IsBuilt` from `start`. -/
structure Known (start : DomainStore) (backend : StatsBackend) (key : ObjectKey) (h : List Deed) :
    Prop where
  domain : ∀ {d}, fetched key (some d) ∈ h → Genuine start key d
  ingress : ∀ {i}, lookedUp key (some i) ∈ h → IsBuilt start backend (keyOf key) i

variable {config : PassConfig} {key : ObjectKey} {h : List Deed}

/-- A call that `PassDoes` allows after a history that is `Known` is `Proper`, since what it creates
or writes is made from the domain that was fetched. -/
lemma Known.proper {c : Call} (hknown : Known start config.backend key h)
    (hdoes : PassDoes config key h (.ask c)) : c.Proper start config.backend := by
  have hgenuine : ∀ {d s t}, h = checked key d s ++ t → Genuine start key d := by
    rintro d s t rfl
    exact hknown.domain (by simp [checked])
  cases c with
  | createIngress i =>
    cases hdoes with
    | check hdoes => cases hdoes <;> next hc => cases hc
    | converge hdoes =>
      cases hdoes with
      | create hs hi => exact ⟨key, _, hgenuine rfl, hi⟩
  | writeStatus u =>
    obtain ⟨d, s, t, a, rfl, -, rfl⟩ := hdoes.of_writeStatus
    obtain ⟨hkey, huid, hstored⟩ := hgenuine rfl
    exact ⟨key, hkey, huid, hstored⟩
  | _ => trivial

/-- A fetch that is answered with `some d` found `d` in the store of domains. -/
lemma respond_fetchDomain (ha : (respond v (.fetchDomain key) w).1 = .ok (some d)) :
    w.stores.domains.get key = some d := by
  unfold Diary.respond Stores.respond at ha
  cases hf : v.fate.failure (.fetchDomain key) with
  | some e =>
    rw [hf] at ha
    cases ha
  | none =>
    rw [hf] at ha
    exact Except.ok.inj ha

/-- A look-up that is answered with `some i` found `i` in the store of ingresses. -/
lemma respond_fetchIngress (ha : (respond v (.fetchIngress k) w).1 = .ok (some i)) :
    w.stores.ingresses.get k = some i := by
  unfold Diary.respond Stores.respond at ha
  cases hf : v.fate.failure (.fetchIngress k) with
  | some e =>
    rw [hf] at ha
    cases ha
  | none =>
    rw [hf] at ha
    exact Except.ok.inj ha

/-- A call to stores that are `Diary.Kept` leaves the history `Known`, whatever the answer: a domain
in it is `Genuine` by `Kept.genuine`, and an ingress in it `IsBuilt`. -/
lemma Known.concat {c : Call} {a : c.Answer} (hknown : Known start backend key h)
    (hw : w.Kept start backend) (ha : (respond v c w).1 = a) :
    Known start backend key (h ++ [.asked c a]) where
  domain {d} hd := by
    rcases List.mem_append.1 hd with hd | hd
    · exact hknown.domain hd
    · cases List.mem_singleton.1 hd
      exact hw.stores.genuine (respond_fetchDomain ha)
  ingress {i} hi := by
    rcases List.mem_append.1 hi with hi | hi
    · exact hknown.ingress hi
    · cases List.mem_singleton.1 hi
      exact hw.stores.built (respond_fetchIngress ha)

/-- **The story of a pass keeps the invariant**, wherever it stops, and the pass was told the truth:
if `reconcile config key` follows the story `h`, and `h` leads from a diary that is `Kept` to `t`,
then `t` is `Kept` and `h` is `Known`.

**Proof sketch.** Induction on `h` from its end. By the protocol, `reconcile_upholds`, the last call
is one that `PassDoes` allows after what came before, and so it is `Proper` by `Known.proper`. Hence
it keeps the invariant by `Kept.revise` and `Kept.respond`, and what it was answered is the truth by
`Known.concat`. -/
theorem leads_kept {q : Plan (Except PassError Outcome)}
    (hfollows : (reconcile config key).run.Follows h q) (hleads : (service v).Leads h w t)
    (hw : w.Kept start config.backend) :
    t.Kept start config.backend ∧ Known start config.backend key h := by
  induction h using List.reverseRecOn generalizing q t with
  | nil =>
    cases Service.leads_nil.1 hleads
    exact ⟨hw, ⟨nofun, nofun⟩⟩
  | append_singleton h x ih =>
    -- part the story at its last deed: what came before has kept the invariant
    obtain ⟨r, hr, hlast⟩ := hfollows.of_append
    obtain ⟨u, hu, hrest⟩ := Service.leads_append.1 hleads
    obtain ⟨hkept, hknown⟩ := ih hr hu
    cases x with
    | noted o =>
      cases Service.leads_nil.1 (Service.leads_noted.1 hrest)
      refine ⟨hkept.note o, fun hd => hknown.domain ?_, fun hi => hknown.ingress ?_⟩
      · simpa [fetched] using hd
      · simpa [lookedUp] using hi
    | asked c a =>
      obtain ⟨_, ha, hnil⟩ := hrest
      have hdoes : PassDoes config key h (.ask c) :=
        (reconcile_upholds config key).does_of_follows hfollows
      -- revisions of the domains come first, then the call on what they have left
      have hrevised := hkept.revise (v.meanwhile c)
      have hleft : t = _ := (Service.leads_nil.1 hnil).trans (congrArg Prod.snd ha)
      rw [hleft]
      exact ⟨hrevised.respond (hknown.proper hdoes),
        hknown.concat hrevised (congrArg Prod.fst ha).symm⟩

/-- A pass whose history is `Known` does not end in `PassError.invariant`. That error needs an
ingress that is `ownedByOther`, or a domain without `uid` for which `build` fails, and neither a
`Genuine` domain nor an ingress that `IsBuilt` is such. -/
lemma Known.ne_invariant {r : Except PassError Outcome}
    (hknown : Known start config.backend key h) (hends : PassEnds config key h r) (k : ObjectKey)
    (stage : Stage) (reason : String) : r ≠ .error (.invariant k stage reason) := by
  rintro rfl
  cases hends with
  | unchecked hends => cases hends
  | @unconverged d s t _ hends =>
    have hd : Genuine start key d := hknown.domain (by simp [checked])
    cases hends with
    | foreign howned =>
      have hi := hknown.ingress (List.mem_append_right _ (List.mem_singleton_self _))
      cases howned.symm.trans (hi.ownedByOther_eq_false hd)
    | unbuilt _ hb => exact build_ne_error hd.uid_isSome hb

/-! ### Any number of passes -/

/-- One pass keeps `Diary.Kept`, whether it ends by itself or is stopped at its deadline, and does
not end in `PassError.invariant`. -/
lemma runPass_kept (config : PassConfig) (v : Visit) (k : Clock)
    (hw : w.Kept start config.backend) :
    let x := (runPass (environment v) config v.key).run (k, w)
    x.2.2.Kept start config.backend ∧
      ∀ key stage reason, x.1 ≠ .error (.invariant key stage reason) := by
  obtain ⟨h, q, t, hfollows, hleads, ht, hq⟩ :=
    (environment_obeys v).runPass_leads config v.key k (w := w) rfl
  obtain ⟨hkept, hknown⟩ := leads_kept hfollows hleads hw
  refine ⟨ht ▸ hkept, fun key stage reason => ?_⟩
  rcases hq with ⟨r, rfl, hr⟩ | ⟨c, next, rfl, hr⟩
  · rw [hr]
    exact hknown.ne_invariant ((reconcile_upholds config v.key).of_follows hfollows) _ _ _
  · rw [hr]
    nofun

/-- **Passes keep the invariant** `Diary.Kept`, and none of them ends in `PassError.invariant`.

**Proof sketch.** Induction on the visits. `runPass_leads` gives a story for each, up to its end or
to the call at which it is stopped, to which `leads_kept` and `Known.ne_invariant` apply; see
`runPass_kept`. -/
theorem visits_kept (config : PassConfig) (vs : List Visit) (k : Clock)
    (hw : w.Kept start config.backend) :
    let x := (visits config vs).run (k, w)
    x.2.2.Kept start config.backend ∧
      ∀ r ∈ x.1, ∀ key stage reason, r ≠ .error (.invariant key stage reason) := by
  induction vs generalizing k w with
  | nil =>
    rw [run_visits_nil]
    exact ⟨hw, List.forall_mem_nil _⟩
  | cons v vs ih =>
    obtain ⟨hkept, hresult⟩ := runPass_kept config v k hw
    obtain ⟨hrest, hresults⟩ := ih ((runPass (environment v) config v.key).run (k, w)).2.1 hkept
    rw [run_visits_cons]
    exact ⟨hrest, List.forall_mem_cons.2 ⟨hresult, hresults⟩⟩

/-- **Every ingress is that of a stored domain.** Passes visit an empty store of ingresses and any
store of domains; calls fail at will, passes are stopped at any call, and other clients revise the
domains in the meantime. At all times every ingress is what `build` returns for a domain that is
stored, apart from its identity and version; an ingress that comes back under a key is what it was;
creations and deletions under a key alternate, beginning with a creation; and no pass ends in
`PassError.invariant`.

**Proof sketch.** The stores in the beginning are `Kept`, since there are no ingresses, and
`visits_kept` carries the invariant over all visits. `Kept.canonical` reads the first part off it,
and the third is its field `turns`. For the second, both ingresses were built from the store of the
beginning, and since `keyOf` is injective from the same domain, so that `build` returned the same
for both. -/
theorem visits_canonical (config : PassConfig) (vs : List Visit)
    (ws : List (Write DomainSpec DomainStatus)) (m : Registry) (k : Clock) :
    let x := (visits config vs).run (k, ⟨⟨after ws, {}, m⟩, []⟩)
    (x.2.2.stores.Canonical config.backend ∧
        ∀ e ∈ x.2.2.past, e.2.Canonical config.backend) ∧
      (∀ e ∈ x.2.2.past, ∀ e' ∈ x.2.2.past, ∀ key i i', e.2.ingresses.get key = some i →
        e'.2.ingresses.get key = some i' → unstamped i = unstamped i') ∧
      (∀ key, (false :: turnsOf key x.2.2.past).IsChain (· ≠ ·)) ∧
      ∀ r ∈ x.1, ∀ key stage reason, r ≠ .error (.invariant key stage reason) := by
  intro x
  have hstores : Stores.Kept (after ws) config.backend ⟨after ws, {}, m⟩ :=
    ⟨valid_after ws, valid_empty, fun _ => rfl, nofun⟩
  have hstart : Kept (after ws) config.backend ⟨⟨after ws, {}, m⟩, []⟩ :=
    ⟨hstores, List.forall_mem_nil _, fun _ => List.isChain_singleton _, fun _ => rfl⟩
  obtain ⟨hkept, hresults⟩ := visits_kept config vs k hstart
  refine ⟨⟨hkept.stores.canonical, fun e he => (hkept.past e he).canonical⟩, ?_, hkept.turns,
    hresults⟩
  intro e he e' he' key i i' hi hi'
  obtain ⟨key₁, d, hd, hk, hb⟩ := (hkept.past e he).built hi
  obtain ⟨key₂, d', hd', hk', hb'⟩ := (hkept.past e' he').built hi'
  cases keyOf_injective (hk.symm.trans hk')
  cases hd.symm.trans hd'
  exact Except.ok.inj (hb.symm.trans hb')

end Diary

end MailDomain
