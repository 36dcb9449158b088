import Mathlib
import MailDomain.Proofs.Store.Mutation

/-!
# What always holds of a store

Every object of a store lies under its own key, has an identity, and has a version that the store
gave. The versions that a store gives grow, so that a mutation leaves under its key nothing of any
version given before. If no identity comes from outside, the same holds of identities and the
beginning of incarnations.

## Main definitions

* `MemoryStore.Issued`, `MemoryStore.IssuedUid` — a version or an identity that was given.
* `MemoryStore.Valid` — what holds of every store.
* `MemoryStore.OwnUids` — every identity in a store was given by it.

## Main results

* `MemoryStore.valid_after` — a store is valid whatever was written to it.
* `MemoryStore.Mutation.Makes.version_ne`, `MemoryStore.Mutation.Makes.uid_ne` — versions and
  identities are not used again.
-/

set_option relaxedAutoImplicit false
set_option autoImplicit false

namespace MailDomain.MemoryStore

variable {Spec Status : Type} {s t : MemoryStore Spec Status} {c : Mutation Spec Status}
  {key : ObjectKey} {r : Resource Spec Status}

/-- The version `v` is one that the store `s` gave to an object: the decimal text of a number up to
`s.version`. -/
def Issued (s : MemoryStore Spec Status) (v : Option String) : Prop :=
  ∃ n ≤ s.version, v = some (toString n)

/-- The identity `u` is one that the store `s` made for an object from a number up to
`s.version`. -/
def IssuedUid (s : MemoryStore Spec Status) (u : Option String) : Prop :=
  ∃ n ≤ s.version, u = some ("uid-" ++ toString n)

/-- What holds of every store: each object lies under its own key, has an identity, and has a
version that the store gave. -/
structure Valid (s : MemoryStore Spec Status) : Prop where
  key_eq : ∀ {k r}, s.get k = some r → r.key? = some k
  uid_isSome : ∀ {k r}, s.get k = some r → r.metadata.uid.isSome
  issued : ∀ {k r}, s.get k = some r → s.Issued r.metadata.resourceVersion

/-- Every identity in the store was made by it. This is so only where no identity comes from
outside, and so it is no part of `Valid`. -/
def OwnUids (s : MemoryStore Spec Status) : Prop :=
  ∀ {k r}, s.get k = some r → s.IssuedUid r.metadata.uid

/-- An object has the same key in every version. -/
@[simp] lemma key?_stamped (r : Resource Spec Status) (v : Nat) : (stamped r v).key? = r.key? := rfl

/-- The object `stamped r v` has the version `v`, in decimal digits. -/
@[simp] lemma resourceVersion_stamped (r : Resource Spec Status) (v : Nat) :
    (stamped r v).metadata.resourceVersion = some (toString v) := rfl

/-- The object `stamped r v` has the identity that `r` brings, or `uid-v` if it brings none. -/
@[simp] lemma uid_stamped (r : Resource Spec Status) (v : Nat) :
    (stamped r v).metadata.uid = some (r.metadata.uid.getD ("uid-" ++ toString v)) := rfl

/-- A version that was given stays given while the version of the store grows. -/
lemma Issued.mono {v : Option String} (h : s.Issued v) (hle : s.version ≤ t.version) :
    t.Issued v := by
  obtain ⟨n, hn, rfl⟩ := h
  exact ⟨n, hn.trans hle, rfl⟩

/-- An identity that was made stays made while the version of the store grows. -/
lemma IssuedUid.mono {u : Option String} (h : s.IssuedUid u) (hle : s.version ≤ t.version) :
    t.IssuedUid u := by
  obtain ⟨n, hn, rfl⟩ := h
  exact ⟨n, hn.trans hle, rfl⟩

/-- The next version differs from every version that was given, since decimal texts of different
numbers do. -/
lemma Issued.ne_next {v : Option String} (h : s.Issued v) :
    some (toString (s.version + 1)) ≠ v := by
  obtain ⟨n, hn, rfl⟩ := h
  intro he
  have : s.version + 1 = n := Nat.repr_inj.1 (Option.some.inj he)
  omega

/-- The identity made from the next version differs from every identity that was made. -/
lemma IssuedUid.ne_next {u : Option String} (h : s.IssuedUid u) :
    some ("uid-" ++ toString (s.version + 1)) ≠ u := by
  obtain ⟨n, hn, rfl⟩ := h
  intro he
  have : s.version + 1 = n :=
    Nat.repr_inj.1 ((String.append_right_inj "uid-").1 (Option.some.inj he))
  omega

namespace Mutation

/-- What stands under `key` after a mutation stood there before, or it is an object `new` in the
next version, which has the key or was there before. -/
lemma Makes.get_cases (h : c.Makes s t) (hf : c.Fits s) (hr : t.get key = some r) :
    s.get key = some r ∨ ∃ new, (new.key? = some key ∨ s.get key = some new) ∧
      r = stamped new (s.version + 1) ∧ t.version = s.version + 1 := by
  by_cases hk : c.key? = some key
  · cases c with
    | nothing => cases hk
    | added k new =>
      cases hk
      rw [h.get_added] at hr
      exact .inr ⟨new, .inl hf, (Option.some.inj hr).symm, h.2⟩
    | rewritten k new =>
      cases hk
      rw [h.get_rewritten] at hr
      obtain ⟨old, hold, hnew, -⟩ := hf
      refine .inr ⟨new, hnew.imp_right ?_, (Option.some.inj hr).symm, h.2⟩
      rintro rfl
      exact hold
    | removed k =>
      cases hk
      rw [h.get_removed] at hr
      cases hr
  · rw [h.get_of_ne hk] at hr
    exact .inl hr

/-- A mutation that `Fits` its store leaves a valid store valid. -/
theorem Makes.valid (h : c.Makes s t) (hf : c.Fits s) (hs : s.Valid) : t.Valid where
  key_eq hr := by
    obtain hr | ⟨new, hnew | hnew, rfl, -⟩ := h.get_cases hf hr
    · exact hs.key_eq hr
    · rwa [key?_stamped]
    · rw [key?_stamped]
      exact hs.key_eq hnew
  uid_isSome hr := by
    obtain hr | ⟨new, -, rfl, -⟩ := h.get_cases hf hr
    · exact hs.uid_isSome hr
    · rfl
  issued hr := by
    obtain hr | ⟨new, -, rfl, hv⟩ := h.get_cases hf hr
    · exact (hs.issued hr).mono h.version_le
    · exact ⟨s.version + 1, hv.ge, rfl⟩

/-- A mutation leaves nothing under its key whose version was given before it. -/
theorem Makes.version_ne (h : c.Makes s t) (hk : c.key? = some key) {v : Option String}
    (hv : s.Issued v) (hr : t.get key = some r) : r.metadata.resourceVersion ≠ v := by
  obtain ⟨hnone, -⟩ | ⟨new, hnew, -⟩ := h.get_self hk
  · rw [hnone] at hr
    cases hr
  · rw [hnew] at hr
    cases hr
    exact hv.ne_next

/-- Where an incarnation begins or ends, nothing is left under the key whose identity the store made
before, if no identity comes from outside. -/
theorem Makes.uid_ne (h : c.Makes s t) (hc : c.KeepsUids s) (hk : c.turned? = some key)
    {u : Option String} (hu : s.IssuedUid u) (hr : t.get key = some r) : r.metadata.uid ≠ u := by
  cases c with
  | nothing => cases hk
  | added k new =>
    cases hk
    rw [h.get_added] at hr
    cases hr
    rw [uid_stamped, show new.metadata.uid = none from hc]
    exact hu.ne_next
  | rewritten k new => cases hk
  | removed k =>
    cases hk
    rw [h.get_removed] at hr
    cases hr

/-- What stands under `key` keeps its identity under a mutation that neither begins nor ends an
incarnation there. -/
theorem Makes.uid_eq (h : c.Makes s t) (hf : c.Fits s) (hc : c.KeepsUids s) (hs : s.Valid)
    (hk : c.turned? ≠ some key) :
    (t.get key).map (·.metadata.uid) = (s.get key).map (·.metadata.uid) := by
  by_cases hk' : c.key? = some key
  · cases c with
    | nothing => cases hk'
    | added k new => exact absurd hk' hk
    | rewritten k new =>
      cases hk'
      obtain ⟨old, hold, -⟩ := hf
      obtain ⟨u, hu⟩ := Option.isSome_iff_exists.1 (hs.uid_isSome hold)
      have hnew : new.metadata.uid = some u := (hc old hold).trans hu
      simp [h.get_rewritten, hold, hnew, hu]
    | removed k => exact absurd hk' hk
  · rw [h.get_of_ne hk']

/-- If no identity comes from outside, the identities in a store stay those that it made. -/
theorem Makes.ownUids (h : c.Makes s t) (hc : c.KeepsUids s) (hf : c.Fits s) (hs : s.OwnUids) :
    t.OwnUids := by
  intro k r hr
  by_cases hk : c.key? = some k
  · cases c with
    | nothing => cases hk
    | added k new =>
      cases hk
      rw [h.get_added] at hr
      cases hr
      exact ⟨s.version + 1, h.2.ge, by rw [uid_stamped, show new.metadata.uid = none from hc]; rfl⟩
    | rewritten k new =>
      cases hk
      obtain ⟨old, hold, -⟩ := hf
      obtain ⟨n, hn, hu⟩ := hs hold
      rw [h.get_rewritten] at hr
      cases hr
      refine ⟨n, hn.trans h.version_le, ?_⟩
      rw [uid_stamped, hc old hold, hu, Option.getD_some]
    | removed k =>
      cases hk
      rw [h.get_removed] at hr
      cases hr
  · rw [h.get_of_ne hk] at hr
    exact (hs hr).mono h.version_le

end Mutation

/-- An empty store is valid, since there is nothing in it. -/
lemma valid_empty : ({} : MemoryStore Spec Status).Valid :=
  ⟨nofun, nofun, nofun⟩

variable [Manifest (Resource Spec Status)]

/-- A write, answered in any way, leaves a valid store valid. -/
lemma Valid.perform (hs : s.Valid) (w : Write Spec Status) : (w.perform s).2.Valid :=
  (w.makes s).1.valid (w.makes s).2 hs

/-- The store after any writes is valid. Theorems about all stores that clients can bring about use
it to get keys, identities and versions. -/
theorem valid_after (ws : List (Write Spec Status)) : (after ws).Valid := by
  suffices h : ∀ s : MemoryStore Spec Status, s.Valid →
      (ws.foldl (fun s w => (w.perform s).2) s).Valid from h _ valid_empty
  induction ws with
  | nil => exact fun s hs => hs
  | cons w ws ih => exact fun s hs => ih _ (hs.perform w)

end MailDomain.MemoryStore
