import MailDomain.Proofs.Store.Invariant

/-!
# Objects apart from their numbers

A store numbers its versions, and an object that brings no identity gets one made from such a
number. Stores that grew from one store in different ways may number the same objects differently.

## Main definitions

* `MemoryStore.Renumbered` — two objects are the same, or differ in the numbers that they got.

## Main results

* `MemoryStore.Renumbered.trans`, `MemoryStore.Renumbered.symm` — it does not matter how often
  numbers are changed.
* `MemoryStore.Renumbered.eq_of_old` — an object that was there before has kept its numbers.
-/

set_option relaxedAutoImplicit false
set_option autoImplicit false

namespace MailDomain.MemoryStore

variable {Spec Status : Type} {s : MemoryStore Spec Status} {key : ObjectKey}
  {a b c : Option (Resource Spec Status)}

/-- What lies under `key` in two stores that grew from `s` is the same, or it is one object to which
each of them gave a new version. The object has the identity of what lay under the key in `s`, and
gets a new one made from its version if nothing lay there. -/
inductive Renumbered (s : MemoryStore Spec Status) (key : ObjectKey) :
    Option (Resource Spec Status) → Option (Resource Spec Status) → Prop
  | same (a : Option (Resource Spec Status)) : Renumbered s key a a
  | new {r : Resource Spec Status} {v w : Nat} : s.version < v → s.version < w →
      r.metadata.uid = (s.get key).bind (·.metadata.uid) →
      Renumbered s key (some (stamped r v)) (some (stamped r w))

/-- The number of a version can be read from the object. Apart from it, two objects that have one
version in common are the same in every version, if they bring the same identity. -/
lemma stamped_inj {r r' : Resource Spec Status} {v v' : Nat} (h : stamped r v = stamped r' v')
    (hu : r.metadata.uid = r'.metadata.uid) : v = v' ∧ ∀ w, stamped r w = stamped r' w := by
  have hversion : some (toString v) = some (toString v') :=
    congrArg (·.metadata.resourceVersion) h
  have hv : v = v' := Nat.repr_inj.1 (Option.some.inj hversion)
  refine ⟨hv, fun w => ?_⟩
  obtain ⟨m, spec, status⟩ := r
  obtain ⟨m', spec', status'⟩ := r'
  cases m
  cases m'
  simp_all [stamped]

/-- If the right object is a renumbering of the left one, the left one is a renumbering of the right
one. -/
lemma Renumbered.symm (h : Renumbered s key a b) : Renumbered s key b a := by
  cases h with
  | same a => exact .same a
  | new hv hw hu => exact .new hw hv hu

/-- An object that was renumbered twice was renumbered.

**Proof sketch.** The object in the middle is a version of two objects of the same identity, which
by `stamped_inj` are then the same in every version. -/
theorem Renumbered.trans (h : Renumbered s key a b) (h' : Renumbered s key b c) :
    Renumbered s key a c := by
  cases h with
  | same a => exact h'
  | @new r v w hv hw hu =>
    generalize hb : some (stamped r w) = b at h'
    cases h' with
    | same b =>
      subst hb
      exact .new hv hw hu
    | @new r' w' x _ hx hu' =>
      obtain ⟨-, hsame⟩ := stamped_inj (Option.some.inj hb) (hu.trans hu'.symm)
      rw [← hsame]
      exact .new hv hx hu

/-- What is as it was in the store `s` has none of the numbers that were given later, so that its
renumbering is the object itself. -/
theorem Renumbered.eq_of_old (h : Renumbered s key a b) (hs : s.Valid) (ha : a = s.get key) :
    b = s.get key := by
  cases h with
  | same a => exact ha
  | @new r v w hv hw hu =>
    obtain ⟨n, hn, hversion⟩ := hs.issued ha.symm
    have heq : v = n := Nat.repr_inj.1 (Option.some.inj hversion)
    omega

end MailDomain.MemoryStore
