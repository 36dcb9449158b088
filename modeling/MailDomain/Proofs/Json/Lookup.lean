import MailDomain.Json.Decode
import MailDomain.Proofs.Json.Distinct

/-!
# Records of values

A reader of records goes through the members of an object in order. Where no name comes twice, that
order does not matter: a record is read exactly if each of its fields is, and a field is read from
the member that a lookup finds.

## Main definitions

* `Json.Expectation.Met` — what is under an expected name can be read, if there is anything.
* `Json.member?` — the value of a field for which null and absence mean the same.
* `Json.RecordField.member` — the value of a field of a record.

## Main results

* `Json.expectedMembers_eq_ok_iff` — which members are read from the members of a value.
* `Json.presentMembers_eq_ok_iff`, `Json.present?_named` — fields for which null and absence mean
  the same are those that `member?` gives.
* `Json.recordMembers_eq_ok_iff`, `Json.RecordField.ofMembers_named` — fields of a record are those
  that `RecordField.member` gives.
-/

set_option relaxedAutoImplicit false
set_option autoImplicit false

namespace MailDomain.Json

/-! ### Steps that may fail -/

section Steps

variable {ε α β : Type} {x : Except ε α} {b : β}

/-- The step `x >>= f` succeeds with `b` exactly if `x` does with some `a` for which `f a` does. -/
lemma bind_eq_ok_iff {f : α → Except ε β} : x >>= f = .ok b ↔ ∃ a, x = .ok a ∧ f a = .ok b := by
  cases x <;> simp [bind, Except.bind]

/-- The step `x.map f` succeeds with `b` exactly if `x` does with some `a` such that `f a = b`. -/
lemma map_eq_ok_iff {f : α → β} : x.map f = .ok b ↔ ∃ a, x = .ok a ∧ f a = b := by
  cases x <;> simp [Except.map]

end Steps

/-! ### The members that are read -/

variable {xs : List Expectation} {x : Expectation} {ms : Members} {fs : Fields} {name : String}
  {α : Type}

/-- The members whose names are expected, as drafts and in their order. -/
def named (xs : List Expectation) (ms : Members) : Fields :=
  (ms.filter fun m => (xs.find? fun x => x.name == m.1).isSome).map fun m => (m.1, m.2)

/-- The expectation `Expectation.of name read` has the name `name`. -/
@[simp] lemma name_of (name : String) (read : Decoder α) : (Expectation.of name read).name = name :=
  rfl

/-- The expectation `perhaps name read` has the name `name`. -/
@[simp] lemma name_perhaps (name : String) (read : Decoder α) : (perhaps name read).name = name :=
  rfl

/-- If a value is found under the name of the expectation `x`, then it passes the check of `x`. -/
def Expectation.Met (x : Expectation) (ms : Members) : Prop :=
  ∀ v, Members.get? x.name ms = some v → x.check v = .ok ()

/-- **What is read from members.** Reading succeeds exactly if every value under an expected name
passes its `check` and, where expected names may come only `once`, none of them comes twice or is
among those `seen`. Then it gives the members under expected names.

**Proof sketch.** Induction on the members, for any names `seen` before. One under an expected name
is checked and, with `once`, must not have been seen; any other is passed over, which a value never
prevents. -/
theorem expectedMembers_eq_ok_iff {once : Bool} {seen : List String} :
    expectedMembers once xs seen (Draft.ofMembers ms) = .ok fs ↔
      (∀ m ∈ ms, ∀ x, (xs.find? fun x => x.name == m.1) = some x → x.check m.2 = .ok ()) ∧
        (once = true → ((named xs ms).map Prod.fst).Nodup ∧
          ∀ k ∈ (named xs ms).map Prod.fst, k ∉ seen) ∧
        named xs ms = fs := by
  induction ms generalizing seen fs with
  | nil => simp [Draft.ofMembers, expectedMembers, named]
  | cons m ms ih =>
    obtain ⟨k, v⟩ := m
    rw [Draft.ofMembers, expectedMembers, orFault, Except.mapError]
    cases hx : xs.find? fun x => x.name == k with
    | none =>
      have hpass : orFault (Draft.ofJson v).pass = .ok () := by
        rw [Draft.pass_ofJson]
        rfl
      have hnamed : named xs ((k, v) :: ms) = named xs ms := by simp [named, hx]
      simp only [bind_eq_ok_iff, Except.ok.injEq, exists_eq_left', hx, hpass, ih, hnamed,
        List.forall_mem_cons, reduceCtorEq, false_imp_iff, implies_true, true_and, exists_const]
    | some x =>
      have hnamed : named xs ((k, v) :: ms) = (k, (v : Draft)) :: named xs ms := by simp [named, hx]
      by_cases hk : once = true ∧ k ∈ seen
      · -- a name that was seen fails the reading, and it is none that may come
        simp [hx, hnamed, hk, bind, Except.bind, throw, throwThe, MonadExceptOf.throw]
      · have hfresh : (once && seen.contains k) = false := by simpa using hk
        simp only [bind_eq_ok_iff, Except.ok.injEq, exists_eq_left', hx, hfresh,
          Bool.false_eq_true, if_false, ih, hnamed, List.forall_mem_cons, Option.some.injEq,
          forall_eq', pure, Except.pure, List.map_cons, List.nodup_cons]
        constructor
        · rintro ⟨_, hv, _, ⟨hms, hrest, rfl⟩, rfl⟩
          refine ⟨⟨hv, hms⟩, fun honce => ?_, rfl⟩
          obtain ⟨hnodup, hnot⟩ := hrest honce
          -- the rest is read with `k` among the names seen, so that `k` does not come again
          have hnew : k ∉ (named xs ms).map Prod.fst := fun hmem =>
            List.ne_of_not_mem_cons (hnot k hmem) rfl
          have hnot' : ∀ l ∈ (named xs ms).map Prod.fst, l ∉ seen := fun l hl =>
            List.not_mem_of_not_mem_cons (hnot l hl)
          exact ⟨⟨hnew, hnodup⟩, fun hmem => hk ⟨honce, hmem⟩, hnot'⟩
        · rintro ⟨⟨hv, hms⟩, hnames, rfl⟩
          refine ⟨_, hv, _, ⟨hms, fun honce => ?_, rfl⟩, rfl⟩
          obtain ⟨⟨hnew, hnodup⟩, -, hnot⟩ := hnames honce
          exact ⟨hnodup, fun l hl =>
            List.not_mem_cons_of_ne_of_not_mem (fun he => hnew (he ▸ hl)) (hnot l hl)⟩

/-- Where no name comes twice at all, reading the members succeeds exactly if every value under an
expected name passes its `check`. -/
lemma expectedMembers_eq_ok_iff_of_nodup {once : Bool} (hms : (ms.map Prod.fst).Nodup) :
    expectedMembers once xs [] (Draft.ofMembers ms) = .ok fs ↔
      (∀ m ∈ ms, ∀ x, (xs.find? fun x => x.name == m.1) = some x → x.check m.2 = .ok ()) ∧
        named xs ms = fs := by
  have hnodup : ((named xs ms).map Prod.fst).Nodup := by
    rw [named, List.map_map]
    exact hms.sublist (List.filter_sublist.map _)
  simp [expectedMembers_eq_ok_iff, hnodup]

/-- Where the names of expectations are different, looking for the name of an expectation finds that
expectation. -/
lemma find?_name (hxs : (xs.map Expectation.name).Nodup) (hx : x ∈ xs) :
    (xs.find? fun y => y.name == x.name) = some x := by
  induction xs with
  | nil => cases hx
  | cons y ys ih =>
    obtain ⟨hy, hys⟩ := List.nodup_cons.1 hxs
    rw [List.find?_cons]
    rcases List.mem_cons.1 hx with rfl | hx
    · simp
    · have hne : (y.name == x.name) = false :=
        beq_eq_false_iff_ne.2 fun he => hy (List.mem_map.2 ⟨x, hx, he.symm⟩)
      rw [hne]
      exact ih hys hx

/-- Every member under an expected name passes the check for it exactly if every expectation is
`Met`. -/
lemma forall_met_iff (hxs : (xs.map Expectation.name).Nodup) (hms : (ms.map Prod.fst).Nodup) :
    (∀ m ∈ ms, ∀ x, (xs.find? fun x => x.name == m.1) = some x → x.check m.2 = .ok ()) ↔
      ∀ x ∈ xs, x.Met ms := by
  constructor
  · intro h x hx v hv
    exact h _ (Members.mem_of_get? hv) x (find?_name hxs hx)
  · intro h m hm x hx
    have hname : x.name = m.1 := by simpa using List.find?_some hx
    exact h x (List.mem_of_find?_eq_some hx) _ (hname ▸ Members.get?_of_mem hms hm)

/-- The members that are read under an expected name are those that are there, as drafts. -/
lemma mem_named_iff (hx : name ∈ xs.map Expectation.name) {d : Draft} :
    (name, d) ∈ named xs ms ↔ ∃ v : Json, (name, v) ∈ ms ∧ (v : Draft) = d := by
  have hfound : (xs.find? fun x => x.name == name).isSome := by
    simpa [List.find?_isSome] using hx
  simp only [named, List.mem_map, List.mem_filter, Prod.mk.injEq]
  constructor
  · rintro ⟨⟨k, v⟩, ⟨hm, -⟩, rfl, rfl⟩
    exact ⟨v, hm, rfl⟩
  · rintro ⟨v, hm, rfl⟩
    exact ⟨(name, v), ⟨hm, hfound⟩, rfl, rfl⟩

/-- Where the names of members are different, `lookup` finds every member, not just the first of a
name. -/
lemma lookup_eq_some_iff {l : Fields} (hl : (l.map Prod.fst).Nodup) {d : Draft} :
    l.lookup name = some d ↔ (name, d) ∈ l := by
  induction l with
  | nil => simp
  | cons e l ih =>
    obtain ⟨k, c⟩ := e
    obtain ⟨hk, hl⟩ := List.nodup_cons.1 hl
    by_cases he : name = k
    · subst he
      have hnot : (name, d) ∉ l := fun h => hk (List.mem_map.2 ⟨_, h, rfl⟩)
      simp [List.lookup, hnot, eq_comm]
    · simp [List.lookup, he, beq_eq_false_iff_ne.2 he, ih hl]

/-- Where the names of members are different, `lookup` finds the same from the last member on as
from the first. -/
lemma lookup_reverse {l : Fields} (hl : (l.map Prod.fst).Nodup) :
    l.reverse.lookup name = l.lookup name := by
  have hrev : (l.reverse.map Prod.fst).Nodup := by
    rw [List.map_reverse]
    exact List.nodup_reverse.2 hl
  refine Option.ext fun d => ?_
  rw [lookup_eq_some_iff hrev, lookup_eq_some_iff hl, List.mem_reverse]

/-- The members that are read have different names if all members do. -/
lemma nodup_named (hms : (ms.map Prod.fst).Nodup) : ((named xs ms).map Prod.fst).Nodup := by
  rw [named, List.map_map]
  exact hms.sublist (List.filter_sublist.map _)

/-- What is read under an expected name is what `Members.get?` finds, as a draft. -/
lemma lookup_named (hms : (ms.map Prod.fst).Nodup) (hx : name ∈ xs.map Expectation.name) :
    (named xs ms).lookup name = (Members.get? name ms).map Draft.ofJson := by
  refine Option.ext fun d => ?_
  rw [lookup_eq_some_iff (nodup_named hms), mem_named_iff hx, Option.map_eq_some_iff]
  simp only [Members.get?_eq_some_iff hms]

/-! ### Fields for which null and absence mean the same -/

/-- The value of the field `name` among the members, for which null means the same as absence:
`none`, or what `read` makes of the value. -/
def member? (name : String) (read : Decoder α) (ms : Members) : Except Mismatch (Option α) :=
  match Members.get? name ms with
  | none | some .null => .ok none
  | some v => (read v).map some

variable {read : Decoder α}

/-- Two objects in which the same is found under a name have the same field there. -/
lemma member?_congr {ms' : Members} (h : Members.get? name ms' = Members.get? name ms) :
    member? name read ms' = member? name read ms := by
  rw [member?, member?, h]

/-- A value other than null under the name of a field, which `read` makes `a` of, gives the field
`some a`. -/
lemma member?_of_get? {v : Json} {a : α} (h : Members.get? name ms = some v) (hv : v ≠ .null)
    (ha : read v = .ok a) : member? name read ms = .ok (some a) := by
  rw [member?, h]
  cases v with
  | null => exact absurd rfl hv
  | _ => exact congrArg (Except.map some) ha

/-- A text under the name of a field gives the field that text. -/
lemma member?_text {s : String} (h : Members.get? name ms = some (.str s)) :
    member? name text ms = .ok (some s) := member?_of_get? h nofun rfl

/-- Where the names of members are different, the reader `present?` of a field finds what `member?`
says. -/
theorem present?_named (hms : (ms.map Prod.fst).Nodup) (hx : name ∈ xs.map Expectation.name) :
    present? name read (named xs ms) = member? name read ms := by
  rw [present?, lastOf, lookup_reverse (nodup_named hms), lookup_named hms hx, member?]
  cases Members.get? name ms with
  | none => rfl
  | some v => cases v <;> rfl

/-- The expectation `perhaps name read` is met exactly if the field can be read, be it there or
not. -/
lemma perhaps_met_iff : (perhaps name read).Met ms ↔ ∃ a, member? name read ms = .ok a := by
  rw [Expectation.Met, perhaps, Expectation.of, member?]
  cases Members.get? name ms with
  | none => simp
  | some v =>
    have hcheck : ∀ r : Except Mismatch α,
        ((r.map some).map fun _ => ()) = .ok () ↔ ∃ a, r.map some = .ok a := by
      intro r
      cases r <;> simp [Except.map]
    cases v with
    | null => simp [optional, Except.map, Draft.ofJson]
    | _ =>
      simp only [Option.some.injEq, forall_eq']
      exact hcheck _

/-- Reading the fields that are present in an object succeeds exactly if every expectation is `Met`,
and then it gives the members under expected names. -/
theorem presentMembers_eq_ok_iff {shape : String} (hxs : (xs.map Expectation.name).Nodup)
    (hms : (ms.map Prod.fst).Nodup) :
    presentMembers shape xs (.ofJson (.obj ms)) = .ok fs ↔
      (∀ x ∈ xs, x.Met ms) ∧ named xs ms = fs := by
  rw [Draft.ofJson, presentMembers, ← forall_met_iff hxs hms]
  simp only [bind_eq_ok_iff, expectedMembers_eq_ok_iff_of_nodup hms]
  simp [orFault, Ending.read, Except.mapError, pure, Except.pure]

/-- Reading the fields that are present in an object and going on with `f` succeeds exactly if every
expectation is `Met` and `f` succeeds on the members under expected names. -/
theorem presentMembers_bind_eq_ok_iff {β : Type} {shape : String} {f : Fields → Except Mismatch β}
    {b : β} (hxs : (xs.map Expectation.name).Nodup) (hms : (ms.map Prod.fst).Nodup) :
    presentMembers shape xs (.ofJson (.obj ms)) >>= f = .ok b ↔
      (∀ x ∈ xs, x.Met ms) ∧ f (named xs ms) = .ok b := by
  simp only [bind_eq_ok_iff, presentMembers_eq_ok_iff hxs hms, and_assoc, exists_and_left,
    exists_eq_left']

/-! ### Fields of records -/

namespace RecordField

/-- The value of the field `f` among the members: what `f.read` makes of the value under its name,
or what `f.absent` says. -/
def member (f : RecordField α) (ms : Members) : Except Mismatch α :=
  match Members.get? f.name ms with
  | some v => f.read v
  | none => match f.absent with
    | some a => .ok a
    | none => .error (.missingField f.name)

variable {f : RecordField α}

/-- Two objects in which the same is found under the name of a field have the same field. -/
lemma member_congr {ms' : Members} (h : Members.get? f.name ms' = Members.get? f.name ms) :
    f.member ms' = f.member ms := by
  rw [member, member, h]

/-- A value under the name of a field gives what `f.read` makes of it. -/
lemma member_of_get? {v : Json} (h : Members.get? f.name ms = some v) : f.member ms = f.read v := by
  rw [member, h]

/-- Nothing under the name of a field gives what `f.absent` says, if it says something. -/
lemma member_of_absent {a : α} (h : Members.get? f.name ms = none) (ha : f.absent = some a) :
    f.member ms = .ok a := by
  rw [member, h, ha]

/-- Where the names of members are different, the reader `ofMembers` of a field finds what `member`
says. -/
theorem ofMembers_named (hms : (ms.map Prod.fst).Nodup) (hx : f.name ∈ xs.map Expectation.name) :
    f.ofMembers (named xs ms) = f.member ms := by
  rw [ofMembers, lookup_named hms hx, member]
  cases Members.get? f.name ms <;> rfl

/-- The expectation of a field has the name of the field. -/
@[simp] lemma name_expectation (f : RecordField α) : f.expectation.name = f.name := rfl

/-- A field that has a value among the members can be read, so that its expectation is `Met`. -/
lemma met_of_member {a : α} (h : f.member ms = .ok a) : f.expectation.Met ms := by
  intro v hv
  rw [member_of_get? hv] at h
  change (f.read v).map (fun _ => ()) = _
  rw [h]
  rfl

end RecordField

/-- Reading the fields of a record from an object succeeds exactly if every expectation is `Met`,
and then it gives the members under expected names. -/
theorem recordMembers_eq_ok_iff (hxs : (xs.map Expectation.name).Nodup)
    (hms : (ms.map Prod.fst).Nodup) :
    recordMembers xs (Draft.ofMembers ms) .closed = .ok fs ↔
      (∀ x ∈ xs, x.Met ms) ∧ named xs ms = fs := by
  rw [recordMembers, ← forall_met_iff hxs hms]
  simp only [bind_eq_ok_iff, expectedMembers_eq_ok_iff_of_nodup hms]
  simp [orFault, Ending.read, Except.mapError, pure, Except.pure]

/-- Reading the fields of a record from an object and going on with `f` succeeds exactly if every
expectation is `Met` and `f` succeeds on the members under expected names. -/
theorem recordMembers_bind_eq_ok_iff {β : Type} {f : Fields → Except Mismatch β} {b : β}
    (hxs : (xs.map Expectation.name).Nodup) (hms : (ms.map Prod.fst).Nodup) :
    recordMembers xs (Draft.ofMembers ms) .closed >>= f = .ok b ↔
      (∀ x ∈ xs, x.Met ms) ∧ f (named xs ms) = .ok b := by
  simp only [bind_eq_ok_iff, recordMembers_eq_ok_iff hxs hms, and_assoc, exists_and_left,
    exists_eq_left']

end MailDomain.Json
