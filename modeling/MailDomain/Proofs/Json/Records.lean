import MailDomain.Proofs.Json.Lookup

/-!
# The two forms of a record

A record is read from an object or from an array. In an object the members stand in any order and
among others, where a name that is no field may come any number of times; in an array the values
stand in the order of the fields. Either way a field comes with a value, or it does not come at
all, and a reader of records asks for nothing else.

## Main definitions

* `Json.Members.under` — the values of all members of a name.
* `Json.Brings` — a value brings some fields, in one of the two forms.
* `Json.RecordField.Gives` — what a field is when it comes with a value, or when it does not come.
* `Json.Row` — the fields of a record in order, with `Json.Row.decode`, the reader of the record.

## Main results

* `Json.recordMembers_bind_iff` — which members are read from any object.
* `Json.Row.decode_eq_ok_iff` — a record is read exactly from a value that brings its fields.
-/

set_option relaxedAutoImplicit false
set_option autoImplicit false

namespace MailDomain.Json

variable {α β γ δ : Type} {xs : List Expectation} {x : Expectation} {ms : Members} {fs : Fields}
  {es : List Json} {name : String}

/-! ### The members of an object -/

/-- The values of all members with the given name, in order. There may be several, for nothing
forbids JSON to repeat a name. -/
def Members.under (name : String) (ms : Members) : List Json :=
  (ms.filter fun m => m.1 == name).map Prod.snd

/-- Of the members that are read, those under the expected name `name` are the values that the
object has `under` that name. -/
lemma filter_named (hx : name ∈ xs.map Expectation.name) :
    ((named xs ms).filter fun p => p.1 == name) =
      (Members.under name ms).map fun v => (name, Draft.ofJson v) := by
  have hfound : (xs.find? fun x => x.name == name).isSome := by
    simpa [List.find?_isSome] using hx
  induction ms with
  | nil => rfl
  | cons m ms ih =>
    obtain ⟨k, v⟩ := m
    by_cases hk : k = name
    · subst hk
      simpa [named, Members.under, hfound] using ih
    · by_cases hx : (xs.find? fun x => x.name == k).isSome
      · simpa [named, Members.under, hx, hk] using ih
      · simpa [named, Members.under, hx, hk] using ih

/-- A list has at most one element exactly if it is the list of an option. -/
lemma length_le_one_iff {l : List α} : l.length ≤ 1 ↔ ∃ o : Option α, l = o.toList := by
  constructor
  · intro h
    match l, h with
    | [], _ => exact ⟨none, rfl⟩
    | [a], _ => exact ⟨some a, rfl⟩
  · rintro ⟨o, rfl⟩
    exact Option.length_toList_le

/-- No expected name comes twice among the members exactly if there is at most one value `under`
each. -/
lemma nodup_named_iff :
    ((named xs ms).map Prod.fst).Nodup ↔
      ∀ x ∈ xs, ∃ o : Option Json, Members.under x.name ms = o.toList := by
  have hcount : ∀ x ∈ xs, ((named xs ms).map Prod.fst).count x.name =
      (Members.under x.name ms).length := by
    intro x hx
    rw [List.count_eq_countP, List.countP_map, List.countP_eq_length_filter]
    exact (congrArg List.length (filter_named (List.mem_map_of_mem hx))).trans (List.length_map _)
  simp only [List.nodup_iff_count_le_one, ← length_le_one_iff]
  constructor
  · intro h x hx
    exact (hcount x hx).symm.trans_le (h x.name)
  · intro h k
    by_cases hk : k ∈ (named xs ms).map Prod.fst
    · obtain ⟨x, hx, rfl⟩ : ∃ x ∈ xs, x.name = k := by
        simp only [named, List.mem_map, List.mem_filter, List.find?_isSome] at hk
        obtain ⟨_, ⟨_, ⟨-, x, hx, he⟩, rfl⟩, rfl⟩ := hk
        exact ⟨x, hx, beq_iff_eq.1 he⟩
      exact (hcount x hx).trans_le (h x hx)
    · exact (List.count_eq_zero.2 hk).trans_le zero_le_one

/-- Every member under an expected name passes the check for it exactly if, for every expectation,
all values `under` its name do. -/
lemma forall_under_iff (hxs : (xs.map Expectation.name).Nodup) :
    (∀ m ∈ ms, ∀ x, (xs.find? fun x => x.name == m.1) = some x → x.check m.2 = .ok ()) ↔
      ∀ x ∈ xs, ∀ v ∈ Members.under x.name ms, x.check v = .ok () := by
  constructor
  · intro h x hx v hv
    simp only [Members.under, List.mem_map, List.mem_filter] at hv
    obtain ⟨m, ⟨hm, he⟩, rfl⟩ := hv
    exact h m hm x (beq_iff_eq.1 he ▸ find?_name hxs hx)
  · intro h m hm x hx
    have hname : x.name = m.1 := by simpa using List.find?_some hx
    refine h x (List.mem_of_find?_eq_some hx) _ ?_
    exact List.mem_map_of_mem (List.mem_filter.2 ⟨hm, by simp [hname]⟩)

/-- The first member that is read under an expected name is the first value `under` that name. -/
lemma lookup_named_eq_head? (hx : name ∈ xs.map Expectation.name) :
    (named xs ms).lookup name = (Members.under name ms).head?.map Draft.ofJson := by
  have hfirst : ∀ l : Fields,
      l.lookup name = (l.filter fun p => p.1 == name).head?.map Prod.snd := by
    intro l
    induction l with
    | nil => rfl
    | cons p l ih =>
      by_cases hp : p.1 = name
      · subst hp
        simp [List.lookup]
      · simp [List.lookup, hp, beq_eq_false_iff_ne.2 (Ne.symm hp), ih]
  rw [hfirst, filter_named hx, List.head?_map, Option.map_map]
  rfl

/-- At most one value is `under` the name of the expectation `x`, and if there is one it passes the
check of `x`. -/
def Expectation.Allows (x : Expectation) (ms : Members) : Prop :=
  ∃ o : Option Json, Members.under x.name ms = o.toList ∧ ∀ v ∈ o, x.check v = .ok ()

/-- **What is read from an object as a record.** Reading the members and going on with `f` gives `b`
exactly if the object satisfies each expectation by `Allows`, and `f` gives `b` on the members under
expected names. -/
theorem recordMembers_bind_iff {f : Fields → Except Mismatch β} {b : β}
    (hxs : (xs.map Expectation.name).Nodup) :
    recordMembers xs (Draft.ofMembers ms) .closed >>= f = .ok b ↔
      (∀ x ∈ xs, x.Allows ms) ∧ f (named xs ms) = .ok b := by
  have hallows : (∀ x ∈ xs, x.Allows ms) ↔
      (∀ x ∈ xs, ∀ v ∈ Members.under x.name ms, x.check v = .ok ()) ∧
        ∀ x ∈ xs, ∃ o : Option Json, Members.under x.name ms = o.toList := by
    constructor
    · intro h
      refine ⟨fun x hx v hv => ?_, fun x hx => (h x hx).imp fun o ho => ho.1⟩
      obtain ⟨o, ho, hcheck⟩ := h x hx
      exact hcheck v (Option.mem_toList.1 (ho ▸ hv))
    · rintro ⟨hcheck, hone⟩ x hx
      obtain ⟨o, ho⟩ := hone x hx
      exact ⟨o, ho, fun v hv => hcheck x hx v (ho ▸ Option.mem_toList.2 hv)⟩
  rw [hallows, ← forall_under_iff hxs, ← nodup_named_iff]
  simp [recordMembers, bind_eq_ok_iff, expectedMembers_eq_ok_iff, orFault, Ending.read,
    Except.mapError, pure, Except.pure, and_assoc]

/-! ### Fields -/

namespace RecordField

variable {f : RecordField α} {a : α} {o : Option Json}

/-- The field `f` has the value `a` when it comes with the value `o`, or does not come at all: it is
what `f.read` makes of `o`, or what `f.absent` says. -/
def Gives (f : RecordField α) (o : Option Json) (a : α) : Prop :=
  match o with
  | some v => f.read v = .ok a
  | none => f.absent = some a

/-- A field without a value for its absence is given only by a value that comes. -/
lemma gives_iff_of_required (hf : f.absent = none) :
    f.Gives o a ↔ ∃ v, o = some v ∧ f.read v = .ok a := by
  cases o with
  | some v => simp [Gives]
  | none => simp [Gives, hf]

/-- If at most one value, `o`, is `under` the name of a field, then the field is read as what `o`
`Gives`. -/
lemma ofMembers_eq_ok_iff (hf : f.name ∈ xs.map Expectation.name)
    (ho : Members.under f.name ms = o.toList) :
    f.ofMembers (named xs ms) = .ok a ↔ f.Gives o a := by
  rw [ofMembers, lookup_named_eq_head? hf, ho]
  cases o with
  | some v => rfl
  | none =>
    rw [Gives]
    cases f.absent <;> simp

/-- A field that is given by what comes under its name is allowed as an expectation. -/
lemma allows_of_gives (ho : Members.under f.name ms = o.toList) (h : f.Gives o a) :
    f.expectation.Allows ms := by
  refine ⟨o, ho, ?_⟩
  rintro v rfl
  exact map_eq_ok_iff.2 ⟨a, h, rfl⟩

/-- In an array, the field in the place `i` is read as what the element there, if any, `Gives`. -/
lemma ofElems_eq_ok_iff {shape : String} {i : Nat} (hf : f.past = f.absent) :
    f.ofElems shape i (Draft.ofElems es) .closed = .ok a ↔ f.Gives es[i]? a := by
  have hget : ∀ (es : List Json) (i : Nat), (Draft.ofElems es)[i]? = es[i]?.map Draft.ofJson := by
    intro es i
    induction es generalizing i with
    | nil => simp [Draft.ofElems]
    | cons e es ih => cases i <;> simp [Draft.ofElems, ih]
  rw [ofElems, hget, hf]
  cases es[i]? with
  | some v => rfl
  | none =>
    rw [Gives]
    cases f.absent <;>
      simp [orFault, Ending.read, Except.mapError, bind, Except.bind, pure, Except.pure, throw,
        throwThe, MonadExceptOf.throw]

end RecordField

/-- An array passes `checkLength n` exactly if it has at most `n` elements. -/
lemma checkLength_eq_ok_iff {n : Nat} {u : Unit} :
    checkLength n (Draft.ofElems es) .closed = .ok u ↔ es.length ≤ n := by
  have hlen : ∀ es : List Json, (Draft.ofElems es).length = es.length := by
    intro es
    induction es with
    | nil => rfl
    | cons e es ih => simp [Draft.ofElems, ih]
  rw [checkLength, hlen]
  split
  · simp only [reduceCtorEq, false_iff]
    omega
  · simp only [orFault, Ending.close, Except.mapError, true_iff]
    omega

/-! ### Records -/

/-- A value brings a list of fields, each by its name with a value or without: as the members of an
object, in any order and among others, or as the elements of an array, in their order. -/
inductive Brings : Json → List (String × Option Json) → Prop
  | members {ms : Members} {fields : List (String × Option Json)}
    (h : ∀ f ∈ fields, Members.under f.1 ms = f.2.toList) : Brings (.obj ms) fields
  | elements {es : List Json} {fields : List (String × Option Json)}
    (h : ∀ i : Nat, es[i]? = fields[i]?.bind Prod.snd) : Brings (.arr es) fields

/-- The fields of a record, in order. The type says what their values are together, so that one law
serves records of any number of fields. -/
inductive Row : Type → Type 1
  | none : Row Unit
  | field {α β : Type} (f : RecordField α) (rest : Row β) : Row (α × β)

namespace Row

/-- The fields of the row as expectations, in order. -/
def expectations {γ : Type} : Row γ → List Expectation
  | none => []
  | field f rest => f.expectation :: rest.expectations

/-- Reads the fields of the row, one after the other, among the members of an object. -/
def ofMembers {γ : Type} : Row γ → Fields → Except Mismatch γ
  | none, _ => return ()
  | field f rest, ms => do
    let a ← f.ofMembers ms
    let b ← rest.ofMembers ms
    return (a, b)

/-- Reads the fields of the row, one after the other, as the elements of an array from the element
`i` on, after which there must be no more. -/
def ofElems {γ : Type} (shape : String) :
    Row γ → (i : Nat) → List Draft → Ending → Except Mismatch γ
  | none, i, ds, e => checkLength i ds e
  | field f rest, i, ds, e => do
    let a ← f.ofElems shape i ds e
    let b ← rest.ofElems shape (i + 1) ds e
    return (a, b)

/-- The reader of a record with the fields of the row, from an object or from an array. -/
def decode (r : Row γ) (shape expected : String) (make : γ → δ) : Decoder δ
  | .obj ms e => do
    let ms ← recordMembers r.expectations ms e
    let c ← r.ofMembers ms
    return make c
  | .arr es e => do
    let c ← r.ofElems shape 0 es e
    return make c
  | d => .error (d.mismatch expected)

/-- The fields of the row have the values `c` when they come as `fields` says. -/
def Gives {γ : Type} : Row γ → List (String × Option Json) → γ → Prop
  | none, fields, _ => fields = []
  | field f rest, fields, c => ∃ o fields', fields = (f.name, o) :: fields' ∧ f.Gives o c.1 ∧
    rest.Gives fields' c.2

/-- Every field of the row has the same value whether an object lacks it or an array ends before it,
which is so of all records here. -/
def Uniform {γ : Type} : Row γ → Prop
  | none => True
  | field f rest => f.past = f.absent ∧ rest.Uniform

variable {r : Row γ} {c : γ}

/-- The fields of a row are read from an object as `c`, and the object allows them, exactly if they
are given as `c` by what comes `under` their names. -/
lemma ofMembers_eq_ok_iff (hxs : ∀ x ∈ r.expectations, x.name ∈ xs.map Expectation.name) :
    ((∀ x ∈ r.expectations, x.Allows ms) ∧ r.ofMembers (named xs ms) = .ok c) ↔
      ∃ fields, (∀ p ∈ fields, Members.under p.1 ms = p.2.toList) ∧ r.Gives fields c := by
  induction r with
  | none => simp [expectations, ofMembers, Gives, pure, Except.pure]
  | field f rest ih =>
    obtain ⟨hf, hrest⟩ := List.forall_mem_cons.1 hxs
    obtain ⟨a, b⟩ := c
    simp only [expectations, ofMembers, List.forall_mem_cons, bind_eq_ok_iff, pure, Except.pure,
      Except.ok.injEq, Prod.mk.injEq]
    constructor
    · rintro ⟨⟨⟨o, ho, -⟩, hallows⟩, a, ha, b, hb, rfl, rfl⟩
      obtain ⟨fields, hfields, hgives⟩ := (ih hrest).1 ⟨hallows, hb⟩
      exact ⟨(f.name, o) :: fields, List.forall_mem_cons.2 ⟨ho, hfields⟩, o, fields, rfl,
        (f.ofMembers_eq_ok_iff hf ho).1 ha, hgives⟩
    · rintro ⟨_, hunder, o, fields, rfl, ha, hgives⟩
      obtain ⟨ho, hfields⟩ := List.forall_mem_cons.1 hunder
      obtain ⟨hallows, hb⟩ := (ih hrest).2 ⟨fields, hfields, hgives⟩
      exact ⟨⟨f.allows_of_gives ho ha, hallows⟩, a, (f.ofMembers_eq_ok_iff hf ho).2 ha, b, hb, rfl,
        rfl⟩

/-- The fields of a row are read from an array as `c` exactly if they are given as `c` by its
elements. -/
lemma ofElems_eq_ok_iff {shape : String} {i : Nat} (hr : r.Uniform) :
    r.ofElems shape i (Draft.ofElems es) .closed = .ok c ↔
      ∃ fields, (∀ j : Nat, es[i + j]? = fields[j]?.bind Prod.snd) ∧ r.Gives fields c := by
  induction r generalizing i with
  | none =>
    simp only [ofElems, checkLength_eq_ok_iff, Gives, exists_eq_right, List.getElem?_nil,
      Option.bind_none, List.getElem?_eq_none_iff]
    exact ⟨fun h j => by omega, fun h => h 0⟩
  | field f rest ih =>
    obtain ⟨hf, hrest⟩ := hr
    obtain ⟨a, b⟩ := c
    simp only [ofElems, bind_eq_ok_iff, pure, Except.pure, Except.ok.injEq, Prod.mk.injEq,
      f.ofElems_eq_ok_iff hf, ih hrest]
    constructor
    · rintro ⟨a, ha, b, ⟨fields, hfields, hgives⟩, rfl, rfl⟩
      refine ⟨(f.name, es[i]?) :: fields, ?_, _, fields, rfl, ha, hgives⟩
      rintro (_ | j)
      · rfl
      · rw [← Nat.add_assoc, Nat.add_right_comm]
        exact hfields j
    · rintro ⟨_, helems, o, fields, rfl, ha, hgives⟩
      obtain rfl : es[i]? = o := helems 0
      refine ⟨a, ha, b, ⟨fields, fun j => ?_, hgives⟩, rfl, rfl⟩
      rw [Nat.add_right_comm]
      exact helems (j + 1)

/-- **When a record is read from a value.** If no two fields of the row have one name and the row is
`Uniform`, then the record is `d` exactly if the value `Brings` fields that give the parts of `d`.

**Proof sketch.** For an object this is `recordMembers_bind_iff` with `ofMembers_eq_ok_iff`, and for
an array `ofElems_eq_ok_iff`. No other value is a record, nor does it bring fields. -/
theorem decode_eq_ok_iff {shape expected : String} {make : γ → δ} {d : δ} {v : Json}
    (hnames : (r.expectations.map Expectation.name).Nodup) (hr : r.Uniform) :
    r.decode shape expected make v = .ok d ↔
      ∃ fields c, Brings v fields ∧ r.Gives fields c ∧ make c = d := by
  cases v with
  | obj ms =>
    rw [Draft.ofJson, decode, recordMembers_bind_iff hnames]
    simp only [bind_eq_ok_iff, pure, Except.pure, Except.ok.injEq]
    constructor
    · rintro ⟨hallows, c, hc, rfl⟩
      obtain ⟨fields, hfields, hgives⟩ :=
        (ofMembers_eq_ok_iff fun x hx => List.mem_map_of_mem hx).1 ⟨hallows, hc⟩
      exact ⟨fields, c, .members hfields, hgives, rfl⟩
    · rintro ⟨fields, c, ⟨hfields⟩, hgives, rfl⟩
      obtain ⟨hallows, hc⟩ :=
        (ofMembers_eq_ok_iff fun x hx => List.mem_map_of_mem hx).2 ⟨fields, hfields, hgives⟩
      exact ⟨hallows, c, hc, rfl⟩
  | arr es =>
    rw [Draft.ofJson, decode]
    simp only [bind_eq_ok_iff, pure, Except.pure, Except.ok.injEq, ofElems_eq_ok_iff hr,
      Nat.zero_add]
    constructor
    · rintro ⟨c, ⟨fields, hfields, hgives⟩, rfl⟩
      exact ⟨fields, c, .elements hfields, hgives, rfl⟩
    · rintro ⟨fields, c, h, hgives, rfl⟩
      obtain ⟨-⟩ | ⟨hfields⟩ := h
      exact ⟨c, ⟨fields, hfields, hgives⟩, rfl⟩
  | _ =>
    constructor
    · intro h
      cases h
    · rintro ⟨fields, c, h, -⟩
      cases h

end Row

end MailDomain.Json
