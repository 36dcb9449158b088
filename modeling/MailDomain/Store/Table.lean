import MailDomain.Object.Key

/-!
# Tables of objects

A table holds at most one object under a key.

## Main definitions

* `Table` — with `get?`, `insert`, `erase` and `size`.

## Main results

* `Table.get?_insert_self`, `get?_insert_of_ne`, `get?_erase_self`, `get?_erase_of_ne` — what a
  lookup finds after a change.
* `Table.size_insert_of_get?_eq_none`, `size_insert_of_get?_eq_some`, `size_erase_of_get?` — how
  a change affects the number of objects.
-/

set_option relaxedAutoImplicit false
set_option autoImplicit false

namespace MailDomain

/-- Objects of type `α` under keys. That there is at most one under each key is part of the table
(`nodup`), so that no lemma about stores has to ask for it. -/
structure Table (α : Type) where
  entries : List (ObjectKey × α)
  nodup : (entries.map Prod.fst).Nodup

namespace Table

variable {α : Type}

/-- The table of no object. -/
def empty : Table α := ⟨[], List.nodup_nil⟩

instance : Inhabited (Table α) := ⟨empty⟩

/-- The object under `key` in a list of entries, the first one if there were several. -/
def find? (key : ObjectKey) : List (ObjectKey × α) → Option α
  | [] => none
  | (k, a) :: es => if k = key then some a else find? key es

/-- Entries with the object under `key` replaced by `a`, which then has the place of the old one, or
with `a` added at the end when there is none. -/
def put (key : ObjectKey) (a : α) : List (ObjectKey × α) → List (ObjectKey × α)
  | [] => [(key, a)]
  | (k, b) :: es => if k = key then (k, a) :: es else (k, b) :: put key a es

/-- Entries without the first object under `key`, which in a table is the only one. -/
def drop (key : ObjectKey) : List (ObjectKey × α) → List (ObjectKey × α)
  | [] => []
  | (k, b) :: es => if k = key then es else (k, b) :: drop key es

theorem mem_keys_put {key k : ObjectKey} {a : α} {es : List (ObjectKey × α)} :
    k ∈ (put key a es).map Prod.fst ↔ k = key ∨ k ∈ es.map Prod.fst := by
  induction es with
  | nil => simp [put]
  | cons e es ih =>
    obtain ⟨j, b⟩ := e
    simp only [put]
    split
    · next h => subst h; simp
    · simp only [List.map_cons, List.mem_cons, ih]
      grind

theorem mem_keys_of_mem_keys_drop {key k : ObjectKey} {es : List (ObjectKey × α)}
    (h : k ∈ (drop key es).map Prod.fst) : k ∈ es.map Prod.fst := by
  induction es with
  | nil => simp [drop] at h
  | cons e es ih =>
    obtain ⟨j, b⟩ := e
    simp only [drop] at h
    split at h
    · simp [h]
    · grind

theorem nodup_put {key : ObjectKey} {a : α} {es : List (ObjectKey × α)}
    (h : (es.map Prod.fst).Nodup) : ((put key a es).map Prod.fst).Nodup := by
  induction es with
  | nil => simp [put]
  | cons e es ih =>
    obtain ⟨j, b⟩ := e
    simp only [List.map_cons, List.nodup_cons] at h
    simp only [put]
    split
    · simpa using h
    · next hj =>
      simp only [List.map_cons, List.nodup_cons, mem_keys_put, not_or]
      exact ⟨⟨hj, h.1⟩, ih h.2⟩

theorem nodup_drop {key : ObjectKey} {es : List (ObjectKey × α)}
    (h : (es.map Prod.fst).Nodup) : ((drop key es).map Prod.fst).Nodup := by
  induction es with
  | nil => simp [drop]
  | cons e es ih =>
    obtain ⟨j, b⟩ := e
    simp only [List.map_cons, List.nodup_cons] at h
    simp only [drop]
    split
    · exact h.2
    · simp only [List.map_cons, List.nodup_cons]
      exact ⟨fun hm => h.1 (mem_keys_of_mem_keys_drop hm), ih h.2⟩

/-- The object under `key`, if there is one. -/
def get? (t : Table α) (key : ObjectKey) : Option α := find? key t.entries

/-- The table with `a` under `key`, in the place of what was there or at the end. -/
def insert (t : Table α) (key : ObjectKey) (a : α) : Table α :=
  ⟨put key a t.entries, nodup_put t.nodup⟩

/-- The table without the object under `key`. -/
def erase (t : Table α) (key : ObjectKey) : Table α := ⟨drop key t.entries, nodup_drop t.nodup⟩

/-- The number of objects in the table. -/
def size (t : Table α) : Nat := t.entries.length

/-- The keys under which there are objects, in the order of the entries. -/
def keys (t : Table α) : List ObjectKey := t.entries.map Prod.fst

@[simp] theorem get?_empty (key : ObjectKey) : (empty : Table α).get? key = none := rfl

@[simp] theorem size_empty : (empty : Table α).size = 0 := rfl

theorem find?_put_self (key : ObjectKey) (a : α) (es : List (ObjectKey × α)) :
    find? key (put key a es) = some a := by
  induction es with
  | nil => simp [put, find?]
  | cons e es ih =>
    obtain ⟨k, b⟩ := e
    simp only [put]
    split
    · next h => simp [find?, h]
    · next h => simp [find?, h, ih]

theorem find?_put_of_ne {key other : ObjectKey} (h : other ≠ key) (a : α)
    (es : List (ObjectKey × α)) : find? other (put key a es) = find? other es := by
  induction es with
  | nil => simp [put, find?, Ne.symm h]
  | cons e es ih =>
    obtain ⟨k, b⟩ := e
    simp only [put]
    split
    · next hk => simp [find?, hk, Ne.symm h]
    · simp [find?, ih]

theorem find?_eq_none_of_not_mem {key : ObjectKey} {es : List (ObjectKey × α)}
    (h : key ∉ es.map Prod.fst) : find? key es = none := by
  induction es with
  | nil => rfl
  | cons e es ih =>
    obtain ⟨k, b⟩ := e
    simp only [List.map_cons, List.mem_cons, not_or] at h
    simp [find?, Ne.symm h.1, ih h.2]

theorem find?_drop_self {key : ObjectKey} {es : List (ObjectKey × α)}
    (h : (es.map Prod.fst).Nodup) : find? key (drop key es) = none := by
  induction es with
  | nil => rfl
  | cons e es ih =>
    obtain ⟨k, b⟩ := e
    simp only [List.map_cons, List.nodup_cons] at h
    simp only [drop]
    split
    · next hk => exact find?_eq_none_of_not_mem (hk ▸ h.1)
    · next hk => simp [find?, hk, ih h.2]

theorem find?_drop_of_ne {key other : ObjectKey} (h : other ≠ key)
    (es : List (ObjectKey × α)) : find? other (drop key es) = find? other es := by
  induction es with
  | nil => rfl
  | cons e es ih =>
    obtain ⟨k, b⟩ := e
    simp only [drop]
    split
    · next hk => simp [find?, hk, Ne.symm h]
    · simp [find?, ih]

/-- After `insert key a` the object under `key` is `a`. -/
@[simp] theorem get?_insert_self (t : Table α) (key : ObjectKey) (a : α) :
    (t.insert key a).get? key = some a := find?_put_self key a t.entries

/-- An `insert` under `key` leaves the objects under other keys. -/
theorem get?_insert_of_ne {key other : ObjectKey} (h : other ≠ key) (t : Table α) (a : α) :
    (t.insert key a).get? other = t.get? other := find?_put_of_ne h a t.entries

/-- After `erase key` there is no object under `key`. It takes `nodup` to see this. -/
@[simp] theorem get?_erase_self (t : Table α) (key : ObjectKey) :
    (t.erase key).get? key = none := find?_drop_self t.nodup

/-- An `erase` of `key` leaves the objects under other keys. -/
theorem get?_erase_of_ne {key other : ObjectKey} (h : other ≠ key) (t : Table α) :
    (t.erase key).get? other = t.get? other := find?_drop_of_ne h t.entries

/-- An `insert` under a vacant key adds one object. -/
theorem size_insert_of_get?_eq_none {t : Table α} {key : ObjectKey} (h : t.get? key = none)
    (a : α) : (t.insert key a).size = t.size + 1 := by
  obtain ⟨es, hn⟩ := t
  simp only [get?, size, insert] at *
  clear hn
  induction es with
  | nil => simp [put]
  | cons e es ih =>
    obtain ⟨k, b⟩ := e
    simp only [find?] at h
    split at h
    · simp at h
    · next hk => simp [put, hk, ih h]

/-- An `insert` under a key that has an object replaces it and adds none. -/
theorem size_insert_of_get?_eq_some {t : Table α} {key : ObjectKey} {b : α}
    (h : t.get? key = some b) (a : α) : (t.insert key a).size = t.size := by
  obtain ⟨es, hn⟩ := t
  simp only [get?, size, insert] at *
  clear hn
  induction es with
  | nil => simp [find?] at h
  | cons e es ih =>
    obtain ⟨k, c⟩ := e
    simp only [find?] at h
    simp only [put]
    split at h
    · next hk => simp [hk]
    · next hk => simp [hk, ih h]

/-- An `erase` of an object that is there takes one away. -/
theorem size_erase_of_get? {t : Table α} {key : ObjectKey} {b : α} (h : t.get? key = some b) :
    (t.erase key).size + 1 = t.size := by
  obtain ⟨es, hn⟩ := t
  simp only [get?, size, erase] at *
  clear hn
  induction es with
  | nil => simp [find?] at h
  | cons e es ih =>
    obtain ⟨k, c⟩ := e
    simp only [find?] at h
    simp only [drop]
    split at h
    · next hk => simp [hk]
    · next hk => simp [hk, ih h]

end Table

end MailDomain
