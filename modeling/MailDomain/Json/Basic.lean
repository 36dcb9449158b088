import MailDomain.Decimal.Shortest

/-!
# JSON values

The members of an object keep the order in which they were written; operations on members
look at the first member of a name. Objects whose members are sorted by name are the form in
which the API server keeps what it stores.

## Main definitions

* `Json.Number`, `Json` — numbers and values.
* `Json.Members` — the members of an object, with `get?`, `set` and `erase`.
* `Json.sorted` — a value with the members of every object sorted by name, the last one of a
  name winning.

## Main results

* `Json.Members.get?_set_self`, `get?_set_of_ne`, `get?_erase_self`, `get?_erase_of_ne` —
  what a lookup finds after a change.
-/

set_option relaxedAutoImplicit false
set_option autoImplicit false

namespace MailDomain

/-- A number: an integer of 64 bits, or a floating-point number with its sign apart, so that zero
has one too. -/
inductive Json.Number
  | int (value : Int)
  | float (negative : Bool) (magnitude : Binary64)
  deriving DecidableEq, Repr

/-- A JSON value. The members of an object are kept in order, and nothing forbids a name to come
twice. -/
inductive Json
  | null
  | bool (value : Bool)
  | num (value : Json.Number)
  | str (value : String)
  | arr (elems : List Json)
  | obj (members : List (String × Json))
  deriving Repr, Inhabited

namespace Json

/-- The members of an object, in order and with their names. -/
abbrev Members := List (String × Json)

namespace Members

/-- The value of the first member called `name`, if there is one. -/
def get? (name : String) : Members → Option Json
  | [] => none
  | (k, v) :: ms => if k = name then some v else get? name ms

/-- The members `ms` without all those called `name`. -/
def erase (name : String) (ms : Members) : Members := ms.filter fun m => m.1 != name

/-- The members with `name` set to `v`: in its place if there is one of that name, before the
first greater name otherwise. -/
def set (name : String) (v : Json) : Members → Members
  | [] => [(name, v)]
  | (k, w) :: ms =>
    if k = name then (k, v) :: ms
    else if name < k then (name, v) :: (k, w) :: erase name ms
    else (k, w) :: set name v ms

@[simp] theorem get?_nil (name : String) : get? name [] = none := rfl

/-- A name that was erased is not found any more. -/
@[simp] theorem get?_erase_self (name : String) (ms : Members) :
    get? name (erase name ms) = none := by
  induction ms with
  | nil => rfl
  | cons m ms ih =>
    obtain ⟨k, v⟩ := m
    by_cases h : k = name
    · simpa [erase, h] using ih
    · simpa [erase, h, get?] using ih

/-- Erasing a name leaves what is found under the others. -/
theorem get?_erase_of_ne {name other : String} (h : other ≠ name) (ms : Members) :
    get? other (erase name ms) = get? other ms := by
  induction ms with
  | nil => rfl
  | cons m ms ih =>
    obtain ⟨k, v⟩ := m
    by_cases hk : k = name
    · have : ¬ k = other := fun e => h (e ▸ hk)
      simpa [erase, hk, get?, this, Ne.symm h] using ih
    · by_cases ho : k = other
      · simp [erase, get?, ho, h]
      · simpa [erase, hk, get?, ho] using ih

/-- A name that was set is found with its new value. -/
@[simp] theorem get?_set_self (name : String) (v : Json) (ms : Members) :
    get? name (set name v ms) = some v := by
  induction ms with
  | nil => simp [set, get?]
  | cons m ms ih =>
    obtain ⟨k, w⟩ := m
    simp only [set]
    split
    · next h => simp [get?, h]
    · next h =>
      split
      · simp [get?]
      · simpa [get?, h] using ih

/-- Setting a name leaves what is found under the others. -/
theorem get?_set_of_ne {name other : String} (h : other ≠ name) (v : Json) (ms : Members) :
    get? other (set name v ms) = get? other ms := by
  induction ms with
  | nil => simp [set, get?, Ne.symm h]
  | cons m ms ih =>
    obtain ⟨k, w⟩ := m
    simp only [set]
    split
    · next hk => simp [get?, hk, Ne.symm h]
    · split
      · simp [get?, Ne.symm h, get?_erase_of_ne h]
      · simp [get?, ih]

end Members

/-- The members of an object, and none for a value that is no object. -/
def members : Json → Members
  | .obj ms => ms
  | _ => []

/-- The value of the member `name` of an object, by `Members.get?`. A value that is no object has no
members. -/
def get? (v : Json) (name : String) : Option Json := Members.get? name v.members

/-- The text of a value that is a string. -/
def str? : Json → Option String
  | .str s => some s
  | _ => none

/-- The object with the given fields, those without a value being left out. -/
def ofFields (fields : List (String × Option Json)) : Json :=
  .obj (fields.filterMap fun f => f.2.map (Prod.mk f.1))

/-- The integer `n` as a JSON value, whether or not it fits into 64 bits. -/
def ofInt (n : Int) : Json := .num (.int n)

/-- The natural number `n` as a JSON value. -/
def ofNat (n : Nat) : Json := .num (.int n)

/-- A text that may be absent as a JSON value, which is null when it is absent. -/
def ofText? : Option String → Json
  | none => .null
  | some s => .str s

mutual

/-- The value with the members of every object in it sorted by name. Of several members of one name,
the last wins. -/
def sorted : Json → Json
  | .arr es => .arr (sortedElems es)
  | .obj ms => .obj (sortedOnto [] ms)
  | .null => .null
  | .bool b => .bool b
  | .num n => .num n
  | .str s => .str s

/-- The elements of an array, each in sorted form. -/
def sortedElems : List Json → List Json
  | [] => []
  | e :: es => sorted e :: sortedElems es

/-- The members `acc` with more members set in order, each in sorted form. -/
def sortedOnto (acc : Members) : List (String × Json) → Members
  | [] => acc
  | (k, v) :: ms => sortedOnto (Members.set k (sorted v) acc) ms

end

end Json

end MailDomain
