import MailDomain.Json.Draft
import MailDomain.Json.Printer
import MailDomain.Text.Quoted

/-!
# Reading records from drafts

A record is read from an object, whose unknown members are passed over, or from the array of
its fields in order. What the text holds is looked at in its order, so that the first thing that
is wrong is what is told, whether it is a fault of the text or a value of the wrong type. Only
at the end of an object the missing fields are looked for, in the order of the record.

## Main definitions

* `Json.Mismatch` — why a draft is no record, with its `message`.
* `Json.RecordField` — a field of a record: its name, its reader and what its absence means.
* `Json.text`, `flag`, `word64`, `optional`, `list`, `textMap`, `whole` — readers of plain values.
* `Json.recordMembers` — the members of an object that are fields of a record.
* `Json.presentMembers`, `Json.present?` — fields of an object in which null and absence mean the
  same.
-/

set_option relaxedAutoImplicit false
set_option autoImplicit false

namespace MailDomain.Json

/-- What a reader finds in place of something else: a plain value with its content, or no more than
that a `sequence` or a `map` starts. -/
inductive Finding
  | null
  | bool (value : Bool)
  | num (value : Number)
  | str (value : String)
  | sequence
  | map
  deriving DecidableEq, Repr

/-- What a message calls a finding: its type, and the value if it is a plain one, a text as
`Text.quoted`. -/
def Finding.text : Finding → String
  | .null => "null"
  | .bool b => "boolean `" ++ (if b then "true" else "false") ++ "`"
  | .num (.int n) => "integer `" ++ toString n ++ "`"
  | .num n => "floating point `" ++ n.text ++ "`"
  | .str s => "string " ++ Text.quoted s
  | .sequence => "sequence"
  | .map => "map"

/-- Why a draft cannot be read as a record. `Mismatch.message` has the wording of each case. -/
inductive Mismatch
  /-- The text has a fault. -/
  | fault (f : Fault)
  /-- A value of another type than the one expected. -/
  | wrongType (found : Finding) (expected : String)
  /-- A value of the right type outside the expected range. -/
  | wrongValue (found : Finding) (expected : String)
  /-- A field that an object lacks. -/
  | missingField (name : String)
  /-- A field that an object has twice. -/
  | duplicateField (name : String)
  /-- An array that ends before a field. -/
  | tooShort (length : Nat) (expected : String)
  /-- An array with more elements than fields. -/
  | tooLong (length : Nat)
  /-- A text that is not in the format that is asked for, and why. -/
  | badFormat (reason : String)
  /-- A text that is none of two words. -/
  | unknownWord (found first second : String)
  /-- Something that cannot stand for a word. -/
  | noWord
  deriving DecidableEq, Repr

/-- The wording of a mismatch, as a client of the interface sees it. -/
def Mismatch.message : Mismatch → String
  | .fault f => f.message
  | .wrongType v e => "invalid type: " ++ v.text ++ ", expected " ++ e
  | .wrongValue v e => "invalid value: " ++ v.text ++ ", expected " ++ e
  | .missingField f => "missing field `" ++ f ++ "`"
  | .duplicateField f => "duplicate field `" ++ f ++ "`"
  | .tooShort n e => "invalid length " ++ toString n ++ ", expected " ++ e
  | .tooLong n => "invalid length " ++ toString n ++ ", expected fewer elements in array"
  | .badFormat reason => reason
  | .unknownWord w a b => "unknown variant `" ++ w ++ "`, expected `" ++ a ++ "` or `" ++ b ++ "`"
  | .noWord => "expected value"

/-- A reader of drafts: the value that a `Draft` stands for, or the first `Mismatch` in the order of
its text. -/
abbrev Decoder (α : Type) := Draft → Except Mismatch α

/-- What keeps a draft from being read as something else, called `expected`. Of a container no more
than its start is looked at, so faults inside of it do not count. -/
def Draft.mismatch (expected : String) : Draft → Mismatch
  | .null => .wrongType .null expected
  | .bool b => .wrongType (.bool b) expected
  | .num n => .wrongType (.num n) expected
  | .str s => .wrongType (.str s) expected
  | .arr _ _ => .wrongType .sequence expected
  | .obj _ _ => .wrongType .map expected
  | .unreadable f => .fault f
  | .broken f _ => .fault f

/-- A part of a text that has to be there: a `Fault` becomes the mismatch `Mismatch.fault`. -/
def orFault {α : Type} (r : Except Fault α) : Except Mismatch α := r.mapError .fault

/-- Reads any value that is nested at most `depth` deep, by `Draft.value`. -/
def whole (depth : Nat) : Decoder Json := fun d => orFault (d.value depth)

/-- Reads a text; a draft of anything else is a mismatch with `a string`. -/
def text : Decoder String
  | .str s => .ok s
  | d => .error (d.mismatch "a string")

/-- Reads a truth value; a draft of anything else is a mismatch with `a boolean`. -/
def flag : Decoder Bool
  | .bool b => .ok b
  | d => .error (d.mismatch "a boolean")

/-- Reads an integer `n` with `low ≤ n ≤ high`. `name` is what messages call such an integer: one
outside of the bounds is a `wrongValue`, anything else a `wrongType`. -/
def integer (name : String) (low high : Int) : Decoder Int
  | .num (.int n) =>
    if low ≤ n ∧ n ≤ high then .ok n else .error (.wrongValue (.num (.int n)) name)
  | d => .error (d.mismatch name)

/-- Reads a signed integer of 64 bits, called `i64`. -/
def word64 : Decoder Int64 := fun d =>
  (integer "i64" (-9223372036854775808) 9223372036854775807 d).map Int64.ofInt

/-- Reads a value that may be null: `none` for `null`, and what `read` finds for any other draft. -/
def optional {α : Type} (read : Decoder α) : Decoder (Option α)
  | .null => .ok none
  | d => (read d).map some

/-- Reads the elements of a list in order, each by `read`, up to the first that cannot be read. -/
def elements {α : Type} (read : Decoder α) : List Draft → Except Mismatch (List α)
  | [] => .ok []
  | d :: ds => do
    let a ← read d
    let as ← elements read ds
    return a :: as

/-- Reads an array whose elements `read` reads. The elements come before the `Ending`, as they do in
the text. -/
def list {α : Type} (read : Decoder α) : Decoder (List α)
  | .arr ds e => do
    let as ← elements read ds
    orFault e.read
    return as
  | d => .error (d.mismatch "a sequence")

/-- Texts under names, sorted by name. `setText` keeps the order. -/
abbrev TextMap := List (String × String)

/-- A text map in which `name` has the value `value`, in the place of an earlier value if there is
one. -/
def setText (name value : String) : TextMap → TextMap
  | [] => [(name, value)]
  | (k, w) :: ms =>
    if k = name then (k, value) :: ms
    else if name < k then (name, value) :: (k, w) :: ms
    else (k, w) :: setText name value ms

/-- The members of an object as they are in a text: the name, which may hold a fault, and the draft
of the value. -/
abbrev DraftMembers := List (Except Fault String × Draft)

/-- Reads the members of a text map in order and adds them to `acc`, a later one of a name replacing
an earlier. -/
def textMembers (acc : TextMap) : DraftMembers → Except Mismatch TextMap
  | [] => .ok acc
  | (k, d) :: ms => do
    let k ← orFault k
    let s ← text d
    textMembers (setText k s acc) ms

/-- Reads an object whose values are texts as a `TextMap`. -/
def textMap : Decoder TextMap
  | .obj ms e => do
    let m ← textMembers [] ms
    orFault e.read
    return m
  | d => .error (d.mismatch "a map")

/-- A text map as a value: the object with a member for each text, in the order of the map. -/
def ofTextMap (m : TextMap) : Json := .obj (m.map fun p => (p.1, .str p.2))

/-- A name with a reader of what has it, whose answer does not matter: only whether the draft can be
read. -/
structure Expectation where
  name : String
  check : Draft → Except Mismatch Unit

/-- A reader as an expectation: what `read` finds under `name` is dropped, its mismatch stays. -/
def Expectation.of {α : Type} (name : String) (read : Decoder α) : Expectation where
  name := name
  check d := (read d).map fun _ => ()

/-- The expectation that nothing or `null` is under a name, or something that `read` can read. -/
def perhaps {α : Type} (name : String) (read : Decoder α) : Expectation :=
  .of name (optional read)

/-- The members of an object under expected names, in the order of the text. -/
abbrev Fields := List (String × Draft)

/-- Reads the members of an object in order: the value under every expected name must pass the
`check` of its `Expectation`, a value under any other name only `Draft.pass`. With `once`, no
expected name may come twice, and `seen` holds those that came. -/
def expectedMembers (once : Bool) (expected : List Expectation) :
    (seen : List String) → DraftMembers → Except Mismatch Fields
  | _, [] => .ok []
  | seen, (k, d) :: ms => do
    let k ← orFault k
    match expected.find? fun x => x.name == k with
    | none =>
      orFault d.pass
      expectedMembers once expected seen ms
    | some x =>
      if once && seen.contains k then throw (.duplicateField k)
      x.check d
      let rest ← expectedMembers once expected (k :: seen) ms
      return (k, d) :: rest

/-- A field of a record: its `name` in an object, the reader of its value, and what its absence
means in either form. -/
structure RecordField (α : Type) where
  name : String
  read : Decoder α
  /-- The value of the field in an object that lacks it. -/
  absent : Option α := none
  /-- The value of the field in an array that ends before it. -/
  past : Option α := none

namespace RecordField

variable {α : Type}

/-- The field as an `Expectation`, for `expectedMembers`. -/
def expectation (f : RecordField α) : Expectation := .of f.name f.read

/-- The value of the field among the members of an object: that of the first member with its name,
else `absent`, else the mismatch `missingField`. -/
def ofMembers (f : RecordField α) (ms : Fields) : Except Mismatch α :=
  match ms.lookup f.name with
  | some d => f.read d
  | none => match f.absent with
    | some a => .ok a
    | none => .error (.missingField f.name)

/-- The value of the field as the element `i` of an array. Past the end of the array `e`, which must
be in order, it is `past`, else the mismatch `tooShort` with the given `shape`. -/
def ofElems (f : RecordField α) (shape : String) (i : Nat) (ds : List Draft) (e : Ending) :
    Except Mismatch α :=
  match ds[i]? with
  | some d => f.read d
  | none => do
    orFault e.read
    match f.past with
    | some a => return a
    | none => throw (.tooShort ds.length shape)

end RecordField

/-- The members of an object that are among the `fields` of a record. Every one must be readable,
none may come twice, and the object must end. -/
def recordMembers (fields : List Expectation) (ms : DraftMembers) (e : Ending) :
    Except Mismatch Fields := do
  let found ← expectedMembers true fields [] ms
  orFault e.read
  return found

/-- Accepts the end of an array of `n` fields: more elements are `tooLong`, and after the last one
the array must be closed. -/
def checkLength (n : Nat) (ds : List Draft) (e : Ending) : Except Mismatch Unit :=
  if n < ds.length then .error (.tooLong ds.length) else orFault e.close

/-- The members of an object of the type `name` that are among its `fields`, of which every one must
be readable. A name may come twice here, `lastOf` deciding between the two. -/
def presentMembers (name : String) (fields : List Expectation) : Draft → Except Mismatch Fields
  | .obj ms e => do
    let found ← expectedMembers false fields [] ms
    orFault e.read
    return found
  | d => .error (d.mismatch name)

/-- The last member called `name` among `ms`, with `null` as good as no such member. -/
def lastOf (name : String) (ms : Fields) : Option Draft :=
  match ms.reverse.lookup name with
  | some .null => none
  | d => d

/-- The value of a field of an object in which `null` and absence mean the same: what `read` makes
of `lastOf name ms`, if that is there. -/
def present? {α : Type} (name : String) (read : Decoder α) (ms : Fields) :
    Except Mismatch (Option α) :=
  match lastOf name ms with
  | none => .ok none
  | some d => (read d).map some

end MailDomain.Json
