import MailDomain.Json.Basic
import MailDomain.Json.Fault

/-!
# Drafts

A draft is what a text says as far as it can be read. Where the text breaks off, the draft says
why, and where a number or a string has no value although the text goes on, it says so too. One
who reads a draft in order meets its faults where they are in the text, between the other
reasons for which a text may be refused. What is of no interest is passed over, which some of the
faults do not prevent.

## Main definitions

* `Json.Draft` — drafts, with `Json.Ending` for the end of a container.
* `Json.Draft.ofJson` — a value as a draft without faults.
* `Json.Draft.pass` — the passing over of a draft.
* `Json.Draft.value` — the value of a draft.

## Main results

* `Json.Draft.pass_ofJson` — a value can be passed over.
* `Json.Draft.value_ofJson` — a value that is not nested too deep is the value of its draft.
-/

set_option relaxedAutoImplicit false
set_option autoImplicit false

namespace MailDomain.Json

/-- How a container, which is an array or an object, ends in a text. -/
inductive Ending
  | closed
  /-- The text does not go on as it should. The fault is not the same for one who reads the
  container, for one who passes it over, and for one who expects its end. -/
  | broken (reading passing closing : Fault)
  deriving DecidableEq, Repr

/-- What a text says as far as it can be read. Faults stand where they occur, since which of them is
reported depends on who reads. -/
inductive Draft
  | null
  | bool (value : Bool)
  | num (value : Number)
  | str (value : String)
  | arr (elems : List Draft) (ending : Ending)
  | obj (members : List (Except Fault String × Draft)) (ending : Ending)
  /-- A number or a string that is complete but has no value, such as one with a bad escape. -/
  | unreadable (fault : Fault)
  /-- The text does not go on as it should, and nothing more is known of it. -/
  | broken (reading passing : Fault)

/-- The end of a container for one who reads its elements or members. -/
def Ending.read : Ending → Except Fault Unit
  | .closed => .ok ()
  | .broken f _ _ => .error f

/-- The end of a container for one who passes it over. -/
def Ending.pass : Ending → Except Fault Unit
  | .closed => .ok ()
  | .broken _ f _ => .error f

/-- The end of a container for one who expects nothing else in it. -/
def Ending.close : Ending → Except Fault Unit
  | .closed => .ok ()
  | .broken _ _ f => .error f

namespace Draft

instance : Inhabited Draft := ⟨.null⟩

mutual

/-- The JSON value as a draft in which everything could be read. -/
def ofJson : Json → Draft
  | .null => .null
  | .bool b => .bool b
  | .num n => .num n
  | .str s => .str s
  | .arr es => .arr (ofElems es) .closed
  | .obj ms => .obj (ofMembers ms) .closed

/-- The elements of an array as drafts. -/
def ofElems : List Json → List Draft
  | [] => []
  | e :: es => ofJson e :: ofElems es

/-- The members of an object as drafts, with names that could be read. -/
def ofMembers : List (String × Json) → List (Except Fault String × Draft)
  | [] => []
  | (k, v) :: ms => (.ok k, ofJson v) :: ofMembers ms

end

instance : Coe Json Draft := ⟨ofJson⟩

mutual

/-- Passes over a draft. This fails only where the text breaks off, not at a value that is
unreadable. -/
def pass : Draft → Except Fault Unit
  | .null => .ok ()
  | .bool _ => .ok ()
  | .num _ => .ok ()
  | .str _ => .ok ()
  | .arr es e => passElems es >>= fun _ => e.pass
  | .obj ms e => passMembers ms >>= fun _ => e.pass
  | .unreadable _ => .ok ()
  | .broken _ f => .error f

/-- Passes over the elements of an array, one after the other. -/
def passElems : List Draft → Except Fault Unit
  | [] => .ok ()
  | d :: ds => pass d >>= fun _ => passElems ds

/-- Passes over the members of an object, one after the other. Their names do not matter. -/
def passMembers : List (Except Fault String × Draft) → Except Fault Unit
  | [] => .ok ()
  | (_, d) :: ms => pass d >>= fun _ => passMembers ms

end

mutual

/-- The value of a draft in which at most `depth` containers are nested in each other. The first
fault in the order of the text is reported. -/
def value : (depth : Nat) → Draft → Except Fault Json
  | _, .null => .ok .null
  | _, .bool b => .ok (.bool b)
  | _, .num n => .ok (.num n)
  | _, .str s => .ok (.str s)
  | 0, .arr _ _ => .error .tooDeep
  | depth + 1, .arr es e => do
    let vs ← elems depth es
    e.read
    return .arr vs
  | 0, .obj _ _ => .error .tooDeep
  | depth + 1, .obj ms e => do
    let vs ← members depth ms
    e.read
    return .obj vs
  | _, .unreadable f => .error f
  | _, .broken f _ => .error f

/-- The values of the elements of an array, each nested at most `depth` deep. -/
def elems : (depth : Nat) → List Draft → Except Fault (List Json)
  | _, [] => .ok []
  | depth, d :: ds => do
    let v ← value depth d
    let vs ← elems depth ds
    return v :: vs

/-- The names and values of the members of an object, each nested at most `depth` deep. -/
def members : (depth : Nat) → List (Except Fault String × Draft) →
    Except Fault (List (String × Json))
  | _, [] => .ok []
  | depth, (k, d) :: ms => do
    let k ← k
    let v ← value depth d
    let vs ← members depth ms
    return (k, v) :: vs

end

mutual

/-- The draft of a value can be passed over. -/
theorem pass_ofJson : ∀ v : Json, pass (ofJson v) = .ok ()
  | .null => rfl
  | .bool _ => rfl
  | .num _ => rfl
  | .str _ => rfl
  | .arr es => by simp [ofJson, pass, passElems_ofElems es, Ending.pass, bind, Except.bind]
  | .obj ms => by simp [ofJson, pass, passMembers_ofMembers ms, Ending.pass, bind, Except.bind]

theorem passElems_ofElems : ∀ es : List Json, passElems (ofElems es) = .ok ()
  | [] => rfl
  | e :: es => by
    simp [ofElems, passElems, pass_ofJson e, passElems_ofElems es, bind, Except.bind]

theorem passMembers_ofMembers :
    ∀ ms : List (String × Json), passMembers (ofMembers ms) = .ok ()
  | [] => rfl
  | (k, v) :: ms => by
    simp [ofMembers, passMembers, pass_ofJson v, passMembers_ofMembers ms, bind, Except.bind]

end

end Draft

mutual

/-- How many containers of the value are nested in each other, at most. -/
def depth : Json → Nat
  | .arr es => depthOfElems es + 1
  | .obj ms => depthOfMembers ms + 1
  | _ => 0

/-- How many containers are nested in each other in the elements of an array, at most. -/
def depthOfElems : List Json → Nat
  | [] => 0
  | e :: es => max (depth e) (depthOfElems es)

/-- How many containers are nested in each other in the members of an object, at most. -/
def depthOfMembers : List (String × Json) → Nat
  | [] => 0
  | (_, v) :: ms => max (depth v) (depthOfMembers ms)

end

namespace Draft

mutual

/-- A value that is nested at most `n` deep is the value of its draft. -/
theorem value_ofJson : ∀ (v : Json) {n : Nat}, v.depth ≤ n → value n (ofJson v) = .ok v
  | .null, _, _ => by simp [ofJson, value]
  | .bool _, _, _ => by simp [ofJson, value]
  | .num _, _, _ => by simp [ofJson, value]
  | .str _, _, _ => by simp [ofJson, value]
  | .arr es, n, h => by
    cases n with
    | zero => simp [depth] at h
    | succ n =>
      have := elems_ofElems es (n := n) (by simpa [depth] using h)
      simp [ofJson, value, this, Ending.read, bind, Except.bind, pure, Except.pure]
  | .obj ms, n, h => by
    cases n with
    | zero => simp [depth] at h
    | succ n =>
      have := members_ofMembers ms (n := n) (by simpa [depth] using h)
      simp [ofJson, value, this, Ending.read, bind, Except.bind, pure, Except.pure]

theorem elems_ofElems :
    ∀ (es : List Json) {n : Nat}, depthOfElems es ≤ n → elems n (ofElems es) = .ok es
  | [], _, _ => by simp [ofElems, elems]
  | e :: es, n, h => by
    have h : e.depth ≤ n ∧ depthOfElems es ≤ n := by
      simp only [depthOfElems] at h
      omega
    simp [ofElems, elems, value_ofJson e h.1, elems_ofElems es h.2, bind, Except.bind, pure,
      Except.pure]

theorem members_ofMembers :
    ∀ (ms : List (String × Json)) {n : Nat}, depthOfMembers ms ≤ n →
      members n (ofMembers ms) = .ok ms
  | [], _, _ => by simp [ofMembers, members]
  | (k, v) :: ms, n, h => by
    have h : v.depth ≤ n ∧ depthOfMembers ms ≤ n := by
      simp only [depthOfMembers] at h
      omega
    simp [ofMembers, members, value_ofJson v h.1, members_ofMembers ms h.2, bind, Except.bind,
      pure, Except.pure]

end

end Draft

end MailDomain.Json
