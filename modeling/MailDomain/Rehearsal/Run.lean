import MailDomain.Rehearsal.World

/-!
# Carrying out a rehearsal

## Main definitions

* `Rehearsal.call` — a call to a store, with its faults.
* `Rehearsal.StoreResult`, `Rehearsal.runStoreStep` — a step on a store and its result.
* `Rehearsal.environment` — the world as the environment of a pass.
* `Rehearsal.pass`, `reconciled`, `converged`, `checked` — what can be tried out.
-/

set_option relaxedAutoImplicit false
set_option autoImplicit false

namespace MailDomain.Rehearsal

variable {Spec Status : Type}

/-- Takes out the first fault of the operation `o`, and leaves the others in their order. -/
def takeFault (o : Operation) : List Fault → Option Fault × List Fault
  | [] => (none, [])
  | f :: fs =>
    if f.operation = o then (some f, fs)
    else
      let (found, rest) := takeFault o fs
      (found, f :: rest)

/-- A call of the operation `o` to a store, on the object of a key: it is written down, meets the
first fault of its operation with `takeFault`, and then does its `work`, unless the fault is an
error. -/
def call {α : Type} (side : Side Spec Status) (o : Operation) (key : Option ObjectKey)
    (work : Shelf Spec Status → Except StoreError α × MemoryStore Spec Status) :
    Timed World (Except StoreError α) := do
  let keyText := match key with
    | some k => k.text
    | none => "-"
  Timed.change (·.called (side.name ++ "." ++ o.name ++ " " ++ keyText))
  let (fault, rest) := takeFault o (side.look (← Timed.world)).faults
  Timed.change (side.change fun s => { s with faults := rest })
  let error ← match fault with
    | none => pure none
    | some f =>
      Timed.wait f.delay
      pure f.error
  match error with
  | some e => return .error e
  | none =>
    let (result, store) := work (side.look (← Timed.world))
    Timed.change (side.change fun s => { s with store })
    return result

variable [Manifest (Resource Spec Status)]

/-- Finds an object: the one that is `frozen`, if one is, else the one stored. -/
def get (side : Side Spec Status) (key : ObjectKey) :
    Timed World (Except StoreError (Option (Resource Spec Status))) :=
  call side .get (some key) fun s => (.ok (s.frozen.getD (s.store.get key)), s.store)

/-- Creates an object, by `MemoryStore.create`. -/
def create (side : Side Spec Status) (r : Resource Spec Status) :
    Timed World (Except StoreError Unit) :=
  call side .create r.key? fun s => s.store.create r

/-- Deletes an object, by `MemoryStore.delete`. -/
def delete (side : Side Spec Status) (r : Resource Spec Status) :
    Timed World (Except StoreError Unit) :=
  call side .delete r.key? fun s => s.store.delete r

/-- Writes the status of an object, by `MemoryStore.updateStatus`. -/
def updateStatus (side : Side Spec Status) (r : Resource Spec Status) :
    Timed World (Except StoreError Unit) :=
  call side .updateStatus r.key? fun s => s.store.updateStatus r

/-- The result of a step on a store, which a script shows. -/
inductive StoreResult (Spec Status : Type)
  | ok
  /-- There is no such object. -/
  | missing
  | stored (r : Resource Spec Status)
  | found (r : Option (Resource Spec Status))
  | failed (e : StoreError)
  /-- The object that a patch gives cannot be read. -/
  | unreadable (m : Json.Mismatch)
  | contents (objects : List (ObjectKey × Resource Spec Status))

/-- The result of an operation that gives nothing but success or a `StoreError`. -/
def StoreResult.ofWrite : Except StoreError Unit → StoreResult Spec Status
  | .ok () => .ok
  | .error e => .failed e

/-- An operation on the store itself, which is no `call`: it is not written down and meets no
fault. -/
def directly {α : Type} (side : Side Spec Status)
    (work : MemoryStore Spec Status → α × MemoryStore Spec Status) : Timed World α := do
  let (result, store) := work (side.look (← Timed.world)).store
  Timed.change (side.change fun s => { s with store })
  return result

/-- An operation on the object that is stored under `key`, or the result `missing` if there is
none. -/
def onStored (side : Side Spec Status) (key : ObjectKey)
    (work : Resource Spec Status → Timed World (StoreResult Spec Status)) :
    Timed World (StoreResult Spec Status) := do
  match (side.look (← Timed.world)).store.get key with
  | none => return .missing
  | some r => work r

/-- A step on a store. Those that a client makes are calls, such as `get`; those behind its back
work `directly`. -/
def runStoreStep (side : Side Spec Status) :
    StoreStep Spec Status → Timed World (StoreResult Spec Status)
  | .insert r => do
    match ← directly side fun s => s.insert r with
    | .ok r => return .stored r
    | .error e => return .failed e
  | .get key => do
    match ← get side key with
    | .ok r => return .found r
    | .error e => return .failed e
  | .create r => return .ofWrite (← create side r)
  | .delete r => return .ofWrite (← delete side r)
  | .updateStatus r => return .ofWrite (← updateStatus side r)
  | .edit key patch =>
    onStored side key fun r => do
      match Manifest.decode (Json.mergePatch (Manifest.encode r).sorted patch) with
      | .error m => return .unreadable m
      | .ok (edited : Resource Spec Status) =>
        return .ofWrite (← directly side fun s => s.updateStatus edited)
  | .deleteStored key =>
    onStored side key fun r => return .ofWrite (← directly side fun s => s.delete r)
  | .bump key => do
    directly side fun s => ((), s.bump key)
    return .ok
  | .freeze r => do
    Timed.change (side.change fun s => { s with frozen := some r })
    return .ok
  | .freezeStored key => do
    Timed.change (side.change fun s => { s with frozen := some (s.store.get key) })
    return .ok
  | .thaw => do
    Timed.change (side.change fun s => { s with frozen := none })
    return .ok
  | .fault f => do
    Timed.change (side.change fun s => { s with faults := s.faults ++ [f] })
    return .ok
  | .dump => return .contents (side.look (← Timed.world)).store.objects.entries

/-- A step of a script by `runStoreStep`, its result being of no interest. -/
def runStep : Step → Timed World Unit
  | .domains s => do let _ ← runStoreStep domainSide s
  | .ingresses s => do let _ ← runStoreStep ingressSide s

/-- A check of a domain: it is written down, the steps of its `CheckScript` are made if it is the
first, and after some time it has its result. -/
def check (c : Check) (d : Domain) : Timed World (Except ProbeError Bool) := do
  Timed.change (·.called ("check." ++ c.label ++ " " ++ d.spec.baseDomain))
  let script := (← Timed.world).checks c
  Timed.change (·.withCheck c { script with during := [] })
  script.during.forM runStep
  Timed.wait script.delay
  return script.result

/-- The world as the environment of a pass, in which every request is a call to one of the stores or
a `check`. -/
def environment : Environment World where
  answer
    | .fetchDomain key => get domainSide key
    | .check c d => check c d
    | .fetchIngress key => get ingressSide key
    | .createIngress i => create ingressSide i
    | .deleteIngress i => delete ingressSide i
    | .writeStatus d => updateStatus domainSide d
  observed o := Timed.change fun w => { w with metrics := w.metrics.record o }

/-- A computation without a deadline, over the world; `default` stands for the result of one that is
cut off, which does not happen. -/
def untimed {α : Type} (default : α) (body : Timed World α) : StateM (Clock × World) α := do
  return (← Timed.within none body).getD default

/-- Tries out a pass with its deadline, which is `runPass` in the `environment` of the world. -/
def pass (config : PassConfig) (key : ObjectKey) :
    StateM (Clock × World) (Except PassError Outcome) := runPass environment config key

/-- Tries out a part of a pass, such as one of its stages, without a deadline. -/
def part {α : Type} (config : PassConfig) (key : ObjectKey) (p : Pass α) :
    StateM (Clock × World) (Except PassError α) :=
  untimed (.error (.cancelled key config.limit)) (environment.carryOut p)

end MailDomain.Rehearsal
