import MailDomain.Object.Key
import MailDomain.Time.Duration

/-!
# The queue of a controller

The queue holds a key once at most: with the time at which its next pass is due, or as one
that is to have a pass as soon as the present one ends. Of two times the earlier wins, and
while a key is held back nothing else is scheduled for it.

## Main definitions

* `Queue` — with `schedule`, `next?`, `take`, `hold` and `release`.

## Main results

* `Queue.schedule_of_mem_held` — nothing is scheduled for a key that is held back.
* `Queue.timeOf?_schedule_of_ne` — what is scheduled for one key leaves the others.
-/

set_option relaxedAutoImplicit false
set_option autoImplicit false

namespace MailDomain

/-- The keys of domains that are to have a pass, each at most once. -/
structure Queue where
  /-- The times at which passes are due, in the order in which they were scheduled. -/
  due : List (ObjectKey × Duration) := []
  /-- The keys that wait for the end of their present pass and are then to have another one at
  once. -/
  held : List ObjectKey := []
  deriving DecidableEq

namespace Queue

/-- The time at which a pass is due for `key`, if one is. -/
def timeOf? (q : Queue) (key : ObjectKey) : Option Duration := q.due.lookup key

/-- The queue without a time for `key`. -/
def take (q : Queue) (key : ObjectKey) : Queue :=
  { q with due := q.due.filter fun e => e.1 != key }

/-- The queue with a pass for `key` due by the time `t`: at `t`, or earlier if it was so already.
For a key that is `held` it stays as it is. -/
def schedule (q : Queue) (key : ObjectKey) (t : Duration) : Queue :=
  if q.held.contains key then q
  else
    match q.timeOf? key with
    | none => { q with due := q.due ++ [(key, t)] }
    | some old => if t ≤ old then { q.take key with due := (q.take key).due ++ [(key, t)] } else q

/-- The earlier of two entries, which is the first if they are due at the same time. -/
def earlier (a b : ObjectKey × Duration) : ObjectKey × Duration := if b.2 < a.2 then b else a

/-- The key whose pass is due first, with its time, if any is due. -/
def next? (q : Queue) : Option (ObjectKey × Duration) :=
  match q.due with
  | [] => none
  | e :: es => some (es.foldl earlier e)

/-- The queue with `key` held back until its present pass ends. -/
def hold (q : Queue) (key : ObjectKey) : Queue :=
  { q.take key with held := if q.held.contains key then q.held else q.held ++ [key] }

/-- Whether `key` was held back, and the queue in which it is not any more. -/
def release (q : Queue) (key : ObjectKey) : Bool × Queue :=
  (q.held.contains key, { q with held := q.held.filter (· != key) })

/-- Nothing is scheduled for a key that is held back. -/
theorem schedule_of_mem_held {q : Queue} {key : ObjectKey} (h : key ∈ q.held) (t : Duration) :
    q.schedule key t = q := by
  simp [schedule, h]

theorem lookup_filter_of_ne {key other : ObjectKey} (h : other ≠ key)
    (es : List (ObjectKey × Duration)) :
    (es.filter fun e => e.1 != key).lookup other = es.lookup other := by
  induction es with
  | nil => rfl
  | cons e es ih =>
    obtain ⟨k, t⟩ := e
    by_cases hk : k = key
    · have ho : (other == k) = false := by simpa [hk] using h
      simp only [List.filter, hk, bne_self_eq_false]
      rw [ih, ← hk]
      simp [List.lookup_cons, ho]
    · have hb : (k != key) = true := by simpa using hk
      simp only [List.filter, hb]
      by_cases ho : other = k
      · simp [ho]
      · have ho' : (other == k) = false := by simpa using ho
        simp [List.lookup_cons, ho', ih]

theorem lookup_append_of_ne {key other : ObjectKey} (h : other ≠ key) (t : Duration)
    (es : List (ObjectKey × Duration)) :
    (es ++ [(key, t)]).lookup other = es.lookup other := by
  have h' : (other == key) = false := by simpa using h
  induction es with
  | nil => simp [List.lookup_cons, h']
  | cons e es ih =>
    obtain ⟨k, s⟩ := e
    by_cases ho : other = k
    · simp [ho]
    · have ho' : (other == k) = false := by simpa using ho
      simpa [List.lookup_cons, ho'] using ih

/-- What is scheduled for one key leaves the times of the others. -/
theorem timeOf?_schedule_of_ne {key other : ObjectKey} (h : other ≠ key) (q : Queue)
    (t : Duration) : (q.schedule key t).timeOf? other = q.timeOf? other := by
  unfold schedule
  repeat' split
  · rfl
  · simp [timeOf?, lookup_append_of_ne h]
  · simp [timeOf?, take, lookup_append_of_ne h, lookup_filter_of_ne h]
  · rfl

end Queue

end MailDomain
