import Mathlib
import MailDomain.Text.Utf8

/-!
# Octets that are read in parts

Octets are read one after the other, with a character under way or none. So reading them in parts
gives what reading them at once gives, as long as no character is under way at a cut that the octet
after the cut goes on with. At such a cut a character is lost: each of its two parts is read as
replacement characters, which are more than there are if it is read at once.

## Main definitions

* `Text.step` — what one octet gives, and the character that is under way after it.
* `Text.Splits` — a cut falls inside a character.
* `Text.Whole` — octets in strings, none of whose cuts falls inside a character.

## Main results

* `Text.decodeFrom_append_iff` — two parts are read as they are at once exactly if the cut between
  them falls inside no character.
* `Text.flatten_decode_iff` — the same of any number of parts.
-/

set_option relaxedAutoImplicit false
set_option autoImplicit false

namespace MailDomain.Text

/-! ### Octet by octet -/

/-- Whether the octet `b` goes on with the character `p` that is under way. -/
def Pending.takes (p : Pending) (b : UInt8) : Bool := p.low ≤ b.toNat && b.toNat ≤ p.high

/-- What the octet `b` gives where no character is under way, and the character that is under way
after it. -/
def opened (b : UInt8) : List Char × Option Pending :=
  match Opening.of b with
  | .whole c => ([c], none)
  | .begins p => ([], some p)
  | .stray => ([replacement], none)

/-- What an octet gives, and the character that is under way after it. An octet that does not go on
with the one under way makes that a replacement character, and is then read by itself. -/
def step : Option Pending → UInt8 → List Char × Option Pending
  | none, b => opened b
  | some p, b =>
    if p.takes b then
      let bits := p.bits * 64 + (b.toNat - 0x80)
      if p.due ≤ 1 then ([Char.ofNat bits], none)
      else ([], some ⟨bits, p.due - 1, 0x80, 0xBF⟩)
    else (replacement :: (opened b).1, (opened b).2)

/-- The character that is under way after the octets `bs`, if any, when the state before them was
`s`. -/
def after (s : Option Pending) (bs : List UInt8) : Option Pending :=
  bs.foldl (fun s b => (step s b).2) s

/-- What the octets give when the state before them was `s`, apart from the character that is under
way after them. -/
def given : Option Pending → List UInt8 → List Char
  | _, [] => []
  | s, b :: bs => (step s b).1 ++ given (step s b).2 bs

variable {p : Pending} {b : UInt8} {as bs cs : List UInt8} {s : Option Pending}

/-- Reading by `decodeFrom` is one `step` after the other. -/
lemma decodeFrom_cons (s : Option Pending) (b : UInt8) (bs : List UInt8) :
    decodeFrom s (b :: bs) = (step s b).1 ++ decodeFrom (step s b).2 bs := by
  cases s with
  | none =>
    rw [decodeFrom, step, opened]
    cases Opening.of b <;> rfl
  | some p =>
    rw [decodeFrom, step, Pending.takes]
    split
    · dsimp only
      split <;> rfl
    · rw [opened]
      cases Opening.of b <;> rfl

/-- Octets that are read after others: what is `given` of the first, and then the rest from the
state `after` them. -/
lemma decodeFrom_append (s : Option Pending) (as bs : List UInt8) :
    decodeFrom s (as ++ bs) = given s as ++ decodeFrom (after s as) bs := by
  induction as generalizing s with
  | nil => rfl
  | cons a as ih =>
    rw [List.cons_append, decodeFrom_cons, ih, given, List.append_assoc]
    rfl

/-- An octet that goes on with a character of which one octet is due completes it. -/
lemma step_of_takes_last (hb : p.takes b = true) (hdue : p.due ≤ 1) :
    step (some p) b = ([Char.ofNat (p.bits * 64 + (b.toNat - 0x80))], none) := by
  simp [step, hb, hdue]

/-- An octet that goes on with a character of which more octets are due leaves it under way. -/
lemma step_of_takes_more (hb : p.takes b = true) (hdue : ¬ p.due ≤ 1) :
    step (some p) b =
      ([], some ⟨p.bits * 64 + (b.toNat - 0x80), p.due - 1, 0x80, 0xBF⟩) := by
  simp [step, hb, hdue]

/-- An octet that does not go on with the character under way makes that a replacement character,
and is `opened`. -/
lemma step_of_not_takes (hb : p.takes b = false) :
    step (some p) b = (replacement :: (opened b).1, (opened b).2) := by
  simp [step, hb]

/-- An octet that does not go on with the character under way is read as if there were none, after a
replacement character for that. -/
lemma decodeFrom_of_not_takes (hb : p.takes b = false) (bs : List UInt8) :
    decodeFrom (some p) (b :: bs) = replacement :: decodeFrom none (b :: bs) := by
  rw [decodeFrom_cons, decodeFrom_cons, step_of_not_takes hb]
  rfl

/-! ### Two parts -/

/-- The cut between the octets `as` and `bs` falls inside a character: one is under way after `as`,
and the first octet of `bs` goes on with it. -/
def Splits (as bs : List UInt8) : Prop :=
  ∃ p b cs, after none as = some p ∧ bs = b :: cs ∧ p.takes b = true

/-- If a cut does not split a character, then the first octet after it does not go on with the one
that is under way, if any. -/
lemma takes_of_not_splits (h : ¬ Splits as (b :: bs)) (hs : after none as = some p) :
    p.takes b = false := by
  by_contra hb
  exact h ⟨p, b, bs, hs, rfl, by simpa using hb⟩

/-- What `decodeFrom` makes of octets is what is `given` and, for a character that is under way at
the end, a replacement character. -/
lemma decodeFrom_eq_given (as : List UInt8) :
    decodeFrom none as = given none as ++ decodeFrom (after none as) [] := by
  simpa using decodeFrom_append none as []

/-- Two parts give together what each gives by itself, if the cut between them splits no
character. -/
lemma decodeFrom_append_of_not_splits (h : ¬ Splits as bs) :
    decodeFrom none (as ++ bs) = decodeFrom none as ++ decodeFrom none bs := by
  rw [decodeFrom_append, decodeFrom_eq_given as, List.append_assoc]
  congr 1
  cases hs : after none as with
  | none => rfl
  | some p =>
    cases bs with
    | nil => rfl
    | cons b bs => exact decodeFrom_of_not_takes (takes_of_not_splits h hs) bs

/-- The octets with which the character goes on are among those that begin none, from 0x80 to
0xBF. -/
structure Pending.Fits (p : Pending) : Prop where
  low : 0x80 ≤ p.low
  high : p.high ≤ 0xBF

/-- A character that an octet begins satisfies `Pending.Fits`. -/
lemma Opening.fits_of_begins (h : Opening.of b = .begins p) : p.Fits := by
  unfold Opening.of at h
  dsimp only at h
  split_ifs at h <;> simp only [Opening.begins.injEq] at h <;> subst h <;>
    exact ⟨by simp, by simp⟩

/-- A character that is under way after an octet satisfies `Pending.Fits` if the one before it did,
or if there was none. -/
lemma step_fits (hs : ∀ q, s = some q → q.Fits) (h : (step s b).2 = some p) : p.Fits := by
  have hopened : (opened b).2 = some p → p.Fits := by
    intro h
    unfold opened at h
    split at h
    · cases h
    · next hbegins => exact Opening.fits_of_begins (Option.some.inj h ▸ hbegins)
    · cases h
  cases s with
  | none => exact hopened h
  | some q =>
    cases hb : q.takes b with
    | false => exact hopened (by simpa [step_of_not_takes hb] using h)
    | true =>
      by_cases hdue : q.due ≤ 1
      · simp [step_of_takes_last hb hdue] at h
      · rw [step_of_takes_more hb hdue] at h
        have hp := Option.some.inj h
        subst hp
        exact ⟨by simp, by simp⟩

/-- A character that is under way after octets satisfies `Pending.Fits` if the one before them did,
or if there was none. -/
lemma after_fits (hs : ∀ q, s = some q → q.Fits) (h : after s bs = some p) : p.Fits := by
  induction bs generalizing s with
  | nil => exact hs p h
  | cons b bs ih => exact ih (fun q hq => step_fits hs hq) h

/-- An octet that goes on with a character begins none, and is a replacement character when it is
`opened`. -/
lemma opened_of_takes (hp : p.Fits) (hb : p.takes b = true) : opened b = ([replacement], none) := by
  obtain ⟨hlow, hhigh⟩ := hp
  have hrange : p.low ≤ b.toNat ∧ b.toNat ≤ p.high := by simpa [Pending.takes] using hb
  have hstray : Opening.of b = .stray := by
    unfold Opening.of
    dsimp only
    rw [if_neg (by omega), if_pos (by omega)]
  rw [opened, hstray]

/-- An octet that goes on with a character gives a replacement character when it is read where none
is under way. -/
lemma decodeFrom_of_takes (hp : p.Fits) (hb : p.takes b = true) (bs : List UInt8) :
    decodeFrom none (b :: bs) = replacement :: decodeFrom none bs := by
  rw [decodeFrom_cons, step, opened_of_takes hp hb]
  rfl

/-- The step of the next lemma: an octet that goes on with a character gives, with those after it,
no more characters than where none is under way, if those after it give at most one more. -/
lemma length_le_of_takes (hp : p.Fits) (hb : p.takes b = true)
    (hle : ∀ q : Pending, q.Fits →
      (decodeFrom (some q) bs).length ≤ (decodeFrom none bs).length + 1) :
    (decodeFrom (some p) (b :: bs)).length ≤ (decodeFrom none (b :: bs)).length := by
  rw [decodeFrom_of_takes hp hb, decodeFrom_cons, List.length_cons]
  by_cases hdue : p.due ≤ 1
  · rw [step_of_takes_last hb hdue, List.singleton_append, List.length_cons]
  · rw [step_of_takes_more hb hdue, List.nil_append]
    exact hle _ ⟨by simp, by simp⟩

/-- Octets give at most one character more with a character under way than without: the one that
replaces it. -/
lemma length_decodeFrom_some_le (hp : p.Fits) (bs : List UInt8) :
    (decodeFrom (some p) bs).length ≤ (decodeFrom none bs).length + 1 := by
  induction bs generalizing p with
  | nil => simp [decodeFrom]
  | cons b bs ih =>
    cases hb : p.takes b with
    | false => rw [decodeFrom_of_not_takes hb, List.length_cons]
    | true => exact (length_le_of_takes hp hb fun q hq => ih hq).trans (Nat.le_succ _)

/-- Two parts give fewer characters together than each by itself, if the cut between them splits a
character: its second part is a character more when read by itself. -/
lemma length_decodeFrom_append_lt (h : Splits as bs) :
    (decodeFrom none (as ++ bs)).length < (decodeFrom none as ++ decodeFrom none bs).length := by
  obtain ⟨p, b, cs, hs, rfl, hb⟩ := h
  have hnone : ∀ q : Pending, (none : Option Pending) = some q → q.Fits := by simp
  have hp : p.Fits := after_fits hnone hs
  have hle : (decodeFrom (some p) (b :: cs)).length ≤ (decodeFrom none (b :: cs)).length :=
    length_le_of_takes hp hb fun q hq => length_decodeFrom_some_le hq cs
  have hended : decodeFrom (some p) [] = [replacement] := by simp [decodeFrom]
  rw [decodeFrom_append, decodeFrom_eq_given as, hs, hended]
  simp only [List.length_append, List.length_singleton]
  omega

/-- **When two parts are read as they are at once**: exactly if the cut between them splits no
character. Where it does, even the number of characters differs. -/
theorem decodeFrom_append_iff :
    decodeFrom none (as ++ bs) = decodeFrom none as ++ decodeFrom none bs ↔ ¬ Splits as bs := by
  refine ⟨fun h hsplits => ?_, decodeFrom_append_of_not_splits⟩
  have hlt := length_decodeFrom_append_lt hsplits
  rw [h] at hlt
  exact lt_irrefl _ hlt

/-! ### Many parts -/

/-- The octets in strings, where no cut between the strings, nor between those before it and those
after it, splits a character. -/
def Whole (strings : List (List UInt8)) : Prop :=
  ∀ before later, strings = before ++ later → ¬ Splits before.flatten later.flatten

/-- Before all octets there is no character that a cut could split. -/
lemma not_splits_nil_left (bs : List UInt8) : ¬ Splits [] bs := by
  rintro ⟨p, b, cs, hs, -⟩
  cases hs

/-- After a cut that splits no character, what is under way later is the same as if the octets had
begun there. -/
lemma after_append_of_not_splits (h : ¬ Splits as (b :: bs)) :
    after none (as ++ b :: bs) = after none (b :: bs) := by
  have hstep : (step (after none as) b).2 = (step none b).2 := by
    cases hs : after none as with
    | none => rfl
    | some p =>
      rw [step_of_not_takes (takes_of_not_splits h hs)]
      rfl
  rw [after, List.foldl_append, List.foldl_cons]
  change after (step (after none as) b).2 bs = after (step none b).2 bs
  rw [hstep]

/-- After a cut that splits no character, later cuts split the same characters as if the octets had
begun there. -/
lemma splits_append_iff (h : ¬ Splits as (bs ++ cs)) : Splits (as ++ bs) cs ↔ Splits bs cs := by
  cases bs with
  | nil => simpa [not_splits_nil_left] using h
  | cons b bs =>
    unfold Splits
    rw [after_append_of_not_splits fun hsplits => h ?_]
    obtain ⟨p, c, ds, hs, hcons, hc⟩ := hsplits
    cases hcons
    exact ⟨p, _, _, hs, rfl, hc⟩

/-- Strings are `Whole` exactly if the first cut splits no character and the strings after it are
`Whole`. -/
lemma whole_cons_iff {string : List UInt8} {strings : List (List UInt8)} :
    Whole (string :: strings) ↔ ¬ Splits string strings.flatten ∧ Whole strings := by
  constructor
  · intro h
    have hfirst : ¬ Splits string strings.flatten := by simpa using h [string] strings rfl
    refine ⟨hfirst, ?_⟩
    rintro before later rfl
    rw [← splits_append_iff (by simpa using hfirst)]
    simpa using h (string :: before) later rfl
  · rintro ⟨hfirst, hrest⟩ before later heq
    cases before with
    | nil => exact not_splits_nil_left _
    | cons first before =>
      obtain ⟨rfl, rfl⟩ := List.cons.inj heq
      rw [List.flatten_cons, splits_append_iff (by simpa using hfirst)]
      exact hrest before later rfl

variable {strings : List (List UInt8)}

/-- Octets give no more characters at once than string by string. -/
lemma length_decodeFrom_flatten_le (strings : List (List UInt8)) :
    (decodeFrom none strings.flatten).length ≤
      (strings.map (decodeFrom none)).flatten.length := by
  induction strings with
  | nil => simp [decodeFrom]
  | cons string strings ih =>
    have happend : (decodeFrom none (string ++ strings.flatten)).length ≤
        (decodeFrom none string ++ decodeFrom none strings.flatten).length := by
      by_cases h : Splits string strings.flatten
      · exact (length_decodeFrom_append_lt h).le
      · rw [decodeFrom_append_of_not_splits h]
    rw [List.flatten_cons, List.map_cons, List.flatten_cons, List.length_append]
    rw [List.length_append] at happend
    omega

/-- **Strings are read as they are at once exactly if no cut between them falls inside a
character.**

**Proof sketch.** Induction on the strings, by `whole_cons_iff`. At a cut inside a character,
reading at once gives fewer characters than reading the first string and the others, by
`length_decodeFrom_append_lt`, and the others give no fewer one by one, by
`length_decodeFrom_flatten_le`. So the texts agree only if the first cut is inside no character, and
then they agree exactly if the texts of the other strings do. -/
theorem flatten_decode_iff :
    (strings.map (decodeFrom none)).flatten = decodeFrom none strings.flatten ↔ Whole strings := by
  induction strings with
  | nil =>
    have hnil : Whole [] := by
      intro before later h
      obtain ⟨rfl, rfl⟩ := List.append_eq_nil_iff.1 h.symm
      exact not_splits_nil_left _
    simpa [decodeFrom] using hnil
  | cons string strings ih =>
    rw [whole_cons_iff, List.map_cons, List.flatten_cons, List.flatten_cons, ← ih]
    constructor
    · intro h
      -- Characters that are lost at the first cut are not made up for at a later one.
      have hfirst : ¬ Splits string strings.flatten := by
        intro hsplits
        have hlt := length_decodeFrom_append_lt hsplits
        have hle := length_decodeFrom_flatten_le strings
        rw [← h, List.length_append, List.length_append] at hlt
        omega
      rw [decodeFrom_append_of_not_splits hfirst] at h
      exact ⟨hfirst, List.append_cancel_left h⟩
    · rintro ⟨hfirst, hrest⟩
      rw [decodeFrom_append_of_not_splits hfirst, hrest]

end MailDomain.Text
