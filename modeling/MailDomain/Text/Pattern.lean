/-!
# Patterns

A small language of patterns for whole texts: character sets, repetition, options and
sequences, with the text by which a pattern is known to the API server.

## Main definitions

* `CharSet` — a set of characters.
* `Pattern` — a pattern, with `Pattern.Matches` and its `text`.

## Main results

* `Pattern.matches_one_iff`, `matches_upTo_iff`, `matches_optional_iff` — what the simple
  patterns match.
-/

set_option relaxedAutoImplicit false
set_option autoImplicit false

namespace MailDomain

/-- A set of characters: those of `ranges`, and the `singles`. -/
structure CharSet where
  ranges : List (Char × Char) := []
  singles : List Char := []
  deriving DecidableEq, Repr

namespace CharSet

/-- Whether a character is in the set. -/
def has (s : CharSet) (c : Char) : Bool :=
  (s.ranges.any fun r => decide (r.1 ≤ c) && decide (c ≤ r.2)) || s.singles.contains c

/-- The text of a set in brackets, ranges before single characters. -/
def text (s : CharSet) : String :=
  "[" ++ String.join (s.ranges.map fun r => r.1.toString ++ "-" ++ r.2.toString) ++
    String.ofList s.singles ++ "]"

/-- The ASCII letters and digits. -/
def alphanumeric : CharSet := { ranges := [('a', 'z'), ('A', 'Z'), ('0', '9')] }

/-- The ASCII letters and digits and the hyphen, which a label may have inside. -/
def hyphenated : CharSet := { alphanumeric with singles := ['-'] }

end CharSet

/-- A pattern for whole texts, as the definition of a resource carries it. -/
inductive Pattern
  /-- One character of a set. -/
  | one (s : CharSet)
  /-- At most `n` characters of a set. -/
  | upTo (s : CharSet) (n : Nat)
  /-- A point. -/
  | point
  | seq (p q : Pattern)
  | optional (p : Pattern)
  | many (p : Pattern)
  deriving DecidableEq, Repr

namespace Pattern

/-- The texts that a pattern matches, with the constructors of `Pattern` as cases. -/
inductive Matches : Pattern → List Char → Prop
  | one {s : CharSet} {c : Char} (h : s.has c = true) : Matches (.one s) [c]
  | upTo {s : CharSet} {n : Nat} {cs : List Char} (length : cs.length ≤ n)
      (h : ∀ c ∈ cs, s.has c = true) : Matches (.upTo s n) cs
  | point : Matches .point ['.']
  | seq {p q : Pattern} {as bs : List Char} (first : Matches p as) (second : Matches q bs) :
      Matches (.seq p q) (as ++ bs)
  | absent {p : Pattern} : Matches (.optional p) []
  | present {p : Pattern} {cs : List Char} (h : Matches p cs) : Matches (.optional p) cs
  | stop {p : Pattern} : Matches (.many p) []
  | more {p : Pattern} {as bs : List Char} (first : Matches p as) (rest : Matches (.many p) bs) :
      Matches (.many p) (as ++ bs)

/-- The text of a pattern within another, without the marks of start and end. -/
def inner : Pattern → String
  | .one s => s.text
  | .upTo s n => s.text ++ "\x7b0," ++ toString n ++ "\x7d"
  | .point => "\\."
  | .seq p q => p.inner ++ q.inner
  | .optional p => "(" ++ p.inner ++ ")?"
  | .many p => "(" ++ p.inner ++ ")*"

/-- The text of a pattern, which must match a text from start to end. -/
def text (p : Pattern) : String := "^" ++ p.inner ++ "$"

/-- The pattern `one s` matches the texts of one character that `s` has. -/
theorem matches_one_iff {s : CharSet} {cs : List Char} :
    Matches (.one s) cs ↔ ∃ c, s.has c = true ∧ cs = [c] := by
  constructor
  · rintro ⟨h⟩
    exact ⟨_, h, rfl⟩
  · rintro ⟨c, h, rfl⟩
    exact .one h

/-- The pattern `upTo s n` matches the texts of at most `n` characters that `s` has. -/
theorem matches_upTo_iff {s : CharSet} {n : Nat} {cs : List Char} :
    Matches (.upTo s n) cs ↔ cs.length ≤ n ∧ ∀ c ∈ cs, s.has c = true := by
  constructor
  · intro h
    cases h with
    | upTo length h => exact ⟨length, h⟩
  · rintro ⟨length, h⟩
    exact .upTo length h

/-- The pattern `optional p` matches the empty text and what `p` matches. -/
theorem matches_optional_iff {p : Pattern} {cs : List Char} :
    Matches (.optional p) cs ↔ cs = [] ∨ Matches p cs := by
  constructor
  · intro h
    cases h with
    | absent => exact .inl rfl
    | present h => exact .inr h
  · rintro (rfl | h)
    · exact .absent
    · exact .present h

end Pattern

end MailDomain
