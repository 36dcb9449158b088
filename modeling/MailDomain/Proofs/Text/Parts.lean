import Mathlib
import MailDomain.Text.Blank

/-!
# Parts of texts, and the white space in them

A text that was joined from parts has these parts as its pieces. White space takes no part in where
a text is cut: whether it is left out before or after the cut, the parts are the same.

## Main definitions

* `Text.Respaced` — a text is another one with white space inserted or removed.

## Main results

* `Text.pieces_intercalate` — joining parts and taking the pieces are inverse.
* `Text.cutAt?_eq_some_iff` — a cut is at the first separator.
* `Text.pieces_squeeze`, `Text.cutAt?_squeeze` — the parts of a text without its white space.
* `Text.respaced_iff` — two texts differ in white space exactly if they agree without it.
-/

set_option relaxedAutoImplicit false
set_option autoImplicit false

namespace MailDomain.Text

variable {sep c : Char} {cs a b : List Char}

/-! ### Parts -/

/-- The `pieces` of a text are what the library's `List.splitOnP` makes of it. -/
lemma pieces_eq_splitOnP (sep : Char → Bool) (cs : List Char) :
    pieces sep cs = cs.splitOnP sep := by
  induction cs with
  | nil => simp [pieces]
  | cons c cs ih =>
    rw [pieces, List.splitOnP_cons_eq_if_modifyHead, ih]
    split
    · rfl
    · cases h : cs.splitOnP sep with
      | nil => exact absurd h (List.splitOnP_ne_nil _ cs)
      | cons w ws => rfl

/-- **Cutting undoes joining**: the `pieces` of a text that was joined from parts by a separator are
the parts, if there is at least one and the separator is in none of them. -/
theorem pieces_intercalate {ps : List (List Char)} (hsep : ∀ p ∈ ps, sep ∉ p) (hne : ps ≠ []) :
    pieces (· == sep) ([sep].intercalate ps) = ps := by
  rw [pieces_eq_splitOnP]
  exact List.splitOn_intercalate sep hsep hne

/-- A text is cut by `cutAt?` exactly at its first separator, into what comes before and what comes
after it. -/
theorem cutAt?_eq_some_iff : cutAt? sep cs = some (a, b) ↔ cs = a ++ sep :: b ∧ sep ∉ a := by
  induction cs generalizing a b with
  | nil => simp [cutAt?]
  | cons c cs ih =>
    rw [cutAt?]
    split
    · next hc =>
      subst hc
      cases a with
      | nil => simp
      | cons d a => simp +contextual [eq_comm]
    · next hc =>
      cases a with
      | nil => simp [hc]
      | cons d a =>
        simp only [Option.map_eq_some_iff, Prod.exists, ih, Prod.mk.injEq, List.cons_append,
          List.cons.injEq, List.mem_cons, not_or]
        constructor
        · rintro ⟨x, y, ⟨rfl, hx⟩, ⟨rfl, rfl⟩, rfl⟩
          exact ⟨⟨rfl, rfl⟩, Ne.symm hc, hx⟩
        · rintro ⟨⟨rfl, rfl⟩, -, ha⟩
          exact ⟨a, b, ⟨rfl, ha⟩, ⟨rfl, rfl⟩, rfl⟩

/-! ### White space -/

/-- Squeezing a second time changes nothing. -/
@[simp] lemma squeeze_squeeze (cs : List Char) : squeeze (squeeze cs) = squeeze cs := by
  simp [squeeze]

/-- Squeezing keeps a character that is no white space. -/
lemma squeeze_cons (hc : isBlank c = false) (cs : List Char) :
    squeeze (c :: cs) = c :: squeeze cs := by
  simp [squeeze, hc]

/-- Squeezing drops a character that is white space. -/
lemma squeeze_cons_blank (hc : isBlank c = true) (cs : List Char) :
    squeeze (c :: cs) = squeeze cs := by
  simp [squeeze, hc]

/-- Squeezing leaves nothing of a text exactly if all its characters are white space. -/
lemma squeeze_eq_nil_iff : squeeze cs = [] ↔ ∀ c ∈ cs, isBlank c = true := by
  simp [squeeze]

/-- **Squeezing and cutting into pieces** can be done in either order, if the separator is no white
space. -/
theorem pieces_squeeze (hsep : isBlank sep = false) (cs : List Char) :
    pieces (· == sep) (squeeze cs) = (pieces (· == sep) cs).map squeeze := by
  induction cs with
  | nil => rfl
  | cons c cs ih =>
    cases hc : isBlank c with
    | true =>
      have hne : (c == sep) = false := by
        rw [beq_eq_false_iff_ne]
        rintro rfl
        simp [hc] at hsep
      rw [squeeze_cons_blank hc, ih, pieces, if_neg (by simp [hne])]
      split
      · next h => exact absurd h (pieces_ne_nil _ cs)
      · next w ws h => simp [h, squeeze_cons_blank hc]
    | false =>
      rw [squeeze_cons hc, pieces, pieces, ih]
      split
      · rfl
      · cases h : pieces (· == sep) cs with
        | nil => exact absurd h (pieces_ne_nil _ cs)
        | cons w ws => simp [squeeze_cons hc]

/-- **Squeezing and cutting in two** can be done in either order, if the separator is no white
space. -/
theorem cutAt?_squeeze (hsep : isBlank sep = false) (cs : List Char) :
    cutAt? sep (squeeze cs) = (cutAt? sep cs).map fun p => (squeeze p.1, squeeze p.2) := by
  induction cs with
  | nil => rfl
  | cons c cs ih =>
    cases hc : isBlank c with
    | true =>
      have hne : c ≠ sep := by
        rintro rfl
        simp [hc] at hsep
      rw [squeeze_cons_blank hc, ih, cutAt?, if_neg hne, Option.map_map]
      simp [Function.comp_def, squeeze_cons_blank hc]
    | false =>
      rw [squeeze_cons hc, cutAt?, cutAt?, ih]
      split
      · rfl
      · simp [Function.comp_def, squeeze_cons hc]

/-- Squeezing leaves the one character `c` of a text exactly if it stands in the text with nothing
but white space around it. -/
lemma squeeze_eq_singleton_iff (hc : isBlank c = false) :
    squeeze cs = [c] ↔ ∃ a b, cs = a ++ c :: b ∧ ∀ d ∈ a ++ b, isBlank d = true := by
  rw [squeeze, List.filter_eq_cons_iff]
  simp [hc, or_imp, forall_and]

/-- Characters that `filter` drops everywhere may be dropped at the start first. -/
lemma filter_dropWhile (p : Char → Bool) (cs : List Char) :
    (cs.dropWhile p).filter (fun c => !p c) = cs.filter fun c => !p c := by
  induction cs with
  | nil => rfl
  | cons c cs ih =>
    cases hc : p c with
    | true => rw [List.dropWhile_cons_of_pos hc, ih, List.filter_cons_of_neg (by simp [hc])]
    | false => rw [List.dropWhile_cons_of_neg (by simp [hc])]

/-- Characters that `filter` drops everywhere may be dropped at the end first. -/
lemma filter_dropEnd (p : Char → Bool) (cs : List Char) :
    (dropEnd p cs).filter (fun c => !p c) = cs.filter fun c => !p c := by
  rw [dropEnd, List.filter_reverse, filter_dropWhile, List.filter_reverse, List.reverse_reverse]

/-- A text may be trimmed before it is squeezed. -/
lemma squeeze_trim (cs : List Char) : squeeze (trim cs) = squeeze cs := by
  rw [trim, squeeze, filter_dropEnd, filter_dropWhile]
  rfl

/-- Trimming leaves the one character `c` of a text exactly if squeezing does. -/
lemma trim_eq_singleton_iff (hc : isBlank c = false) : trim cs = [c] ↔ squeeze cs = [c] := by
  constructor
  · intro h
    rw [← squeeze_trim, h, squeeze_cons hc, squeeze_nil]
  · intro h
    obtain ⟨a, b, rfl, hblank⟩ := (squeeze_eq_singleton_iff hc).1 h
    have ha : ∀ d ∈ a, isBlank d = true := fun d hd => hblank d (List.mem_append_left b hd)
    have hb : ∀ d ∈ b.reverse, isBlank d = true := fun d hd =>
      hblank d (List.mem_append_right a (List.mem_reverse.1 hd))
    have hstart : (a ++ c :: b).dropWhile isBlank = c :: b := by
      rw [List.dropWhile_append_of_pos ha, List.dropWhile_cons_of_neg (by simp [hc])]
    rw [trim, dropEnd, hstart, List.reverse_cons, List.dropWhile_append_of_pos hb,
      List.dropWhile_cons_of_neg (by simp [hc]), List.reverse_singleton]

/-! ### Changes of white space -/

/-- The two texts differ by white space that was inserted or removed, at any places. The characters
that are `kept` may be white space too. -/
inductive Respaced : List Char → List Char → Prop
  | nil : Respaced [] []
  | kept (c : Char) {a b : List Char} : Respaced a b → Respaced (c :: a) (c :: b)
  | removed {c : Char} {a b : List Char} :
    isBlank c = true → Respaced a b → Respaced (c :: a) b
  | inserted {c : Char} {a b : List Char} :
    isBlank c = true → Respaced a b → Respaced a (c :: b)

/-- White space may be inserted at the start of a text. -/
lemma Respaced.blank_append (h : Respaced a b) (hcs : ∀ c ∈ cs, isBlank c = true) :
    Respaced a (cs ++ b) := by
  induction cs with
  | nil => exact h
  | cons c cs ih =>
    obtain ⟨hc, hcs⟩ := List.forall_mem_cons.1 hcs
    exact .inserted hc (ih hcs)

/-- Texts that are the same after squeezing are `Respaced`. -/
lemma respaced_of_squeeze_eq (h : squeeze a = squeeze b) : Respaced a b := by
  induction a generalizing b with
  | nil =>
    have hblank : ∀ c ∈ b, isBlank c = true := squeeze_eq_nil_iff.1 h.symm
    simpa using Respaced.nil.blank_append hblank
  | cons c a ih =>
    cases hc : isBlank c with
    | true =>
      rw [squeeze_cons_blank hc] at h
      exact .removed hc (ih h)
    | false =>
      rw [squeeze_cons hc] at h
      -- The other text has the character too, after white space that the first one lacks.
      obtain ⟨cs, d, rfl, hcs, -, hd⟩ := List.filter_eq_cons_iff.1 h.symm
      exact Respaced.blank_append (.kept c (ih hd.symm)) (by simpa using hcs)

/-- **Two texts differ in white space exactly if they are the same after squeezing.** -/
theorem respaced_iff : Respaced a b ↔ squeeze a = squeeze b := by
  constructor
  · intro h
    induction h with
    | nil => rfl
    | kept c _ ih =>
      cases hc : isBlank c with
      | true => rw [squeeze_cons_blank hc, squeeze_cons_blank hc, ih]
      | false => rw [squeeze_cons hc, squeeze_cons hc, ih]
    | removed hc _ ih => rw [squeeze_cons_blank hc, ih]
    | inserted hc _ ih => rw [squeeze_cons_blank hc, ih]
  · exact respaced_of_squeeze_eq

end MailDomain.Text
