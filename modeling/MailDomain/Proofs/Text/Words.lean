import MailDomain.Proofs.Text.Parts

/-!
# The words of texts

The words of a text are what stands between its white space. How much white space that is, and of
which kind, does not matter, and neither does the case of letters for where a text is cut: white
space and separators have none.

## Main definitions

* `Text.IsWord` — a word.
* `Text.Spaced` — a text is some words with white space around them.

## Main results

* `Text.words_eq_iff` — the words of a text are those that it is made of.
* `Text.words_intercalate` — the words of texts that were joined by white space.
* `Text.words_map_toLower`, `Text.cutAt?_map_toLower` — where a text in lower case is cut.
-/

set_option relaxedAutoImplicit false
set_option autoImplicit false

namespace MailDomain.Text

variable {c sep : Char} {a b cs w : List Char} {ws : List (List Char)}

/-! ### Words -/

/-- The text `w` has a character, and none of its characters is white space. -/
def IsWord (w : List Char) : Prop := w ≠ [] ∧ ∀ c ∈ w, isBlank c = false

/-- A text whose characters all pass the test for not being white space has none. -/
lemma not_isBlank_of_all (h : (cs.all fun c => !isBlank c) = true) :
    ∀ c ∈ cs, isBlank c = false := fun c hc =>
  Bool.not_eq_true' _ ▸ List.all_eq_true.1 h c hc

/-- The text consists of the given words in order, with white space between each two of them, and
perhaps before the first one and after the last. -/
inductive Spaced : List (List Char) → List Char → Prop
  | nil : Spaced [] []
  | blank {c : Char} {cs : List Char} {ws : List (List Char)} :
    isBlank c = true → Spaced ws cs → Spaced ws (c :: cs)
  | last {w : List Char} : IsWord w → Spaced [w] w
  | word {c : Char} {w cs : List Char} {ws : List (List Char)} :
    IsWord w → isBlank c = true → Spaced ws cs → Spaced (w :: ws) (w ++ c :: cs)

/-- White space parts words: the `words` of a text around it are those before it and those after
it. -/
lemma words_append_blank (hc : isBlank c = true) (a b : List Char) :
    words (a ++ c :: b) = words a ++ words b := by
  rw [words, words, words, pieces_eq_splitOnP, pieces_eq_splitOnP, pieces_eq_splitOnP,
    List.splitOnP_append_cons a b hc, List.filter_append]

/-- White space at the start of a text is in none of its `words`. -/
lemma words_cons_blank (hc : isBlank c = true) (cs : List Char) : words (c :: cs) = words cs :=
  words_append_blank hc [] cs

/-- A text that `IsWord` has itself for its only word. -/
lemma IsWord.words_eq (hw : IsWord w) : words w = [w] := by
  rw [words, pieces_eq_splitOnP, List.splitOnP_eq_singleton hw.2]
  simp [hw.1]

/-- The `words` of a text that is `Spaced` into words are these words. -/
lemma Spaced.words_eq (h : Spaced ws cs) : words cs = ws := by
  induction h with
  | nil => rfl
  | blank hc _ ih => rw [words_cons_blank hc, ih]
  | last hw => exact hw.words_eq
  | word hw hc _ ih => rw [words_append_blank hc, hw.words_eq, ih, List.singleton_append]

/-- A character that is no white space can be put in front of a text that is `Spaced` into words: it
begins a new word, or goes to the first one. -/
lemma Spaced.exists_cons (hc : isBlank c = false) (h : Spaced ws cs) :
    ∃ ws', Spaced ws' (c :: cs) := by
  have hstart : ∀ {w : List Char}, (∀ d ∈ w, isBlank d = false) → IsWord (c :: w) := fun hw =>
    ⟨List.cons_ne_nil _ _, List.forall_mem_cons.2 ⟨hc, hw⟩⟩
  have halone : IsWord [c] := hstart (List.forall_mem_nil _)
  cases h with
  | nil => exact ⟨_, .last halone⟩
  | blank hd hcs => exact ⟨_, .word halone hd hcs⟩
  | last hw => exact ⟨_, .last (hstart hw.2)⟩
  | word hw hd hcs => exact ⟨_, .word (hstart hw.2) hd hcs⟩

/-- Every text is `Spaced` into some words, by induction on its characters. -/
lemma exists_spaced (cs : List Char) : ∃ ws, Spaced ws cs := by
  induction cs with
  | nil => exact ⟨[], .nil⟩
  | cons c cs ih =>
    obtain ⟨ws, hws⟩ := ih
    cases hc : isBlank c with
    | true => exact ⟨ws, .blank hc hws⟩
    | false => exact hws.exists_cons hc

/-- **The words of a text are those that it is made of**: `words` gives the one list of words into
which the text is `Spaced`. -/
theorem words_eq_iff : words cs = ws ↔ Spaced ws cs := by
  constructor
  · rintro rfl
    obtain ⟨ws, hws⟩ := exists_spaced cs
    rwa [hws.words_eq]
  · exact Spaced.words_eq

/-- A text is `Spaced` into its `words`. -/
lemma spaced_words (cs : List Char) : Spaced (words cs) cs := words_eq_iff.1 rfl

/-- Each of the words into which a text is `Spaced` satisfies `IsWord`. -/
lemma Spaced.isWord (h : Spaced ws cs) : ∀ w ∈ ws, IsWord w := by
  induction h with
  | nil => exact nofun
  | blank _ _ ih => exact ih
  | last hw => exact List.forall_mem_singleton.2 hw
  | word hw _ _ ih => exact List.forall_mem_cons.2 ⟨hw, ih⟩

/-- The `words` of texts that were joined by white space are those of the texts, in order. -/
theorem words_intercalate (hc : isBlank c = true) (ts : List (List Char)) :
    words ([c].intercalate ts) = ts.flatMap words := by
  induction ts with
  | nil => rfl
  | cons t ts ih =>
    cases ts with
    | nil => simp
    | cons t' ts =>
      rw [List.intercalate_cons_cons, List.append_assoc, List.singleton_append,
        words_append_blank hc, ih]
      rfl

/-! ### Ends of texts -/

/-- A text is what `dropEnd p` leaves of it, followed by characters that satisfy `p`. -/
lemma dropEnd_append_end (p : Char → Bool) (cs : List Char) :
    ∃ ds, cs = dropEnd p cs ++ ds ∧ ∀ d ∈ ds, p d = true :=
  ⟨cs.rtakeWhile p, List.rdropWhile_append_rtakeWhile.symm,
    fun _ => List.mem_rtakeWhile_imp⟩

/-- Characters that satisfy `p`, put at the end of a text, are dropped too by `dropEnd p`. -/
lemma dropEnd_append_of_all {p : Char → Bool} (hb : ∀ d ∈ b, p d = true) (a : List Char) :
    dropEnd p (a ++ b) = dropEnd p a := by
  rw [dropEnd, dropEnd, List.reverse_append,
    List.dropWhile_append_of_pos fun d hd => hb d (List.mem_reverse.1 hd)]

/-! ### Cuts -/

/-- Characters put at the end of a text are at the end of what comes after its cut, if no separator
is among them. -/
lemma cutAt?_append (hb : sep ∉ b) (a : List Char) :
    cutAt? sep (a ++ b) = (cutAt? sep a).map fun p => (p.1, p.2 ++ b) := by
  induction a with
  | nil =>
    rw [List.nil_append, cutAt?, Option.map_none, Option.eq_none_iff_forall_not_mem]
    rintro ⟨x, y⟩ hcut
    obtain ⟨rfl, -⟩ := cutAt?_eq_some_iff.1 hcut
    exact hb (by simp)
  | cons c a ih =>
    rw [List.cons_append, cutAt?, cutAt?, ih]
    split
    · rfl
    · rw [Option.map_map, Option.map_map]
      rfl

/-! ### Case -/

/-- An ASCII letter is no white space. -/
lemma isBlank_of_isAlpha (hc : c.isAlpha = true) : isBlank c = false := by
  simp only [Char.isAlpha, Char.isUpper, Char.isLower, Bool.or_eq_true, Bool.and_eq_true,
    decide_eq_true_eq, UInt32.le_iff_toNat_le] at hc
  simp only [isBlank, Bool.or_eq_false_iff, Bool.and_eq_false_iff, decide_eq_false_iff_not,
    beq_eq_false_iff_ne]
  simp only [UInt32.reduceToNat, Char.reduceVal, Char.toNat_val] at hc
  omega

/-- Putting a character in lower case does not change whether it is white space. -/
@[simp] lemma isBlank_toLower (c : Char) : isBlank c.toLower = isBlank c := by
  by_cases hc : c.isUpper
  · have halpha : c.isAlpha = true := by simp [Char.isAlpha, hc]
    rw [isBlank_of_isAlpha halpha, isBlank_of_isAlpha (by simpa using halpha)]
  · rw [Char.toLower_eq_of_not_isUpper hc]

/-- A character that is no letter is what another one becomes in lower case only if it is that
one. -/
lemma toLower_eq_iff (hsep : sep.isAlpha = false) : c.toLower = sep ↔ c = sep := by
  by_cases hc : c.isUpper
  · have halpha : c.isAlpha = true := by simp [Char.isAlpha, hc]
    constructor
    · rintro rfl
      simp [halpha] at hsep
    · rintro rfl
      simp [halpha] at hsep
  · rw [Char.toLower_eq_of_not_isUpper hc]

/-- The `pieces` of a text whose characters were changed by `f` are its pieces, changed by `f`, if
`f` makes no character a separator that was none, nor the other way round. -/
lemma pieces_map {p : Char → Bool} {f : Char → Char} (hf : ∀ c, p (f c) = p c) (cs : List Char) :
    pieces p (cs.map f) = (pieces p cs).map (List.map f) := by
  induction cs with
  | nil => rfl
  | cons c cs ih =>
    rw [List.map_cons, pieces, pieces, ih, hf]
    split
    · rfl
    · cases pieces p cs <;> rfl

/-- The `words` of a text in lower case are its words in lower case. -/
lemma words_map_toLower (cs : List Char) :
    words (cs.map Char.toLower) = (words cs).map (List.map Char.toLower) := by
  rw [words, words, pieces_map isBlank_toLower, List.filter_map]
  congr 2
  funext w
  simp

/-- A text in lower case is cut by `cutAt?` into its two parts in lower case, if the separator is no
letter. -/
lemma cutAt?_map_toLower (hsep : sep.isAlpha = false) (cs : List Char) :
    cutAt? sep (cs.map Char.toLower) =
      (cutAt? sep cs).map fun p => (p.1.map Char.toLower, p.2.map Char.toLower) := by
  induction cs with
  | nil => rfl
  | cons c cs ih =>
    rw [List.map_cons, cutAt?, cutAt?, ih]
    simp only [toLower_eq_iff hsep]
    split
    · rfl
    · rw [Option.map_map, Option.map_map]
      rfl

/-- Dropping characters at the end and putting in lower case can be done in either order, if the
test for them does not see the case of letters. -/
lemma dropEnd_map_toLower {p : Char → Bool} (hp : ∀ c, p c.toLower = p c) (cs : List Char) :
    dropEnd p (cs.map Char.toLower) = (dropEnd p cs).map Char.toLower := by
  have hcomp : p ∘ Char.toLower = p := funext hp
  rw [dropEnd, dropEnd, ← List.map_reverse, List.dropWhile_map, hcomp, List.map_reverse]

end MailDomain.Text
