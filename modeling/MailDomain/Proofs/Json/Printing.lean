import Mathlib
import MailDomain.Json.Printer
import MailDomain.Json.Reader

/-!
# What is printed is read back

The printer writes a value on one line, and the reader makes of that line the value again, whatever
characters its strings hold and however deep it is nested. Only floating-point numbers are left out:
their digits are read with a rounding that need not give the same number.

## Main definitions

* `Json.Integral` — every number in a value is an integer of 64 bits.
* `Json.Reader.Ends` — the text after a value, where the digits of a number cannot go on.

## Main results

* `Json.Reader.stringDraft_flatMap`, `Json.Reader.draft_number` — strings and integers are read
  back.
* `Json.ofText_render` — a printed value is read back, and nothing is left of its text.
-/

set_option relaxedAutoImplicit false
set_option autoImplicit false

namespace MailDomain.Json

/-- The number is an integer that fits into 64 bits, with or without a sign. No floating-point
number is one, whatever its value. -/
def Number.IsWord : Number → Prop
  | .int n => -9223372036854775808 ≤ n ∧ n < Reader.words
  | .float _ _ => False

mutual

/-- Every number in the value is an integer that satisfies `Number.IsWord`, however deep it is
nested. -/
def Integral : Json → Prop
  | .num n => n.IsWord
  | .arr es => IntegralElems es
  | .obj ms => IntegralValues ms
  | .null | .bool _ | .str _ => True

/-- Every number in the elements of an array satisfies `Number.IsWord`. -/
def IntegralElems : List Json → Prop
  | [] => True
  | e :: es => e.Integral ∧ IntegralElems es

/-- Every number in the values of members satisfies `Number.IsWord`. The names do not matter. -/
def IntegralValues : List (String × Json) → Prop
  | [] => True
  | (_, v) :: ms => v.Integral ∧ IntegralValues ms

end

namespace Reader

variable {c : Char} {cs acc : List Char} {fuel n : Nat}

/-! ### Strings -/

/-- The four digits of the escape that is printed for a control character are read back by `hexQuad`
as its number. -/
lemma hexQuad_controlEscape (hn : n < 0x20) (cs : List Char) :
    ∃ ds, controlEscape n = '\\' :: 'u' :: ds ∧ hexQuad (ds ++ cs) = .ok (n, cs) := by
  refine ⟨(controlEscape n).drop 2, rfl, ?_⟩
  interval_cases n <;> rfl

/-- What `escapeChar` prints for a character, be it escaped or not, is read back as the character by
one step of the reader of strings. -/
lemma string_escapeChar (fuel : Nat) (acc : List Char) (c : Char) (cs : List Char) :
    string (fuel + 1) acc (escapeChar c ++ cs) = string fuel (c :: acc) cs := by
  have hescaped : ∀ e ds, escape (e :: ds) = .ok (c, cs) →
      string (fuel + 1) acc ('\\' :: e :: ds) = string fuel (c :: acc) cs := by
    intro e ds h
    simp [string, h]
  unfold escapeChar
  split
  -- the seven characters that have an escape of their own
  iterate 7 exact hescaped _ _ rfl
  next hquote hbackslash _ _ _ _ _ =>
  split
  · next hcontrol =>
    obtain ⟨ds, hds, hquad⟩ := hexQuad_controlEscape hcontrol cs
    rw [hds]
    refine hescaped 'u' (ds ++ cs) ?_
    have hlow : ¬ (0xDC00 ≤ c.toNat ∧ c.toNat ≤ 0xDFFF) := by omega
    have hhigh : ¬ (0xD800 ≤ c.toNat ∧ c.toNat ≤ 0xDBFF) := by omega
    simp [escape, numericEscape, hquad, hlow, hhigh, bind, Except.bind, pure, Except.pure,
      Char.ofNat_toNat]
  · next hplain =>
    rw [List.singleton_append, string, if_neg, if_neg, if_neg hplain]
    · exact fun h => hbackslash h
    · exact fun h => hquote h

/-- The characters of a text, as `escapeChar` prints them, with a quote after them are read back up
to that quote, since none of them is printed as a bare quote. -/
lemma string_flatMap (s : List Char) (hfuel : s.length < fuel) :
    string fuel acc (s.flatMap escapeChar ++ '"' :: cs) =
      .ok (String.ofList (acc.reverse ++ s), cs) := by
  induction s generalizing fuel acc with
  | nil =>
    obtain ⟨fuel, rfl⟩ := Nat.exists_eq_succ_of_ne_zero (Nat.ne_of_gt hfuel)
    simp [string]
  | cons c s ih =>
    obtain ⟨fuel, rfl⟩ := Nat.exists_eq_succ_of_ne_zero (Nat.ne_of_gt (Nat.zero_lt_of_lt hfuel))
    rw [List.flatMap_cons, List.append_assoc, string_escapeChar,
      ih (by simpa using hfuel)]
    simp

/-- The text of a string after its opening quote is read as a draft of the string, and nothing more
is taken. -/
lemma stringDraft_flatMap (s : String) :
    stringDraft (s.toList.flatMap escapeChar ++ '"' :: cs) = (.str s, some cs) := by
  have hone : ∀ c ∈ s.toList, 1 ≤ (escapeChar c).length := by
    intro c _
    unfold escapeChar
    split
    iterate 7 simp
    split <;> simp [controlEscape]
  have hlen : s.toList.length ≤ (s.toList.flatMap escapeChar).length := by
    rw [List.length_flatMap]
    simpa using List.card_nsmul_le_sum (s.toList.map fun c => (escapeChar c).length) 1
      (by simpa using hone)
  rw [stringDraft, string_flatMap]
  · simp [taken]
  · simp only [List.length_append, List.length_cons]
    omega

/-! ### Numbers -/

/-- If the number that the digits `ds` continue from `n` is below `words`, then `significand` takes
all of them. -/
lemma significand_eq {ds : List Char} (h : Nat.ofDigitChars 10 ds n < words) :
    significand n ds = (Nat.ofDigitChars 10 ds n, ds.length) := by
  induction ds generalizing n with
  | nil => rfl
  | cons d ds ih =>
    have hnext : Nat.ofDigitChars 10 (d :: ds) n =
        Nat.ofDigitChars 10 ds (n * 10 + (d.toNat - 48)) := by
      rw [Nat.ofDigitChars_cons, Nat.mul_comm]
      rfl
    rw [hnext] at h ⊢
    have hle : n * 10 + (d.toNat - 48) ≤ Nat.ofDigitChars 10 ds (n * 10 + (d.toNat - 48)) := by
      rw [Nat.ofDigitChars_eq_ofDigitChars_zero]
      exact (Nat.le_mul_of_pos_left _ (by positivity)).trans (Nat.le_add_right _ _)
    rw [significand, if_pos (hle.trans_lt h), ih h]
    rfl

/-- What may follow a value: a comma, the end of an array or of an object, or nothing. None of these
continues a number. -/
def Ends (cs : List Char) : Prop := ∀ c ∈ cs.head?, c = ',' ∨ c = ']' ∨ c = '\x7d'

/-- What `number` makes of the digits of a number below `words` where the text `Ends`: the integer,
negated after a minus sign as far as 64 bits allow, and otherwise a floating-point number. -/
lemma number_toDigits (hcs : Ends cs) (hn : n < words) (negative : Bool) :
    number negative (Nat.toDigits 10 n) cs =
      if !negative then .ok (.int n, cs)
      else if n = 0 || 9223372036854775808 < n then .ok (.float true (Binary64.ofNat n), cs)
      else .ok (.int (-n), cs) := by
  have hvalue : Nat.ofDigitChars 10 (Nat.toDigits 10 n) 0 = n :=
    Nat.ofDigitChars_toDigits (by decide) (by decide)
  have hsig : significand 0 (Nat.toDigits 10 n) = (n, (Nat.toDigits 10 n).length) := by
    rw [significand_eq (hvalue.trans_lt hn), hvalue]
  obtain - | ⟨c, cs⟩ := cs
  · simp [number, scale, hsig]
  · obtain rfl | rfl | rfl := hcs c rfl <;> simp [number, scale, hsig]

/-- The decimal digits of `n` begin with a digit, which is `0` only if `n` is. -/
lemma head_toDigits (n : Nat) :
    ∃ d ds, Nat.toDigits 10 n = d :: ds ∧ d.isDigit ∧ (d = '0' → n = 0) := by
  induction n using Nat.strong_induction_on with
  | _ n ih =>
    rw [Nat.toDigits_eq_if (by decide)]
    split
    · next hn =>
      refine ⟨_, _, rfl, ?_⟩
      interval_cases n <;> decide
    · next hn =>
      obtain ⟨d, ds, hds, hdigit, hzero⟩ := ih (n / 10) (by omega)
      refine ⟨d, ds ++ [(n % 10).digitChar], by rw [hds]; rfl, hdigit, fun hd => ?_⟩
      have := hzero hd
      omega

/-- The digits of a number below `words`, where the text `Ends`, are taken up to their last by
`unsigned` and then read by `number`. -/
lemma unsigned_toDigits (hcs : Ends cs) (negative : Bool) :
    unsigned negative (Nat.toDigits 10 n ++ cs) = number negative (Nat.toDigits 10 n) cs := by
  have hdigits : ∀ d ∈ Nat.toDigits 10 n, d.isDigit := fun d hd =>
    Nat.isDigit_of_mem_toDigits (by decide) (by decide) hd
  have hstop : ∀ c ∈ cs.head?, ¬ c.isDigit := by
    intro c hc
    obtain rfl | rfl | rfl := hcs c hc <;> decide
  obtain ⟨d, ds, hds, hdigit, hzero⟩ := head_toDigits n
  by_cases hd : d = '0'
  · -- the only number whose first digit is zero is zero itself
    obtain rfl := hzero hd
    rw [show Nat.toDigits 10 0 = ['0'] from rfl]
    obtain - | ⟨c, cs⟩ := cs
    · rfl
    · have hc : c.isDigit = false := by simpa using hstop c rfl
      simp [unsigned, hc]
  · rw [hds] at hdigits ⊢
    have htake : cs.takeWhile Char.isDigit = [] := by
      obtain - | ⟨c, cs⟩ := cs
      · rfl
      · exact List.takeWhile_cons_of_neg (hstop c rfl)
    have hdrop : cs.dropWhile Char.isDigit = cs := by
      obtain - | ⟨c, cs⟩ := cs
      · rfl
      · exact List.dropWhile_cons_of_neg (hstop c rfl)
    have hrest := (List.forall_mem_cons.1 hdigits).2
    simp only [List.cons_append, unsigned, if_neg hd, if_pos hdigit]
    rw [List.takeWhile_append_of_pos hrest, List.dropWhile_append_of_pos hrest, htake, hdrop,
      List.append_nil]

/-- A digit is no space. -/
lemma isSpace_of_isDigit (hc : c.isDigit) : isSpace c = false := by
  simp only [isSpace, Bool.or_eq_false_iff, beq_eq_false_iff_ne]
  refine ⟨⟨⟨?_, ?_⟩, ?_⟩, ?_⟩ <;> rintro rfl <;> cases hc

/-- The reader of values goes on with `numberDraft` if the text begins with a digit. -/
lemma draft_digit (hc : c.isDigit) : draft (fuel + 1) (c :: cs) = numberDraft false (c :: cs) := by
  have hskip : skip (c :: cs) = c :: cs :=
    List.dropWhile_cons_of_neg (by simp [isSpace_of_isDigit hc])
  rw [draft, hskip]
  dsimp only
  split
  iterate 7 cases hc
  rw [if_pos hc]

/-- The text of an integer begins with a digit or with a minus sign. -/
lemma toString_eq_cons (m : Int) :
    ∃ c cs, (toString m).toList = c :: cs ∧ (c.isDigit ∨ c = '-') := by
  rw [Int.toString_eq_repr]
  obtain n | n := m
  · obtain ⟨d, ds, hds, hdigit, -⟩ := head_toDigits n
    exact ⟨d, ds, by rw [Int.repr, Nat.toList_repr, hds], .inl hdigit⟩
  · exact ⟨'-', Nat.toDigits 10 (n + 1), by simp [Int.repr, Nat.toList_repr], .inr rfl⟩

/-- The text of an integer that fits into 64 bits is read back as that integer where the text
`Ends`. -/
lemma draft_number {m : Int} (hm : (Number.int m).IsWord) (hcs : Ends cs) (fuel : Nat) :
    draft (fuel + 1) ((toString m).toList ++ cs) = (.num (.int m), some cs) := by
  obtain ⟨hlow, hhigh⟩ := hm
  rw [Int.toString_eq_repr]
  obtain n | n := m
  · have hread := unsigned_toDigits (n := n) hcs false
    rw [number_toDigits hcs (Int.ofNat_lt.1 hhigh)] at hread
    rw [Int.repr, Nat.toList_repr]
    obtain ⟨d, ds, hds, hdigit, -⟩ := head_toDigits n
    rw [hds, List.cons_append] at hread ⊢
    rw [draft_digit hdigit, numberDraft, hread]
    rfl
  · have hread := unsigned_toDigits (n := n + 1) hcs true
    -- a negative number has the digits of `n + 1`, which is not zero and fits with its sign
    have hsmall : n + 1 ≤ 9223372036854775808 := by omega
    rw [number_toDigits hcs (by simp only [words]; omega), if_neg (by simp),
      if_neg (by simp; omega)] at hread
    have htext : (Int.repr (Int.negSucc n)).toList = '-' :: Nat.toDigits 10 (n + 1) := by
      simp [Int.repr, Nat.toList_repr]
    rw [htext, List.cons_append]
    change numberDraft true _ = _
    rw [numberDraft, hread]
    rfl

/-! ### Values -/

/-- The text begins with a character that is neither a space, which would be passed over, nor the
end of an array. -/
def Begins (cs : List Char) : Prop := ∃ c cs', cs = c :: cs' ∧ isSpace c = false ∧ c ≠ ']'

/-- The text of a printed value `Begins`, whatever follows it. -/
lemma begins_render {v : Json} (hv : v.Integral) : Begins ((render v).toList ++ cs) := by
  cases v with
  | null => exact ⟨_, _, rfl, by decide, by decide⟩
  | bool b => cases b <;> exact ⟨_, _, rfl, by decide, by decide⟩
  | num n =>
    cases n with
    | int m =>
      obtain ⟨c, cs', hm, hc⟩ := toString_eq_cons m
      refine ⟨c, cs' ++ cs, by rw [render, Number.text, hm]; rfl, ?_⟩
      rcases hc with hc | rfl
      · exact ⟨isSpace_of_isDigit hc, by rintro rfl; cases hc⟩
      · exact ⟨by decide, by decide⟩
    | float => exact hv.elim
  | str s =>
    refine ⟨'"', s.toList.flatMap escapeChar ++ '"' :: cs, ?_, by decide, by decide⟩
    simp [render, quote]
  | arr es =>
    refine ⟨'[', (renderElems true es).toList ++ ']' :: cs, ?_, by decide, by decide⟩
    simp [render]
  | obj ms =>
    refine ⟨'\x7b', (renderMembers true ms).toList ++ '\x7d' :: cs, ?_, by decide, by decide⟩
    simp [render]

/-- At the start of an array, or after a comma within it, the reader goes on with an element if the
text `Begins`. -/
lemma elems_of_begins {first : Bool} {ds : List Draft} (hcs : Begins cs) :
    elems (fuel + 1) first ds ((if first then "" else ",").toList ++ cs) = elem fuel ds cs := by
  obtain ⟨c, cs, rfl, hspace, hc⟩ := hcs
  have hskip : skip (c :: cs) = c :: cs := List.dropWhile_cons_of_neg (by simp [hspace])
  cases first with
  | true => simp [elems, hskip, hc]
  | false =>
    have hcomma : skip (',' :: c :: cs) = ',' :: c :: cs := rfl
    simp [elems, hskip, hcomma, hc]

/-- An element that was read is put in front of those before it, which are kept in reverse. -/
lemma elem_of_draft {ds : List Draft} {d : Draft} {cs' : List Char}
    (h : draft fuel cs = (d, some cs')) :
    elem (fuel + 1) ds cs = elems fuel false (d :: ds) cs' := by
  rw [elem, h]

/-- What follows a printed element is the comma before another one, or the end of the array. -/
lemma ends_renderElems (es : List Json) :
    Ends ((renderElems false es).toList ++ ']' :: cs) := by
  cases es with
  | nil => simp [Ends, renderElems]
  | cons e es => simp [Ends, renderElems]

/-- At the start of an object, or after a comma within it, the reader goes on with a member if the
text begins with a quote. -/
lemma members_of_quote {first : Bool} {ds : List (Except Fault String × Draft)} :
    members (fuel + 1) first ds ((if first then "" else ",").toList ++ '"' :: cs) =
      member fuel ds cs := by
  cases first <;> simp [members, skip, isSpace]

/-- A member whose name was printed and whose value was read is put in front of those before it,
which are kept in reverse. -/
lemma member_of_draft {ds : List (Except Fault String × Draft)} {d : Draft} {k : String}
    {cs' : List Char} (h : draft fuel cs = (d, some cs')) :
    member (fuel + 2) ds (k.toList.flatMap escapeChar ++ '"' :: ':' :: cs) =
      members fuel false ((.ok k, d) :: ds) cs' := by
  simp [member, stringDraft_flatMap, memberValue, skip, isSpace, h]

/-- What follows a printed member is the comma before another one, or the end of the object. -/
lemma ends_renderMembers (ms : List (String × Json)) :
    Ends ((renderMembers false ms).toList ++ '\x7d' :: cs) := by
  cases ms with
  | nil => simp [Ends, renderMembers]
  | cons m ms => simp [Ends, renderMembers]

/-- The text of a printed value has at least one character, which is what makes the fuel of the
reader suffice. -/
lemma length_render_pos {v : Json} (hv : v.Integral) : 0 < (render v).toList.length := by
  obtain ⟨c, cs, hcs, -⟩ : Begins ((render v).toList ++ []) := begins_render hv
  rw [← List.append_nil (render v).toList, hcs]
  exact Nat.succ_pos _

mutual

/-- **A printed value is read back**, whatever follows it, as long as the text `Ends` there. The
fuel is three times the characters: of three calls in a row, at least one takes a character. -/
theorem draft_render (v : Json) (hv : v.Integral) (fuel : Nat) {cs : List Char} (hcs : Ends cs)
    (hfuel : 3 * ((render v).toList ++ cs).length ≤ fuel) :
    draft (fuel + 1) ((render v).toList ++ cs) = (.ofJson v, some cs) := by
  cases v with
  | null => simp [render, draft, skip, isSpace, wordDraft, word, Draft.ofJson]
  | bool b => cases b <;> simp [render, draft, skip, isSpace, wordDraft, word, Draft.ofJson]
  | num n =>
    cases n with
    | int m => simpa [render, Number.text, Draft.ofJson] using draft_number hv hcs fuel
    | float => exact hv.elim
  | str s => simp [render, quote, draft, skip, isSpace, Draft.ofJson, stringDraft_flatMap]
  | arr es =>
    have htext : (render (.arr es)).toList ++ cs =
        '[' :: ((renderElems true es).toList ++ ']' :: cs) := by simp [render]
    rw [htext, List.length_cons] at hfuel
    obtain ⟨fuel, rfl⟩ := Nat.exists_eq_add_of_le' (show 2 ≤ fuel by omega)
    have hread := elems_renderElems es hv fuel true [] cs (by omega)
    rw [htext]
    simp [draft, skip, isSpace, Draft.ofJson, hread]
  | obj ms =>
    have htext : (render (.obj ms)).toList ++ cs =
        '\x7b' :: ((renderMembers true ms).toList ++ '\x7d' :: cs) := by simp [render]
    rw [htext, List.length_cons] at hfuel
    obtain ⟨fuel, rfl⟩ := Nat.exists_eq_add_of_le' (show 3 ≤ fuel by omega)
    have hread := members_renderMembers ms hv fuel true [] cs (by omega)
    rw [htext]
    simp [draft, skip, isSpace, Draft.ofJson, hread]

/-- **Printed elements are read back**, up to the end of the array and after the drafts `ds` of
those before them. -/
theorem elems_renderElems (es : List Json) (hes : IntegralElems es) (fuel : Nat) (first : Bool)
    (ds : List Draft) (cs : List Char)
    (hfuel : 3 * ((renderElems first es).toList ++ ']' :: cs).length + 1 ≤ fuel) :
    elems (fuel + 2) first ds ((renderElems first es).toList ++ ']' :: cs) =
      (.arr (ds.reverse ++ Draft.ofElems es) .closed, some cs) := by
  cases es with
  | nil => simp [renderElems, elems, skip, isSpace, Draft.ofElems]
  | cons e es =>
    obtain ⟨he, hes⟩ := hes
    have htext : (renderElems first (e :: es)).toList ++ ']' :: cs =
        (if first then "" else ",").toList ++
          ((render e).toList ++ ((renderElems false es).toList ++ ']' :: cs)) := by
      simp [renderElems]
    have hpos := length_render_pos he
    rw [htext] at hfuel ⊢
    simp only [List.length_append, List.length_cons] at hfuel
    obtain ⟨fuel, rfl⟩ := Nat.exists_eq_add_of_le' (show 2 ≤ fuel by omega)
    rw [elems_of_begins (begins_render he),
      elem_of_draft (draft_render e he (fuel + 1) (ends_renderElems es) (by simp; omega)),
      elems_renderElems es hes fuel false _ cs (by simp; omega)]
    simp [Draft.ofElems]

/-- **Printed members are read back**, up to the end of the object and after the drafts `ds` of
those before them. -/
theorem members_renderMembers (ms : List (String × Json)) (hms : IntegralValues ms) (fuel : Nat)
    (first : Bool) (ds : List (Except Fault String × Draft)) (cs : List Char)
    (hfuel : 3 * ((renderMembers first ms).toList ++ '\x7d' :: cs).length ≤ fuel) :
    members (fuel + 3) first ds ((renderMembers first ms).toList ++ '\x7d' :: cs) =
      (.obj (ds.reverse ++ Draft.ofMembers ms) .closed, some cs) := by
  cases ms with
  | nil => simp [renderMembers, members, skip, isSpace, Draft.ofMembers]
  | cons m ms =>
    obtain ⟨k, v⟩ := m
    obtain ⟨hv, hms⟩ := hms
    have htext : (renderMembers first ((k, v) :: ms)).toList ++ '\x7d' :: cs =
        (if first then "" else ",").toList ++ '"' :: (k.toList.flatMap escapeChar ++ '"' :: ':' ::
          ((render v).toList ++ ((renderMembers false ms).toList ++ '\x7d' :: cs))) := by
      simp [renderMembers, quote]
    rw [htext] at hfuel ⊢
    simp only [List.length_append, List.length_cons] at hfuel
    obtain ⟨fuel, rfl⟩ := Nat.exists_eq_add_of_le' (show 3 ≤ fuel by omega)
    rw [members_of_quote,
      member_of_draft (draft_render v hv (fuel + 2) (ends_renderMembers ms) (by simp; omega)),
      members_renderMembers ms hms fuel false _ cs (by simp; omega)]
    simp [Draft.ofMembers]

end

end Reader

/-- **What is printed is read back.** The text of a value that is `Integral` is read as that value,
and nothing is left of it.

**Proof sketch.** Induction on values, elements and members, with any text after them:
`draft_render`, `elems_renderElems` and `members_renderMembers`. A string ends at its own quote,
since no character of it is printed as one, and a number ends where no digit follows. -/
theorem ofText_render {v : Json} (hv : v.Integral) : Draft.ofText (render v) = (.ofJson v, []) := by
  have hends : Reader.Ends [] := nofun
  have hread := Reader.draft_render v hv (3 * (render v).toList.length + 2) hends (by simp)
  rw [List.append_nil] at hread
  rw [Draft.ofText, hread]
  rfl

end MailDomain.Json
