/-!
# Numbers inside texts

Texts are read from the front: a reader takes what it accepts and gives it with the rest of
the text, or accepts nothing.

## Main definitions

* `Net.digit?` — the value of a digit of a base.
* `Net.number?` — a number with a bound on its digits and on its value.
* `Net.symbol?` — a given character.
* `Net.whole?` — a text read to its end.
-/

set_option relaxedAutoImplicit false
set_option autoImplicit false

namespace MailDomain.Net

/-- The value of a digit of the `base`, which is at most sixteen, in small or capital letters. -/
def digit? (base : Nat) (c : Char) : Option Nat :=
  let n := c.toNat
  let d :=
    if 48 ≤ n && n ≤ 57 then n - 48
    else if 97 ≤ n && n ≤ 102 then n - 87
    else if 65 ≤ n && n ≤ 70 then n - 55
    else 16
  if d < base then some d else none

/-- The digits of the `base` at the start of a text, as many as there are. -/
def digits (base : Nat) (cs : List Char) : List Char :=
  cs.takeWhile fun c => (digit? base c).isSome

/-- The number that the digits `ds` of the `base` stand for, the first being the highest. -/
def valueOf (base : Nat) (ds : List Char) : Nat :=
  ds.foldl (fun n c => n * base + (digit? base c).getD 0) 0

/-- A number of at most `width` digits that is at most `bound`. A number of several digits
may start with a zero only if `zeros` is set. -/
def number? (base width bound : Nat) (zeros : Bool) (cs : List Char) :
    Option (Nat × List Char) :=
  let ds := digits base cs
  let n := valueOf base ds
  if ds.isEmpty || width < ds.length || bound < n then none
  else if !zeros && ds.head? == some '0' && 1 < ds.length then none
  else some (n, cs.drop ds.length)

/-- The text after the character `s`, with which it must start. -/
def symbol? (s : Char) : List Char → Option (List Char)
  | c :: cs => if c = s then some cs else none
  | [] => none

/-- What the reader `r` makes of a text that it takes to the end, `none` if a rest is left. -/
def whole? {α : Type} (r : Option (α × List Char)) : Option α :=
  match r with
  | some (a, []) => some a
  | _ => none

end MailDomain.Net
