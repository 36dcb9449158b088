/-!
# Powers of two and of ten

## Main definitions

* `Decimal.twoTo`, `Decimal.tenTo` — the powers of two and of ten.

## Main results

* `Decimal.twoTo_succ`, `Decimal.tenTo_succ` — each power is a multiple of the one before.
-/

set_option relaxedAutoImplicit false
set_option autoImplicit false

namespace MailDomain.Decimal

/-- The power `2 ^ k`, by `Nat.pow` itself, so that no instance has to be unfolded. -/
def twoTo (k : Nat) : Nat := Nat.pow 2 k

/-- The power `10 ^ k`, by `Nat.pow` itself, so that no instance has to be unfolded. -/
def tenTo (k : Nat) : Nat := Nat.pow 10 k

@[simp] theorem twoTo_zero : twoTo 0 = 1 := rfl

@[simp] theorem tenTo_zero : tenTo 0 = 1 := rfl

/-- The next power of two is twice as large. -/
theorem twoTo_succ (k : Nat) : twoTo (k + 1) = twoTo k * 2 := rfl

/-- The next power of ten is ten times as large. -/
theorem tenTo_succ (k : Nat) : tenTo (k + 1) = tenTo k * 10 := rfl

end MailDomain.Decimal
