/-!
# Powers of two and ten

The powers that scale binary and decimal numbers.

Main results:

- Theorem `twoTo_succ`: one step up doubles.
- Theorem `twoTo_pos`, Theorem `tenTo_pos`: no power is zero.
-/

namespace SchemaForm

/-- A power of two. -/
def twoTo (n : Nat) : Nat :=
  Nat.pow 2 n

/-- A power of ten. -/
def tenTo (n : Nat) : Nat :=
  Nat.pow 10 n

/-- One step up doubles. -/
theorem twoTo_succ (n : Nat) : twoTo (n + 1) = twoTo n * 2 :=
  rfl

/-- No power of two is zero. -/
theorem twoTo_pos (n : Nat) : 0 < twoTo n :=
  Nat.pow_pos (by decide)

/-- No power of ten is zero. -/
theorem tenTo_pos (n : Nat) : 0 < tenTo n :=
  Nat.pow_pos (by decide)

end SchemaForm
