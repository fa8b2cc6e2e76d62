import SchemaForm.Power

/-!
# Binary floating-point numbers of 64 bits

A finite number is a sign, an integer significand below `2 ^ 53` and a binary
exponent, held in the only canonical form that the number has.  Comparison and
rounding are exact integer arithmetic.

Main results:

- Theorem `lt_iff`, Theorem `le_iff`: comparison is comparison of ranks, where both exist.
- Theorem `ofInt_zero`: the integer zero is the positive zero.
-/

namespace SchemaForm

/-- The significands and exponents in use: the significand fills 53 bits unless the exponent is
the least one. -/
def Binary64.Canonical (significand : Nat) (exponent : Int) : Prop :=
  significand < twoTo 53 ∧ -1074 ≤ exponent ∧ exponent ≤ 971 ∧
    (twoTo 52 ≤ significand ∨ exponent = -1074)

instance (significand : Nat) (exponent : Int) :
    Decidable (Binary64.Canonical significand exponent) :=
  inferInstanceAs (Decidable (_ ∧ _ ∧ _ ∧ _))

/-- A binary64 number. -/
inductive Binary64 where
  | finite (negative : Bool) (significand : Nat) (exponent : Int)
      (canonical : Binary64.Canonical significand exponent)
  | infinite (negative : Bool)
  | nan
deriving DecidableEq

namespace Binary64

/-! ## Rounding -/

/-- The zero of a sign. -/
def zero (negative : Bool) : Binary64 :=
  .finite negative 0 (-1074) (by decide)

instance : Inhabited Binary64 :=
  ⟨zero false⟩

/-- The integer nearest to a quotient; a tie goes to the even one. -/
def roundHalfEven (numerator denominator : Nat) : Nat :=
  let quotient := numerator / denominator
  let remainder := numerator % denominator
  if 2 * remainder < denominator then quotient
  else if denominator < 2 * remainder then quotient + 1
  else if quotient % 2 = 0 then quotient else quotient + 1

/-- Numerator and denominator of a quotient divided by a power of two. -/
def scale (numerator denominator : Nat) (exponent : Int) : Nat × Nat :=
  (numerator * twoTo (-exponent).toNat, denominator * twoTo exponent.toNat)

/-- The number with these parts; an exponent that is too large makes it infinite. -/
def pack (negative : Bool) (significand : Nat) (exponent : Int) : Binary64 :=
  if h : Canonical significand exponent then .finite negative significand exponent h
  else .infinite negative

/-- The exponent that leaves 53 bits of a quotient before the binary point, or the least exponent
if that is larger. -/
def ratioExponent (numerator denominator : Nat) : Int :=
  let least : Int := max ((Nat.log2 numerator : Int) - Nat.log2 denominator - 53) (-1074)
  let start := scale numerator denominator least
  if start.1 / start.2 < twoTo 53 then least else least + 1

/-- The number nearest to a quotient of positive denominator; a tie goes to the even
significand. -/
def ofRatio (negative : Bool) (numerator denominator : Nat) : Binary64 :=
  if numerator = 0 then zero negative
  else
    let exponent := ratioExponent numerator denominator
    let scaled := scale numerator denominator exponent
    let significand := roundHalfEven scaled.1 scaled.2
    if significand < twoTo 53 then pack negative significand exponent
    else pack negative (significand / 2) (exponent + 1)

/-- The number nearest to an integer. -/
def ofInt (n : Int) : Binary64 :=
  ofRatio (n < 0) n.natAbs 1

/-- The number nearest to `digits * 10 ^ exponent`.  Exponents far outside the format are
answered without computing the power. -/
def ofDecimal (negative : Bool) (digits : Nat) (exponent : Int) : Binary64 :=
  if digits = 0 then zero negative
  else if 400 < exponent then .infinite negative
  else if (Nat.log2 digits : Int) + 1 + 3 * exponent < -1100 then zero negative
  else ofRatio negative (digits * tenTo exponent.toNat) (tenTo (-exponent).toNat)

/-! ## Value and order -/

/-- Whether the number is neither infinite nor undefined. -/
def isFinite : Binary64 → Bool
  | .finite .. => true
  | _ => false

/-- A finite value counted in units of `2 ^ (-1074)`. -/
def units (negative : Bool) (significand : Nat) (exponent : Int) : Int :=
  let size : Int := significand * twoTo (exponent + 1074).toNat
  if negative then -size else size

/-- Position on the number line; every finite rank lies between those of the infinities, and an
undefined number has none. -/
def rank : Binary64 → Option Int
  | .finite negative significand exponent _ => some (units negative significand exponent)
  | .infinite true => some (-(twoTo 2100 : Int))
  | .infinite false => some (twoTo 2100)
  | .nan => none

/-- Strict comparison; an undefined number compares with nothing. -/
def lt (a b : Binary64) : Bool :=
  match a.rank, b.rank with
  | some x, some y => x < y
  | _, _ => false

/-- Comparison; an undefined number compares with nothing. -/
def le (a b : Binary64) : Bool :=
  match a.rank, b.rank with
  | some x, some y => x ≤ y
  | _, _ => false

/-- Whether the value is a zero of either sign. -/
def isZero (x : Binary64) : Bool :=
  x.rank = some 0

/-- The value of a number without a fraction. -/
def toInt? : Binary64 → Option Int
  | .finite negative significand exponent _ =>
      let n := units negative significand exponent
      if n % twoTo 1074 = 0 then some (n / twoTo 1074) else none
  | _ => none

/-! ## Products and quotients of finite numbers -/

/-- Numerator and denominator of the size of a finite number. -/
def ratio (significand : Nat) (exponent : Int) : Nat × Nat :=
  (significand * twoTo exponent.toNat, twoTo (-exponent).toNat)

/-- The rounded product of two finite numbers. -/
def mul : Binary64 → Binary64 → Binary64
  | .finite s m e _, .finite t n f _ =>
      let x := ratio m e
      let y := ratio n f
      ofRatio (s != t) (x.1 * y.1) (x.2 * y.2)
  | _, _ => .nan

/-- The rounded quotient of two finite numbers, the second not zero. -/
def div : Binary64 → Binary64 → Binary64
  | .finite s m e _, .finite t n f _ =>
      let x := ratio m e
      let y := ratio n f
      if n = 0 then .nan else ofRatio (s != t) (x.1 * y.2) (x.2 * y.1)
  | _, _ => .nan

/-- The number with the opposite sign. -/
def neg : Binary64 → Binary64
  | .finite s m e h => .finite (!s) m e h
  | .infinite s => .infinite (!s)
  | .nan => .nan

/-! ## Laws of the order -/

/-- A number is at most another exactly when both have a rank and the first rank is at most the
second. -/
theorem le_iff {a b : Binary64} :
    a.le b = true ↔ ∃ x y, a.rank = some x ∧ b.rank = some y ∧ x ≤ y := by
  unfold le
  cases a.rank <;> cases b.rank <;> simp

/-- A number is below another exactly when both have a rank and the first rank is the smaller. -/
theorem lt_iff {a b : Binary64} :
    a.lt b = true ↔ ∃ x y, a.rank = some x ∧ b.rank = some y ∧ x < y := by
  unfold lt
  cases a.rank <;> cases b.rank <;> simp

/-- Every finite number has a rank. -/
theorem rank_isSome_of_isFinite {x : Binary64} (h : x.isFinite = true) : x.rank.isSome = true := by
  cases x <;> simp_all [isFinite, rank]

/-- The integer zero is the positive zero. -/
theorem ofInt_zero : ofInt 0 = zero false :=
  rfl

end Binary64
end SchemaForm
