import SchemaForm.Binary64.Basic
import Mathlib.Algebra.Order.Field.Power
import Mathlib.Algebra.Order.Ring.Rat
import Mathlib.Tactic.FieldSimp
import Mathlib.Tactic.Linarith
import Mathlib.Tactic.NormNum
import Mathlib.Tactic.Positivity
import Mathlib.Tactic.Ring

/-!
# Rounding a quotient

A quotient is rounded on the grid whose step is a power of two, chosen so that
53 bits stand before the point.  The exponent of that grid is the only one that
fits the size of the quotient, so a quotient in the rounding interval of a
number is rounded to that number.

Main results:

- Theorem `roundHalfEven_eq`, Theorem `roundHalfEven_scale`: a quotient within half a unit of an
  integer is rounded to it.
- Theorem `ratioExponent_eq`: only one exponent fits a quotient.
- Theorem `exists_ofRatio_eq`: a quotient gives the finite number of its rounded size.
- Theorem `isFinite_ofRatio`, Theorem `isFinite_ofInt`: a quotient below the greatest power of
  two gives a finite number, and so does an integer of 64 bits.
-/

namespace SchemaForm

/-! ## Powers as rational numbers -/

theorem cast_twoTo (n : Nat) : (twoTo n : ℚ) = 2 ^ n := by
  simp [twoTo]

theorem cast_tenTo (n : Nat) : (tenTo n : ℚ) = 10 ^ n := by
  simp [tenTo]

/-- A power is the quotient of two powers of which one is trivial. -/
theorem pow_toNat_eq_zpow_mul {base : ℚ} (hbase : base ≠ 0) (exponent : Int) :
    base ^ exponent.toNat = base ^ exponent * base ^ (-exponent).toNat := by
  rw [← zpow_natCast, ← zpow_natCast, ← zpow_add₀ hbase]
  congr 1
  omega

theorem two_zpow_lt_iff {a b : Int} : (2 : ℚ) ^ a < 2 ^ b ↔ a < b :=
  zpow_lt_zpow_iff_right₀ (by norm_num)

theorem two_zpow_add (a b : Int) : (2 : ℚ) ^ (a + b) = 2 ^ a * 2 ^ b :=
  zpow_add₀ (by norm_num) a b

namespace Binary64

/-! ## Rounding to an integer -/

/-- A quotient within half a unit of an integer is rounded to it, at a distance of exactly half a
unit if the integer is even. -/
theorem roundHalfEven_eq {numerator denominator m : Nat} (hdenominator : 0 < denominator)
    (hlow : 2 * m * denominator ≤ 2 * numerator + denominator)
    (hhigh : 2 * numerator ≤ 2 * m * denominator + denominator)
    (htie : m % 2 = 1 → 2 * m * denominator < 2 * numerator + denominator ∧
      2 * numerator < 2 * m * denominator + denominator) :
    roundHalfEven numerator denominator = m := by
  simp only [roundHalfEven]
  have hdivision := Nat.div_add_mod numerator denominator
  have hremainder := Nat.mod_lt numerator hdenominator
  set quotient := numerator / denominator
  set remainder := numerator % denominator
  have hm : m = quotient ∨ m = quotient + 1 := by
    have hlower : m < quotient + 2 := by
      by_contra hfar
      have := Nat.mul_le_mul_right denominator (not_lt.mp hfar)
      nlinarith
    have hupper : quotient < m + 1 := by
      by_contra hfar
      have := Nat.mul_le_mul_right denominator (not_lt.mp hfar)
      nlinarith
    omega
  -- Linear facts about the two products let the comparison of remainders decide.
  rcases hm with hm | hm
  · have hproduct : 2 * m * denominator = 2 * (denominator * quotient) := by
      rw [hm]
      ring
    rw [hproduct] at hlow hhigh htie
    split_ifs <;> omega
  · have hproduct : 2 * m * denominator = 2 * (denominator * quotient) + 2 * denominator := by
      rw [hm]
      ring
    rw [hproduct] at hlow hhigh htie
    split_ifs <;> omega

/-- An integer up to a quotient is at most the rounded quotient. -/
theorem le_roundHalfEven {numerator denominator m : Nat} (hdenominator : 0 < denominator)
    (h : m * denominator ≤ numerator) : m ≤ roundHalfEven numerator denominator := by
  have hm : m ≤ numerator / denominator := (Nat.le_div_iff_mul_le hdenominator).mpr h
  simp only [roundHalfEven]
  split_ifs <;> omega

/-- An integer above a quotient is at least the rounded quotient. -/
theorem roundHalfEven_le {numerator denominator m : Nat} (hdenominator : 0 < denominator)
    (h : numerator < m * denominator) : roundHalfEven numerator denominator ≤ m := by
  have hm : numerator / denominator < m := (Nat.div_lt_iff_lt_mul hdenominator).mpr h
  simp only [roundHalfEven]
  split_ifs <;> omega

/-! ## The grid of a quotient -/

theorem scale_snd_pos (numerator : Nat) {denominator : Nat} (hdenominator : 0 < denominator)
    (exponent : Int) : 0 < (scale numerator denominator exponent).2 :=
  Nat.mul_pos hdenominator (twoTo_pos _)

/-- Scaling divides by the power of two. -/
theorem scale_fst_eq (numerator : Nat) {denominator : Nat} (hdenominator : 0 < denominator)
    (exponent : Int) :
    ((scale numerator denominator exponent).1 : ℚ) =
      numerator / denominator / 2 ^ exponent * (scale numerator denominator exponent).2 := by
  have hcast : (denominator : ℚ) ≠ 0 := by positivity
  have hpower : (2 : ℚ) ^ exponent ≠ 0 := by positivity
  simp only [scale, Nat.cast_mul, cast_twoTo]
  rw [pow_toNat_eq_zpow_mul (by norm_num) exponent]
  field_simp

/-- A quotient is rounded to the integer from which it is at most half a unit of the grid away. -/
theorem roundHalfEven_scale {numerator denominator m : Nat} {exponent : Int}
    (hdenominator : 0 < denominator)
    (hlow : 2 * (m : ℚ) ≤ 2 * (numerator / denominator / 2 ^ exponent) + 1)
    (hhigh : 2 * (numerator / denominator / 2 ^ exponent) ≤ 2 * (m : ℚ) + 1)
    (htie : m % 2 = 1 → 2 * (m : ℚ) < 2 * (numerator / denominator / 2 ^ exponent) + 1 ∧
      2 * (numerator / denominator / 2 ^ exponent) < 2 * (m : ℚ) + 1) :
    roundHalfEven (scale numerator denominator exponent).1
      (scale numerator denominator exponent).2 = m := by
  have hscale := scale_fst_eq numerator hdenominator exponent
  have hsnd := scale_snd_pos numerator hdenominator exponent
  generalize scale numerator denominator exponent = scaled at *
  generalize (numerator / denominator / 2 ^ exponent : ℚ) = value at *
  have hpos : (0 : ℚ) < scaled.2 := by exact_mod_cast hsnd
  apply roundHalfEven_eq hsnd
  · rw [← Nat.cast_le (α := ℚ)]
    push_cast
    rw [hscale]
    linarith [mul_le_mul_of_nonneg_right hlow hpos.le]
  · rw [← Nat.cast_le (α := ℚ)]
    push_cast
    rw [hscale]
    linarith [mul_le_mul_of_nonneg_right hhigh hpos.le]
  · intro hodd
    obtain ⟨hlow, hhigh⟩ := htie hodd
    rw [← Nat.cast_lt (α := ℚ), ← Nat.cast_lt (α := ℚ)]
    push_cast
    rw [hscale]
    constructor
    · linarith [mul_lt_mul_of_pos_right hlow hpos]
    · linarith [mul_lt_mul_of_pos_right hhigh hpos]

/-- The size of a quotient by the binary logarithms of its parts. -/
theorem quotient_bounds {numerator denominator : Nat} (hnumerator : 0 < numerator)
    (hdenominator : 0 < denominator) :
    (2 : ℚ) ^ ((Nat.log2 numerator : Int) - Nat.log2 denominator - 1) <
        (numerator : ℚ) / denominator ∧
      (numerator : ℚ) / denominator <
        2 ^ ((Nat.log2 numerator : Int) - Nat.log2 denominator + 1) := by
  have hn : (2 : ℚ) ^ (Nat.log2 numerator : Int) ≤ numerator := by
    exact_mod_cast Nat.log2_self_le hnumerator.ne'
  have hn' : (numerator : ℚ) < 2 ^ ((Nat.log2 numerator : Int) + 1) := by
    exact_mod_cast Nat.lt_log2_self (n := numerator)
  have hd : (2 : ℚ) ^ (Nat.log2 denominator : Int) ≤ denominator := by
    exact_mod_cast Nat.log2_self_le hdenominator.ne'
  have hd' : (denominator : ℚ) < 2 ^ ((Nat.log2 denominator : Int) + 1) := by
    exact_mod_cast Nat.lt_log2_self (n := denominator)
  have hcast : (0 : ℚ) < denominator := by positivity
  constructor
  · rw [lt_div_iff₀ hcast]
    calc (2 : ℚ) ^ ((Nat.log2 numerator : Int) - Nat.log2 denominator - 1) * denominator
        < 2 ^ ((Nat.log2 numerator : Int) - Nat.log2 denominator - 1) *
            2 ^ ((Nat.log2 denominator : Int) + 1) := by gcongr
      _ = 2 ^ (Nat.log2 numerator : Int) := by rw [← two_zpow_add]; congr 1; ring
      _ ≤ numerator := hn
  · rw [div_lt_iff₀ hcast]
    calc (numerator : ℚ) < 2 ^ ((Nat.log2 numerator : Int) + 1) := hn'
      _ = 2 ^ ((Nat.log2 numerator : Int) - Nat.log2 denominator + 1) *
            2 ^ (Nat.log2 denominator : Int) := by rw [← two_zpow_add]; congr 1; ring
      _ ≤ 2 ^ ((Nat.log2 numerator : Int) - Nat.log2 denominator + 1) * denominator := by gcongr

/-- The exponents at which a value has at most 53 bits before the point, and no fewer unless the
exponent is the least one. -/
def Fits (value : ℚ) (exponent : Int) : Prop :=
  value < 2 ^ (53 + exponent) ∧ -1074 ≤ exponent ∧
    (exponent = -1074 ∨ 2 ^ (52 + exponent) ≤ value)

/-- A greater value does not fit a smaller exponent. -/
theorem Fits.le {value greater : ℚ} {a b : Int} (ha : Fits value a) (hb : Fits greater b)
    (h : value ≤ greater) : a ≤ b := by
  obtain ⟨-, -, hlow⟩ := ha
  obtain ⟨hhigh, hleast, -⟩ := hb
  rcases hlow with hlow | hlow
  · omega
  · have := two_zpow_lt_iff.mp (lt_of_le_of_lt (hlow.trans h) hhigh)
    omega

/-- At most one exponent fits a value. -/
theorem Fits.unique {value : ℚ} {a b : Int} (ha : Fits value a) (hb : Fits value b) : a = b :=
  le_antisymm (ha.le hb le_rfl) (hb.le ha le_rfl)

/-- A scaled quotient is below a power of two when the quotient is below the scaled power. -/
theorem scale_lt_iff {numerator denominator : Nat} (hdenominator : 0 < denominator) (bits : Nat)
    (exponent : Int) :
    (scale numerator denominator exponent).1 <
        twoTo bits * (scale numerator denominator exponent).2 ↔
      (numerator : ℚ) / denominator < 2 ^ (bits + exponent) := by
  have hpos : (0 : ℚ) < (scale numerator denominator exponent).2 := by
    exact_mod_cast scale_snd_pos numerator hdenominator exponent
  rw [← Nat.cast_lt (α := ℚ), Nat.cast_mul, cast_twoTo, scale_fst_eq numerator hdenominator,
    mul_lt_mul_iff_left₀ hpos, div_lt_iff₀ (by positivity), two_zpow_add, zpow_natCast]

/-- A scaled quotient is at least a power of two when the quotient is at least the scaled power. -/
theorem le_scale_iff {numerator denominator : Nat} (hdenominator : 0 < denominator) (bits : Nat)
    (exponent : Int) :
    twoTo bits * (scale numerator denominator exponent).2 ≤
        (scale numerator denominator exponent).1 ↔
      2 ^ (bits + exponent) ≤ (numerator : ℚ) / denominator := by
  rw [← not_lt, scale_lt_iff hdenominator, not_lt]

/-- The exponent of a quotient fits it. -/
theorem fits_ratioExponent {numerator denominator : Nat} (hnumerator : 0 < numerator)
    (hdenominator : 0 < denominator) :
    Fits ((numerator : ℚ) / denominator) (ratioExponent numerator denominator) := by
  obtain ⟨hlow, hhigh⟩ := quotient_bounds hnumerator hdenominator
  simp only [ratioExponent, Nat.div_lt_iff_lt_mul (scale_snd_pos numerator hdenominator _),
    scale_lt_iff hdenominator]
  generalize hsize : (Nat.log2 numerator : Int) - Nat.log2 denominator = size at *
  have hleast := le_max_right (size - 53) (-1074 : Int)
  split_ifs with hbelow
  · refine ⟨hbelow, hleast, ?_⟩
    rcases max_choice (size - 53) (-1074 : Int) with hchoice | hchoice
    · right
      rw [hchoice]
      refine le_of_eq_of_le ?_ hlow.le
      congr 1
      ring
    · exact .inl hchoice
  · refine ⟨lt_of_lt_of_le hhigh ?_, by omega, .inr ?_⟩
    · apply zpow_le_zpow_right₀ (by norm_num)
      have := le_max_left (size - 53) (-1074 : Int)
      omega
    · refine le_of_eq_of_le ?_ (not_lt.mp hbelow)
      congr 1
      ring

/-- Only one exponent fits a quotient. -/
theorem ratioExponent_eq {numerator denominator : Nat} {exponent : Int}
    (hnumerator : 0 < numerator) (hdenominator : 0 < denominator)
    (h : Fits ((numerator : ℚ) / denominator) exponent) :
    ratioExponent numerator denominator = exponent :=
  (fits_ratioExponent hnumerator hdenominator).unique h

/-! ## Finite results -/

/-- Parts in use are packed as they are. -/
theorem pack_eq {negative : Bool} {significand : Nat} {exponent : Int}
    (h : Canonical significand exponent) :
    pack negative significand exponent = .finite negative significand exponent h :=
  dif_pos h

/-- The size of a rounded quotient in units of `2 ^ (-1074)`. -/
def roundedUnits (numerator denominator : Nat) : Nat :=
  let exponent := ratioExponent numerator denominator
  let scaled := scale numerator denominator exponent
  roundHalfEven scaled.1 scaled.2 * twoTo (exponent + 1074).toNat

/-- A quotient below the greatest power of two gives a finite number, of the rounded size. -/
theorem exists_ofRatio_eq (negative : Bool) {numerator denominator : Nat}
    (hnumerator : 0 < numerator) (hdenominator : 0 < denominator)
    (h : (numerator : ℚ) / denominator < 2 ^ (1023 : Int)) :
    ∃ significand exponent canonical,
      ofRatio negative numerator denominator = .finite negative significand exponent canonical ∧
        significand * twoTo (exponent + 1074).toNat = roundedUnits numerator denominator := by
  obtain ⟨hhigh, hleast, hlow⟩ := fits_ratioExponent hnumerator hdenominator
  simp only [ofRatio, if_neg hnumerator.ne', roundedUnits]
  generalize ratioExponent numerator denominator = exponent at *
  have hgreatest : exponent ≤ 970 := by
    rcases hlow with hlow | hlow
    · omega
    · have := two_zpow_lt_iff.mp (lt_of_le_of_lt hlow h)
      omega
  have hpos := scale_snd_pos numerator hdenominator exponent
  have hmost := roundHalfEven_le hpos ((scale_lt_iff hdenominator 53 exponent).mpr hhigh)
  split_ifs with hbits
  · have hcanonical : Canonical (roundHalfEven (scale numerator denominator exponent).1
        (scale numerator denominator exponent).2) exponent := by
      refine ⟨hbits, hleast, by omega, ?_⟩
      rcases hlow with hlow | hlow
      · exact .inr hlow
      · exact .inl (le_roundHalfEven hpos ((le_scale_iff hdenominator 52 exponent).mpr hlow))
    exact ⟨_, _, hcanonical, pack_eq hcanonical, rfl⟩
  · have hcarry := le_antisymm hmost (not_lt.mp hbits)
    have hcanonical : Canonical (twoTo 52) (exponent + 1) :=
      ⟨by decide, by omega, by omega, .inl le_rfl⟩
    have hpower : (exponent + 1 + 1074).toNat = (exponent + 1074).toNat + 1 := by omega
    rw [hcarry]
    refine ⟨twoTo 52, exponent + 1, hcanonical, pack_eq hcanonical, ?_⟩
    rw [hpower, twoTo_succ (exponent + 1074).toNat, twoTo_succ 52]
    ring

/-- A quotient below the greatest power of two gives a finite number. -/
theorem isFinite_ofRatio (negative : Bool) {numerator denominator : Nat}
    (hdenominator : 0 < denominator) (h : (numerator : ℚ) / denominator < 2 ^ (1023 : Int)) :
    (ofRatio negative numerator denominator).isFinite = true := by
  rcases Nat.eq_zero_or_pos numerator with rfl | hnumerator
  · rfl
  · obtain ⟨significand, exponent, canonical, heq, -⟩ :=
      exists_ofRatio_eq negative hnumerator hdenominator h
    rw [heq]
    rfl

/-- An integer of 64 bits, signed or not, is below the greatest power of two. -/
theorem natAbs_lt_two_zpow {n : Int} (h : n.natAbs < 2 ^ 64) :
    (n.natAbs : ℚ) / (1 : Nat) < 2 ^ (1023 : Int) := by
  rw [Nat.cast_one, div_one]
  calc (n.natAbs : ℚ) < 2 ^ 64 := by exact_mod_cast h
    _ ≤ 2 ^ (1023 : Int) := by
        rw [← zpow_natCast]
        exact zpow_le_zpow_right₀ (by norm_num) (by norm_num)

/-- An integer of 64 bits, signed or not, gives a finite number. -/
theorem isFinite_ofInt {n : Int} (h : n.natAbs < 2 ^ 64) : (ofInt n).isFinite = true :=
  isFinite_ofRatio _ Nat.one_pos (natAbs_lt_two_zpow h)

end Binary64
end SchemaForm
