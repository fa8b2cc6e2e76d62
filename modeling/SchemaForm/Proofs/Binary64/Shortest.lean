import SchemaForm.Binary64.Shortest
import SchemaForm.Proofs.Binary64.Rounding

/-!
# The shortest decimal lies in the rounding interval

A decimal of the search is a point of the rounding interval of its number, since
the last grid of the search is finer than the interval is wide.  A decimal in
the interval of a number is rounded to that number.

Main results:

- Theorem `ofRatio_eq`, Theorem `ofDecimal_eq`: a value in the interval of a number is rounded to
  that number.
- Theorem `contains_shortest`: the shortest decimal of a number lies in its interval.
-/

namespace SchemaForm
namespace Binary64

/-! ## Rounding intervals -/

/-- Membership in a rounding interval; the ends belong to a closed one. -/
def Interval.Contains (range : Interval) (value : ℚ) : Prop :=
  range.low * 2 ^ range.exponent ≤ value ∧ value ≤ range.high * 2 ^ range.exponent ∧
    (range.closed = false →
      range.low * 2 ^ range.exponent < value ∧ value < range.high * 2 ^ range.exponent)

/-- The lower end of an interval in quarters of a unit. -/
theorem interval_low {significand : Nat} (hsignificand : 0 < significand) (exponent : Int) :
    ((interval significand exponent).low : ℚ) =
      4 * significand - (if significand = twoTo 52 ∧ exponent ≠ -1074 then 1 else 2) := by
  simp only [interval]
  split_ifs
  · rw [Nat.cast_sub (by omega)]
    push_cast
    ring
  · rw [Nat.cast_sub (by omega)]
    push_cast
    ring

/-- The upper end of an interval in quarters of a unit. -/
theorem interval_high (significand : Nat) (exponent : Int) :
    ((interval significand exponent).high : ℚ) = 4 * significand + 2 := by
  simp [interval]

/-- The interval of a number, counted in quarters of its unit. -/
theorem quarters_of_contains {significand : Nat} {exponent : Int} {value : ℚ}
    (hsignificand : 0 < significand) (h : (interval significand exponent).Contains value) :
    ∃ quarters : ℚ, value = quarters * 2 ^ (exponent - 2) ∧
      4 * significand - (if significand = twoTo 52 ∧ exponent ≠ -1074 then 1 else 2) ≤ quarters ∧
      quarters ≤ 4 * significand + 2 ∧
      (significand % 2 = 1 →
        4 * significand - (if significand = twoTo 52 ∧ exponent ≠ -1074 then 1 else 2) < quarters ∧
          quarters < 4 * significand + 2) := by
  obtain ⟨hlow, hhigh, hopen⟩ := h
  have hpos : (0 : ℚ) < 2 ^ (exponent - 2) := by positivity
  rw [interval_low hsignificand] at hlow hopen
  rw [interval_high] at hhigh hopen
  simp only [interval, decide_eq_false_iff_not] at hlow hhigh hopen
  refine ⟨value / 2 ^ (exponent - 2), (div_mul_cancel₀ _ hpos.ne').symm,
    (le_div_iff₀ hpos).mpr hlow, (div_le_iff₀ hpos).mpr hhigh, ?_⟩
  intro hodd
  obtain ⟨hlow, hhigh⟩ := hopen (by omega)
  exact ⟨(lt_div_iff₀ hpos).mpr hlow, (div_lt_iff₀ hpos).mpr hhigh⟩

/-- Quarters of a unit compared with a power of two. -/
theorem quarters_lt_iff {quarters : ℚ} (bits exponent : Int) :
    quarters * 2 ^ (exponent - 2) < 2 ^ (bits + exponent) ↔ quarters < 2 ^ (bits + 2) := by
  have hpower : (2 : ℚ) ^ (bits + exponent) = 2 ^ (bits + 2) * 2 ^ (exponent - 2) := by
    rw [← two_zpow_add]
    congr 1
    ring
  rw [hpower, mul_lt_mul_iff_left₀ (by positivity)]

/-- In units of a number, a value in its interval is rounded to its significand. -/
theorem roundHalfEven_of_quarters {numerator denominator significand : Nat} {exponent : Int}
    {quarters : ℚ} (hdenominator : 0 < denominator)
    (hvalue : (numerator / denominator : ℚ) = quarters * 2 ^ (exponent - 2))
    (hlow : 4 * (significand : ℚ) - 2 ≤ quarters) (hhigh : quarters ≤ 4 * (significand : ℚ) + 2)
    (hopen : significand % 2 = 1 →
      4 * (significand : ℚ) - 2 < quarters ∧ quarters < 4 * (significand : ℚ) + 2) :
    roundHalfEven (scale numerator denominator exponent).1
      (scale numerator denominator exponent).2 = significand := by
  have hquarters : (numerator / denominator / 2 ^ exponent : ℚ) = quarters / 4 := by
    rw [hvalue, zpow_sub₀ (by norm_num)]
    field_simp
    norm_num
  apply roundHalfEven_scale hdenominator <;> rw [hquarters]
  · linarith
  · linarith
  · intro hodd
    obtain ⟨hlow, hhigh⟩ := hopen hodd
    constructor <;> linarith

/-- A value on the grid of a number that is rounded to its significand gives the number. -/
theorem ofRatio_of_round (negative : Bool) {numerator denominator significand : Nat}
    {exponent : Int} (hnumerator : numerator ≠ 0) (hcanonical : Canonical significand exponent)
    (hexponent : ratioExponent numerator denominator = exponent)
    (hround : roundHalfEven (scale numerator denominator exponent).1
      (scale numerator denominator exponent).2 = significand) :
    ofRatio negative numerator denominator =
      .finite negative significand exponent hcanonical := by
  simp only [ofRatio, hnumerator, if_false, hexponent, hround, if_pos hcanonical.1]
  exact pack_eq hcanonical

/-- A value that is rounded to 54 bits gives a power of two on the next grid. -/
theorem ofRatio_of_carry (negative : Bool) {numerator denominator : Nat} {exponent : Int}
    (hnumerator : numerator ≠ 0) (hcanonical : Canonical (twoTo 52) exponent)
    (hexponent : ratioExponent numerator denominator = exponent - 1)
    (hround : roundHalfEven (scale numerator denominator (exponent - 1)).1
      (scale numerator denominator (exponent - 1)).2 = twoTo 53) :
    ofRatio negative numerator denominator = .finite negative (twoTo 52) exponent hcanonical := by
  have hhalf : twoTo 53 / 2 = twoTo 52 := rfl
  simp only [ofRatio, hnumerator, if_false, hexponent, hround, hhalf, sub_add_cancel]
  exact pack_eq hcanonical

/-- A value in the interval of a number and on its grid is rounded to the number. -/
theorem ofRatio_of_grid (negative : Bool) {numerator denominator significand : Nat}
    {exponent : Int} {quarters : ℚ} (hcanonical : Canonical significand exponent)
    (hnumerator : 0 < numerator) (hdenominator : 0 < denominator)
    (hvalue : (numerator / denominator : ℚ) = quarters * 2 ^ (exponent - 2))
    (hlow : 4 * (significand : ℚ) - 2 ≤ quarters) (hhigh : quarters ≤ 4 * (significand : ℚ) + 2)
    (hopen : significand % 2 = 1 →
      4 * (significand : ℚ) - 2 < quarters ∧ quarters < 4 * (significand : ℚ) + 2)
    (hgrid : exponent = -1074 ∨ 2 ^ (52 + exponent) ≤ (numerator / denominator : ℚ)) :
    ofRatio negative numerator denominator =
      .finite negative significand exponent hcanonical := by
  have habove : (numerator / denominator : ℚ) < 2 ^ (53 + exponent) := by
    have hbits : (significand : ℚ) + 1 ≤ 2 ^ 53 := by
      rw [← cast_twoTo]
      exact_mod_cast hcanonical.1
    rw [hvalue, quarters_lt_iff]
    norm_num at hbits ⊢
    linarith
  exact ofRatio_of_round negative hnumerator.ne' hcanonical
    (ratioExponent_eq hnumerator hdenominator ⟨habove, hcanonical.2.1, hgrid⟩)
    (roundHalfEven_of_quarters hdenominator hvalue hlow hhigh hopen)

/-- A value in the interval of a power of two, but below it, is rounded to it by a carry. -/
theorem ofRatio_of_below (negative : Bool) {numerator denominator : Nat} {exponent : Int}
    {quarters : ℚ} (hcanonical : Canonical (twoTo 52) exponent) (hleast : exponent ≠ -1074)
    (hnumerator : 0 < numerator) (hdenominator : 0 < denominator)
    (hvalue : (numerator / denominator : ℚ) = quarters * 2 ^ (exponent - 2))
    (hlow : 4 * (2 : ℚ) ^ 52 - 1 ≤ quarters) (hbelow : quarters < 4 * (2 : ℚ) ^ 52) :
    ofRatio negative numerator denominator = .finite negative (twoTo 52) exponent hcanonical := by
  -- One grid further down the value has twice as many quarters.
  have hvalue' : (numerator / denominator : ℚ) = 2 * quarters * 2 ^ (exponent - 1 - 2) := by
    have hstep : (2 : ℚ) ^ (exponent - 2) = 2 * 2 ^ (exponent - 1 - 2) := by
      rw [← zpow_one_add₀ (by norm_num)]
      congr 1
      ring
    rw [hvalue, hstep]
    ring
  have hfits : Fits ((numerator : ℚ) / denominator) (exponent - 1) := by
    rw [hvalue', Fits, quarters_lt_iff, ← not_lt (b := (2 : ℚ) ^ _), quarters_lt_iff]
    norm_num at hbelow hlow ⊢
    have hexponent := hcanonical.2.1
    exact ⟨by linarith, by omega, .inr (by linarith)⟩
  refine ofRatio_of_carry negative hnumerator.ne' hcanonical
    (ratioExponent_eq hnumerator hdenominator hfits)
    (roundHalfEven_of_quarters hdenominator hvalue' ?_ ?_ fun hodd => absurd hodd (by decide))
  · rw [cast_twoTo]
    norm_num at hlow ⊢
    linarith
  · rw [cast_twoTo]
    norm_num at hbelow ⊢
    linarith

/-- A value in the interval of a number is rounded to that number. -/
theorem ofRatio_eq (negative : Bool) {numerator denominator significand : Nat} {exponent : Int}
    (hcanonical : Canonical significand exponent) (hsignificand : 0 < significand)
    (hdenominator : 0 < denominator)
    (h : (interval significand exponent).Contains (numerator / denominator)) :
    ofRatio negative numerator denominator =
      .finite negative significand exponent hcanonical := by
  obtain ⟨quarters, hvalue, hlow, hhigh, hopen⟩ := quarters_of_contains hsignificand h
  have hone : (1 : ℚ) ≤ significand := by exact_mod_cast hsignificand
  have hlow' : 4 * (significand : ℚ) - 2 ≤ quarters := by
    split_ifs at hlow <;> linarith
  have hnumerator : 0 < numerator := by
    rcases Nat.eq_zero_or_pos numerator with hzero | hpos
    · have hpower : (2 : ℚ) ^ (exponent - 2) ≠ 0 := by positivity
      have hquarters : quarters = 0 := by simpa [hzero, hpower] using hvalue.symm
      linarith
    · exact hpos
  by_cases hgrid : exponent = -1074 ∨ 2 ^ (52 + exponent) ≤ (numerator / denominator : ℚ)
  · refine ofRatio_of_grid negative hcanonical hnumerator hdenominator hvalue hlow' hhigh ?_ hgrid
    intro hodd
    obtain ⟨hlow, hhigh⟩ := hopen hodd
    exact ⟨by split_ifs at hlow <;> linarith, hhigh⟩
  · rw [not_or, not_le, hvalue, quarters_lt_iff] at hgrid
    obtain ⟨hleast, hbelow⟩ := hgrid
    norm_num at hbelow
    -- Only a power of two has values of its interval below its grid.
    have hpower : significand = twoTo 52 := by
      have hfull : twoTo 52 ≤ significand := hcanonical.2.2.2.resolve_right hleast
      refine le_antisymm (not_lt.mp fun hlarger => ?_) hfull
      have hlarger' : (2 : ℚ) ^ 52 + 1 ≤ significand := by
        rw [← cast_twoTo]
        exact_mod_cast hlarger
      linarith
    subst hpower
    simp only [ne_eq, hleast, not_false_eq_true, and_self, if_true, cast_twoTo] at hlow
    refine ofRatio_of_below negative hcanonical hleast hnumerator hdenominator hvalue hlow ?_
    norm_num
    exact hbelow

/-! ## Decimal grids -/

/-- The value of a decimal. -/
def Decimal.value (d : Decimal) : ℚ :=
  d.digits * 10 ^ d.exponent

/-- The scale that a grid and an interval share. -/
theorem Interval.factors_eq (range : Interval) (grid : Int) :
    ∃ common : ℚ, 0 < common ∧ ((range.factors grid).1 : ℚ) = 10 ^ grid * common ∧
      ((range.factors grid).2 : ℚ) = 2 ^ range.exponent * common := by
  refine ⟨10 ^ (-grid).toNat * 2 ^ (-range.exponent).toNat, by positivity, ?_, ?_⟩
  · simp only [factors, Nat.cast_mul, cast_twoTo, cast_tenTo]
    rw [pow_toNat_eq_zpow_mul (by norm_num) grid]
    ring
  · simp only [factors, Nat.cast_mul, cast_twoTo, cast_tenTo]
    rw [pow_toNat_eq_zpow_mul (by norm_num) range.exponent]
    ring

/-- The test of a grid point is membership of its value in the interval. -/
theorem Interval.holds_iff {range : Interval} {grid : Int} {point : Nat} :
    range.holds grid point = true ↔ range.Contains (point * 10 ^ grid) := by
  obtain ⟨common, hcommon, hstep, hunit⟩ := range.factors_eq grid
  have hle : ∀ a b : Nat, a * (range.factors grid).2 ≤ b * (range.factors grid).1 ↔
      (a : ℚ) * 2 ^ range.exponent ≤ b * 10 ^ grid := by
    intro a b
    rw [← Nat.cast_le (α := ℚ), Nat.cast_mul, Nat.cast_mul, hstep, hunit, ← mul_assoc, ← mul_assoc,
      mul_le_mul_iff_left₀ hcommon]
  have hge : ∀ a b : Nat, b * (range.factors grid).1 ≤ a * (range.factors grid).2 ↔
      (b : ℚ) * 10 ^ grid ≤ a * 2 ^ range.exponent := by
    intro a b
    rw [← Nat.cast_le (α := ℚ), Nat.cast_mul, Nat.cast_mul, hstep, hunit, ← mul_assoc, ← mul_assoc,
      mul_le_mul_iff_left₀ hcommon]
  simp only [holds, Contains]
  split_ifs with hclosed
  · simp [hclosed, hle, hge]
  · simp only [Bool.and_eq_true, decide_eq_true_eq, ← not_le, hle, hge]
    simp only [not_le, hclosed, forall_const]
    exact ⟨fun ⟨hlow, hhigh⟩ => ⟨hlow.le, hhigh.le, hlow, hhigh⟩, fun ⟨_, _, hopen⟩ => hopen⟩

/-- The point that a grid offers lies in the interval and is not zero. -/
theorem Interval.holds_of_nearest? {range : Interval} {tie : Tie} {grid : Int} {point : Nat}
    (h : range.nearest? tie grid = some point) :
    range.holds grid point = true ∧ point ≠ 0 := by
  simp only [nearest?] at h
  generalize hbelow : range.middle * (range.factors grid).2 / (range.factors grid).1 = below at h
  have hoffer : (range.holds grid below = true ∧ below ≠ 0 ∧ point = below) ∨
      (range.holds grid (below + 1) = true ∧ point = below + 1) := by
    cases tie <;> grind
  rcases hoffer with ⟨hholds, hzero, rfl⟩ | ⟨hholds, rfl⟩
  · exact ⟨hholds, hzero⟩
  · exact ⟨hholds, Nat.succ_ne_zero _⟩

/-- A grid that is finer than the upper half of an interval offers a point. -/
theorem Interval.nearest?_isSome {range : Interval} (tie : Tie) {grid : Int}
    (hlow : range.low ≤ range.middle) (hhigh : range.middle + 2 ≤ range.high)
    (h : (10 : ℚ) ^ grid < 2 ^ (range.exponent + 1)) : (range.nearest? tie grid).isSome = true := by
  obtain ⟨common, hcommon, hstep, hunit⟩ := range.factors_eq grid
  have hfine : (range.factors grid).1 < 2 * (range.factors grid).2 := by
    rw [← Nat.cast_lt (α := ℚ), Nat.cast_mul, hstep, hunit]
    have hscaled := mul_lt_mul_of_pos_right h hcommon
    rw [two_zpow_add] at hscaled
    push_cast
    linarith
  have hpositive : 0 < (range.factors grid).1 := Nat.mul_pos (tenTo_pos _) (twoTo_pos _)
  have hdown := Nat.div_mul_le_self (range.middle * (range.factors grid).2) (range.factors grid).1
  have hover := Nat.lt_mul_div_succ (range.middle * (range.factors grid).2) hpositive
  have hup : range.holds grid
      (range.middle * (range.factors grid).2 / (range.factors grid).1 + 1) = true := by
    have hless := Nat.mul_le_mul_right (range.factors grid).2 hlow
    have hmore := Nat.mul_le_mul_right (range.factors grid).2 hhigh
    simp only [holds]
    generalize range.middle * (range.factors grid).2 / (range.factors grid).1 = below at *
    rw [Nat.mul_comm (range.factors grid).1] at hover
    rw [Nat.add_mul] at hover hmore
    split_ifs <;> simp only [Bool.and_eq_true, decide_eq_true_eq, Nat.add_mul] <;> omega
  simp only [nearest?, hup]
  cases tie <;> grind

/-- A search whose last grid offers a point ends with a point of the interval. -/
theorem Interval.holds_search {range : Interval} {tie : Tie} {steps : Nat} {grid : Int}
    (h : (range.nearest? tie (grid - steps)).isSome = true) :
    range.holds (range.search tie (steps + 1) grid).exponent
        (range.search tie (steps + 1) grid).digits = true ∧
      (range.search tie (steps + 1) grid).digits ≠ 0 := by
  induction steps generalizing grid with
  | zero =>
      rw [Nat.cast_zero, Int.sub_zero] at h
      obtain ⟨point, hpoint⟩ := Option.isSome_iff_exists.mp h
      simp only [search, hpoint]
      exact holds_of_nearest? hpoint
  | succ steps ih =>
      rw [search]
      split
      · rename_i point hpoint
        exact holds_of_nearest? hpoint
      · apply ih
        rw [Nat.cast_succ] at h
        rwa [show grid - 1 - (steps : Int) = grid - (steps + 1) by ring]

/-! ## The shortest decimal -/

/-- A power of ten is little more than the power of two whose binary logarithm it approximates. -/
theorem ten_zpow_lt {power bits : Int} (h : 100000 * power ≤ 30103 * bits)
    (hleast : -1200 ≤ bits) (hgreatest : bits ≤ 1200) : (10 : ℚ) ^ power < 2 ^ (bits + 12) := by
  rcases Int.le_total 0 power with hpower | hpower
  · -- A thousand is less than ten bits.
    obtain ⟨n, rfl⟩ := Int.eq_ofNat_of_zero_le hpower
    refine lt_of_pow_lt_pow_left₀ 3 (by positivity) ?_
    calc ((10 : ℚ) ^ (n : Int)) ^ 3 = (10 ^ 3) ^ n := by
          rw [zpow_natCast, ← pow_mul, ← pow_mul, Nat.mul_comm]
      _ ≤ (2 ^ 10) ^ n := by gcongr; norm_num
      _ = 2 ^ (10 * (n : Int)) := by rw [← pow_mul, ← zpow_natCast]; push_cast; rfl
      _ < 2 ^ ((bits + 12) * 3) := two_zpow_lt_iff.mpr (by omega)
      _ = (2 ^ (bits + 12)) ^ 3 := by rw [zpow_mul]; rfl
  · -- Ten digits are more than 33 bits.
    obtain ⟨n, hn⟩ := Int.eq_ofNat_of_zero_le (Int.neg_nonneg_of_nonpos hpower)
    obtain rfl : power = -(n : Int) := by omega
    refine lt_of_pow_lt_pow_left₀ 10 (by positivity) ?_
    calc ((10 : ℚ) ^ (-(n : Int))) ^ 10 = ((10 ^ 10) ^ n)⁻¹ := by
          rw [zpow_neg, zpow_natCast, inv_pow, ← pow_mul, ← pow_mul, Nat.mul_comm]
      _ ≤ ((2 ^ 33) ^ n)⁻¹ := by gcongr; norm_num
      _ = 2 ^ (-(33 * (n : Int))) := by
          rw [← pow_mul, ← zpow_natCast, ← zpow_neg]
          push_cast
          rfl
      _ < 2 ^ ((bits + 12) * 10) := two_zpow_lt_iff.mpr (by omega)
      _ = (2 ^ (bits + 12)) ^ 10 := by rw [zpow_mul]; rfl

/-- The last grid of the search for a decimal is finer than the interval of the number. -/
theorem last_grid_lt {significand : Nat} {exponent : Int}
    (hcanonical : Canonical significand exponent) (hsignificand : 0 < significand) :
    (10 : ℚ) ^ (((Nat.log2 significand : Int) + exponent + 1) * 30103 / 100000 + 2 - 23) <
      2 ^ (exponent - 2 + 1) := by
  obtain ⟨hbits, hleast, hgreatest, -⟩ := hcanonical
  have hlog : Nat.log2 significand < 53 := (Nat.log2_lt hsignificand.ne').mpr hbits
  generalize Nat.log2 significand = log at *
  have hmagnitude : (10 : ℚ) ^ (((log : Int) + exponent + 1) * 30103 / 100000) <
      2 ^ ((log : Int) + exponent + 1 + 12) :=
    ten_zpow_lt (by omega) (by omega) (by omega)
  generalize ((log : Int) + exponent + 1) * 30103 / 100000 = magnitude at *
  calc (10 : ℚ) ^ (magnitude + 2 - 23) = 10 ^ magnitude * 10 ^ (-21 : Int) := by
        rw [← zpow_add₀ (by norm_num)]
        congr 1
        ring
    _ < 2 ^ ((log : Int) + exponent + 1 + 12) * 2 ^ (-66 : Int) := by
        have hdigits : (10 : ℚ) ^ (-21 : Int) < 2 ^ (-66 : Int) := by norm_num
        gcongr
    _ = 2 ^ ((log : Int) + exponent + 1 + 12 - 66) := by rw [← two_zpow_add]; congr 1
    _ ≤ 2 ^ (exponent - 2 + 1) := zpow_le_zpow_right₀ (by norm_num) (by omega)

/-- The shortest decimal of a number lies in its interval and is not zero. -/
theorem contains_shortest (tie : Tie) {significand : Nat} {exponent : Int}
    (hcanonical : Canonical significand exponent) (hsignificand : 0 < significand) :
    (interval significand exponent).Contains (shortest tie significand exponent).value ∧
      (shortest tie significand exponent).digits ≠ 0 := by
  have hoffer : ((interval significand exponent).nearest? tie
      (((Nat.log2 significand : Int) + exponent + 1) * 30103 / 100000 + 2 - (23 : Nat))).isSome =
        true :=
    Interval.nearest?_isSome tie (Nat.sub_le _ _) le_rfl (last_grid_lt hcanonical hsignificand)
  obtain ⟨hholds, hdigits⟩ := Interval.holds_search hoffer
  exact ⟨Interval.holds_iff.mp hholds, hdigits⟩

/-! ## Decimals near a number -/

/-- The size of a decimal by its binary logarithm and eight as a bound for ten. -/
theorem decimal_lt {digits : Nat} {exponent : Int} (hexponent : exponent ≤ 0) :
    (digits : ℚ) * 10 ^ exponent < 2 ^ ((Nat.log2 digits : Int) + 1 + 3 * exponent) := by
  obtain ⟨n, hn⟩ := Int.eq_ofNat_of_zero_le (Int.neg_nonneg_of_nonpos hexponent)
  obtain rfl : exponent = -(n : Int) := by omega
  have hdigits : (digits : ℚ) < 2 ^ ((Nat.log2 digits : Int) + 1) := by
    exact_mod_cast Nat.lt_log2_self (n := digits)
  have hpower : (10 : ℚ) ^ (-(n : Int)) ≤ 2 ^ (3 * -(n : Int)) := by
    rw [zpow_mul, zpow_neg, zpow_neg, zpow_natCast, zpow_natCast]
    gcongr
    norm_num
  rw [two_zpow_add]
  calc (digits : ℚ) * 10 ^ (-(n : Int))
      < 2 ^ ((Nat.log2 digits : Int) + 1) * 10 ^ (-(n : Int)) := by gcongr
    _ ≤ 2 ^ ((Nat.log2 digits : Int) + 1) * 2 ^ (3 * -(n : Int)) := by gcongr

/-- The interval of a number lies above the least power of two in use. -/
theorem le_of_contains {significand : Nat} {exponent : Int} {value : ℚ}
    (hcanonical : Canonical significand exponent) (hsignificand : 0 < significand)
    (h : (interval significand exponent).Contains value) : (2 : ℚ) ^ (-1075 : Int) ≤ value := by
  obtain ⟨quarters, rfl, hlow, -⟩ := quarters_of_contains hsignificand h
  have hone : (1 : ℚ) ≤ significand := by exact_mod_cast hsignificand
  have hquarters : (2 : ℚ) ^ (1 : Int) ≤ quarters := by
    split_ifs at hlow <;> norm_num <;> linarith
  calc (2 : ℚ) ^ (-1075 : Int) ≤ 2 ^ (1 + (exponent - 2)) :=
        zpow_le_zpow_right₀ (by norm_num) (by have := hcanonical.2.1; omega)
    _ = 2 ^ (1 : Int) * 2 ^ (exponent - 2) := two_zpow_add _ _
    _ ≤ quarters * 2 ^ (exponent - 2) := by gcongr

/-- A decimal in the interval of a number is rounded to that number. -/
theorem ofDecimal_eq (negative : Bool) {digits significand : Nat} {power exponent : Int}
    (hcanonical : Canonical significand exponent) (hsignificand : 0 < significand)
    (hdigits : digits ≠ 0) (hpower : power ≤ 0)
    (h : (interval significand exponent).Contains (digits * 10 ^ power)) :
    ofDecimal negative digits power = .finite negative significand exponent hcanonical := by
  have hsize : ¬(Nat.log2 digits : Int) + 1 + 3 * power < -1100 := by
    have hlow := lt_of_le_of_lt (le_of_contains hcanonical hsignificand h) (decimal_lt hpower)
    have := two_zpow_lt_iff.mp hlow
    omega
  simp only [ofDecimal, hdigits, if_false, hsize, show ¬400 < power by omega]
  apply ofRatio_eq negative hcanonical hsignificand (tenTo_pos _)
  convert h using 1
  rw [Nat.cast_mul, cast_tenTo, cast_tenTo, pow_toNat_eq_zpow_mul (by norm_num) power]
  field_simp

end Binary64
end SchemaForm
