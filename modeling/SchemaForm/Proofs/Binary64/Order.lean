import SchemaForm.Proofs.Binary64.Rounding

/-!
# The order of rounded integers

Rounding keeps the order of integers but may make neighbours equal.  Below
`2 ^ 53` every integer has a place of its own, so that an integer of that size
is never rounded to the same number as another one, however large the other is.

Main results:

- Theorem `roundedUnits_le`: of two quotients the greater one is not rounded below the smaller one.
- Theorem `le_ofInt`, Theorem `lt_ofInt`: rounding keeps the order of integers, and the strict order
  when one of them is below `2 ^ 53` in size.
- Theorem `lt_ofInt_iff`, Theorem `le_ofInt_iff`: rounded integers compare as the integers do,
  unless they are rounded to the same place.
- Theorem `eq_of_rank_ofInt_eq`: an integer below `2 ^ 53` in size shares its place with no other.
-/

namespace SchemaForm
/-- Powers of two multiply by adding their exponents. -/
theorem twoTo_add (a b : Nat) : twoTo (a + b) = twoTo a * twoTo b :=
  Nat.pow_add 2 a b

namespace Binary64

/-! ## Sizes -/

/-- On one grid the greater quotient is not rounded below the smaller one. -/
theorem roundHalfEven_le_roundHalfEven {numerator greater denominator : Nat}
    (hdenominator : 0 < denominator) (h : numerator ≤ greater) :
    roundHalfEven numerator denominator ≤ roundHalfEven greater denominator := by
  rcases Nat.lt_or_ge numerator (roundHalfEven greater denominator * denominator) with hbelow | hge
  · exact roundHalfEven_le hdenominator hbelow
  -- The smaller quotient is not below the rounded greater one, so both have the same whole part.
  · have hquotient : numerator / denominator = greater / denominator := by
      refine le_antisymm (Nat.div_le_div_right h) ?_
      refine le_trans ?_ ((Nat.le_div_iff_mul_le hdenominator).mpr hge)
      exact le_roundHalfEven hdenominator (Nat.div_mul_le_self greater denominator)
    have hnumerator := Nat.div_add_mod numerator denominator
    have hgreater := Nat.div_add_mod greater denominator
    rw [hquotient] at hnumerator
    simp only [roundHalfEven, hquotient]
    split_ifs <;> omega

/-- Without a size nothing is left after rounding. -/
theorem roundedUnits_zero {denominator : Nat} (hdenominator : 0 < denominator) :
    roundedUnits 0 denominator = 0 := by
  have hround : ∀ {d : Nat}, 0 < d → roundHalfEven 0 d = 0 :=
    fun hd => roundHalfEven_eq hd (by simp) (by simp) (by simp)
  have hpos := scale_snd_pos 0 hdenominator (ratioExponent 0 denominator)
  simp only [roundedUnits, scale, Nat.zero_mul] at hpos ⊢
  rw [hround hpos, Nat.zero_mul]

/-- Of two quotients with the same denominator the greater one is not rounded below the smaller
one. -/
theorem roundedUnits_le {numerator greater denominator : Nat} (hdenominator : 0 < denominator)
    (h : numerator ≤ greater) :
    roundedUnits numerator denominator ≤ roundedUnits greater denominator := by
  rcases Nat.eq_zero_or_pos numerator with rfl | hnumerator
  · rw [roundedUnits_zero hdenominator]
    exact Nat.zero_le _
  have hfits := fits_ratioExponent hnumerator hdenominator
  have hfits' := fits_ratioExponent (hnumerator.trans_le h) hdenominator
  have hexponent : ratioExponent numerator denominator ≤ ratioExponent greater denominator := by
    refine hfits.le hfits' ?_
    gcongr
  simp only [roundedUnits]
  generalize ratioExponent numerator denominator = exponent at *
  generalize ratioExponent greater denominator = exponent' at *
  rcases hexponent.eq_or_lt with rfl | hless
  · refine Nat.mul_le_mul_right _ (roundHalfEven_le_roundHalfEven ?_ ?_)
    · exact scale_snd_pos numerator hdenominator exponent
    · exact Nat.mul_le_mul_right _ h
  -- On a coarser grid the greater quotient has at least 53 bits, the smaller one at most 53.
  · obtain ⟨hhigh, hleast, -⟩ := hfits
    obtain ⟨-, -, hlow⟩ := hfits'
    have hsmall := roundHalfEven_le (scale_snd_pos numerator hdenominator exponent)
      ((scale_lt_iff hdenominator 53 exponent).mpr hhigh)
    have hlarge := le_roundHalfEven (scale_snd_pos greater hdenominator exponent')
      ((le_scale_iff hdenominator 52 exponent').mpr (hlow.resolve_left (by omega)))
    have hpower : twoTo ((exponent + 1074).toNat + 1) ≤ twoTo (exponent' + 1074).toNat :=
      Nat.pow_le_pow_right (by decide) (by omega)
    calc roundHalfEven _ _ * twoTo (exponent + 1074).toNat
        ≤ twoTo 53 * twoTo (exponent + 1074).toNat := Nat.mul_le_mul_right _ hsmall
      _ = twoTo 52 * twoTo ((exponent + 1074).toNat + 1) := by
          rw [twoTo_succ (exponent + 1074).toNat, twoTo_succ 52]
          ring
      _ ≤ roundHalfEven _ _ * twoTo (exponent' + 1074).toNat := Nat.mul_le_mul hlarge hpower

/-- An integer below `2 ^ 53` has its own size. -/
theorem roundedUnits_one {n : Nat} (h : n < twoTo 53) : roundedUnits n 1 = n * twoTo 1074 := by
  rcases Nat.eq_zero_or_pos n with rfl | hn
  · rw [roundedUnits_zero Nat.one_pos, Nat.zero_mul]
  obtain ⟨-, hleast, hlow⟩ := fits_ratioExponent hn Nat.one_pos
  simp only [roundedUnits]
  generalize ratioExponent n 1 = exponent at *
  -- Such an integer lies on a grid that has all integers.
  have hgreatest : exponent ≤ 0 := by
    rcases hlow with hlow | hlow
    · omega
    · have hsize : ((n : ℚ) / (1 : Nat)) < 2 ^ (53 : Int) := by
        rw [Nat.cast_one, div_one]
        exact_mod_cast h
      have := two_zpow_lt_iff.mp (lt_of_le_of_lt hlow hsize)
      omega
  have hscale : scale n 1 exponent = (n * twoTo (-exponent).toNat, 1) := by
    simp only [scale, Int.toNat_of_nonpos hgreatest]
    rfl
  have hround : roundHalfEven (n * twoTo (-exponent).toNat) 1 = n * twoTo (-exponent).toNat :=
    roundHalfEven_eq Nat.one_pos (by omega) (by omega) (by omega)
  have hpower : twoTo (-exponent).toNat * twoTo (exponent + 1074).toNat = twoTo 1074 := by
    rw [← twoTo_add, show (-exponent).toNat + (exponent + 1074).toNat = 1074 by omega]
  rw [hscale, hround, Nat.mul_assoc, hpower]

/-- An integer below `2 ^ 53` is rounded below every greater one. -/
theorem roundedUnits_lt {n greater : Nat} (h : n < greater) (hn : n < twoTo 53) :
    roundedUnits n 1 < roundedUnits greater 1 := by
  have hnext : roundedUnits n 1 < (n + 1) * twoTo 1074 := by
    rw [roundedUnits_one hn]
    exact Nat.mul_lt_mul_of_pos_right n.lt_succ_self (twoTo_pos 1074)
  refine hnext.trans_le ?_
  rcases Nat.lt_or_ge greater (twoTo 53) with hsmall | hlarge
  · rw [roundedUnits_one hsmall]
    exact Nat.mul_le_mul_right _ h
  · calc (n + 1) * twoTo 1074 ≤ twoTo 53 * twoTo 1074 := Nat.mul_le_mul_right _ hn
      _ = roundedUnits (twoTo 53) 1 := by decide +kernel
      _ ≤ roundedUnits greater 1 := roundedUnits_le Nat.one_pos hlarge

/-! ## Integers -/

/-- The place of an integer of 64 bits is its rounded size with its sign. -/
theorem rank_ofInt {n : Int} (h : n.natAbs < 2 ^ 64) :
    (ofInt n).rank = some (if n < 0 then -(roundedUnits n.natAbs 1 : Int)
      else roundedUnits n.natAbs 1) := by
  by_cases hzero : n = 0
  · subst hzero
    rw [Int.natAbs_zero, roundedUnits_zero Nat.one_pos]
    rfl
  · obtain ⟨significand, exponent, canonical, heq, hsize⟩ :=
      exists_ofRatio_eq (n < 0) (Int.natAbs_pos.mpr hzero) Nat.one_pos (natAbs_lt_two_zpow h)
    rw [ofInt, heq]
    simp only [rank, units, decide_eq_true_eq, ← hsize]
    push_cast
    rfl

variable {a b : Int}

/-- Rounding keeps the order of integers. -/
theorem le_ofInt (ha : a.natAbs < 2 ^ 64) (hb : b.natAbs < 2 ^ 64) (h : a ≤ b) :
    (ofInt a).le (ofInt b) = true := by
  refine le_iff.mpr ⟨_, _, rank_ofInt ha, rank_ofInt hb, ?_⟩
  split_ifs with hasign hbsign hbsign
  · have := roundedUnits_le Nat.one_pos (show b.natAbs ≤ a.natAbs by omega)
    omega
  · omega
  · omega
  · have := roundedUnits_le Nat.one_pos (show a.natAbs ≤ b.natAbs by omega)
    omega

/-- Rounding keeps the strict order of integers when one of them is below `2 ^ 53` in size. -/
theorem lt_ofInt (ha : a.natAbs < 2 ^ 64) (hb : b.natAbs < 2 ^ 64) (h : a < b)
    (hsmall : a.natAbs < 2 ^ 53 ∨ b.natAbs < 2 ^ 53) : (ofInt a).lt (ofInt b) = true := by
  refine lt_iff.mpr ⟨_, _, rank_ofInt ha, rank_ofInt hb, ?_⟩
  have htwo : twoTo 53 = 2 ^ 53 := rfl
  split_ifs with hasign hbsign hbsign
  · have := roundedUnits_lt (show b.natAbs < a.natAbs by omega) (by omega)
    omega
  · have := roundedUnits_lt (show 0 < a.natAbs by omega) (twoTo_pos 53)
    omega
  · omega
  · have := roundedUnits_lt (show a.natAbs < b.natAbs by omega) (by omega)
    omega

/-- Of two finite numbers one is not below the other when the other is at most as great. -/
theorem not_lt_eq_le {x y : Binary64} (hx : x.isFinite = true) (hy : y.isFinite = true) :
    (!x.lt y) = y.le x := by
  obtain ⟨p, hp⟩ := Option.isSome_iff_exists.mp (rank_isSome_of_isFinite hx)
  obtain ⟨q, hq⟩ := Option.isSome_iff_exists.mp (rank_isSome_of_isFinite hy)
  simp [le, lt, hp, hq, ← decide_not, not_lt]

/-- Of two finite numbers one is not at most the other when the other is below it. -/
theorem not_le_eq_lt {x y : Binary64} (hx : x.isFinite = true) (hy : y.isFinite = true) :
    (!x.le y) = y.lt x := by
  rw [← not_lt_eq_le hy hx, Bool.not_not]

/-- A rounded integer is below another one exactly when the integer is, and both have different
places. -/
theorem lt_ofInt_iff (ha : a.natAbs < 2 ^ 64) (hb : b.natAbs < 2 ^ 64) :
    (ofInt a).lt (ofInt b) = true ↔ a < b ∧ (ofInt a).rank ≠ (ofInt b).rank := by
  constructor
  · intro h
    obtain ⟨x, y, hx, hy, hxy⟩ := lt_iff.mp h
    refine ⟨not_le.mp fun hba => ?_, by simp [hx, hy, hxy.ne]⟩
    have hle := le_ofInt hb ha hba
    rw [← not_lt_eq_le (isFinite_ofInt ha) (isFinite_ofInt hb), h] at hle
    cases hle
  · rintro ⟨hab, hne⟩
    obtain ⟨x, y, hx, hy, hxy⟩ := le_iff.mp (le_ofInt ha hb hab.le)
    rw [hx, hy, ne_eq, Option.some.injEq] at hne
    exact lt_iff.mpr ⟨x, y, hx, hy, lt_of_le_of_ne hxy hne⟩

/-- A rounded integer is at most another one exactly when the integer is, or when both have the same
place. -/
theorem le_ofInt_iff (ha : a.natAbs < 2 ^ 64) (hb : b.natAbs < 2 ^ 64) :
    (ofInt a).le (ofInt b) = true ↔ a ≤ b ∨ (ofInt a).rank = (ofInt b).rank := by
  rw [← not_lt_eq_le (isFinite_ofInt hb) (isFinite_ofInt ha), Bool.not_eq_true',
    ← Bool.not_eq_true, lt_ofInt_iff hb ha, not_and_or, not_lt, not_ne_iff, eq_comm]

/-- An integer below `2 ^ 53` in size shares its place with no other one. -/
theorem eq_of_rank_ofInt_eq (ha : a.natAbs < 2 ^ 64) (hb : b.natAbs < 2 ^ 64)
    (hsmall : a.natAbs < 2 ^ 53 ∨ b.natAbs < 2 ^ 53) (h : (ofInt a).rank = (ofInt b).rank) :
    a = b := by
  rcases lt_trichotomy a b with hab | hab | hba
  · exact absurd h ((lt_ofInt_iff ha hb).mp (lt_ofInt ha hb hab hsmall)).2
  · exact hab
  · exact absurd h.symm ((lt_ofInt_iff hb ha).mp (lt_ofInt hb ha hba hsmall.symm)).2

end Binary64
end SchemaForm
