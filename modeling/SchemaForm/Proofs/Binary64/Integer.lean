import SchemaForm.Bounds
import SchemaForm.Proofs.Binary64.Text
import SchemaForm.Rule.Basic

/-!
# Integers as numbers

The text of an integer is also that of a number, and the number depends on the
integer only: a plus sign and leading zeros do not count.  Zero is the exception,
because a minus sign before it is kept, but both zeros have the same place on the
number line.  So bounds tell no difference between a text of an integer and
the decimal text of the integer.

Main results:

- Theorem `exists_digits_of_read`: the text of an integer is a run of digits after a sign, if any.
- Theorem `exists_read_of_integer`: such a text is read as the number nearest to the integer.
- Theorem `Rule.number?_toString`: the decimal text of an integer has the rank of the text that the
  integer was read from.
- Theorem `Rule.exists_number?_toString`: it has the rank of the integer.
-/

namespace SchemaForm

namespace Text.Integer

/-! ## Texts of integers -/

/-- A character with a value is a digit. -/
theorem isDigit_of_digit? {c : Char} {d : Nat} (h : digit? c = some d) :
    c.isDigit = true ∧ d = c.toNat - '0'.toNat := by
  unfold digit? at h
  split at h
  · rename_i hrange
    exact ⟨Char.isDigit_iff_toNat.mpr hrange, (Option.some.inj h).symm⟩
  · cases h

/-- What is read by appending digits to a number that is not negative consists of digits, and is
their number. -/
theorem digits_of_readUp {range : Range} {cs : List Char} {value : Nat} {n : Int}
    (h : readUp range value cs = .ok n) :
    (∀ c ∈ cs, c.isDigit = true) ∧ n = Nat.ofDigitChars 10 cs value := by
  induction cs generalizing value with
  | nil =>
      cases h
      exact ⟨by simp, rfl⟩
  | cons c rest ih =>
      simp only [readUp] at h
      split at h
      · cases h
      · rename_i d hd
        obtain ⟨hdigit, rfl⟩ := isDigit_of_digit? hd
        split at h
        · have hrest := @ih (value * 10 + (c.toNat - '0'.toNat)) (by push_cast; exact h)
          obtain ⟨hdigits, hvalue⟩ := hrest
          refine ⟨List.forall_mem_cons.mpr ⟨hdigit, hdigits⟩, ?_⟩
          rw [hvalue, Nat.ofDigitChars_cons, Nat.mul_comm]
        · cases h

/-- What is read by appending digits to a number that is not positive consists of digits, and is the
opposite of their number. -/
theorem digits_of_readDown {range : Range} {cs : List Char} {value : Nat} {n : Int}
    (h : readDown range (-value) cs = .ok n) :
    (∀ c ∈ cs, c.isDigit = true) ∧ n = -(Nat.ofDigitChars 10 cs value : Int) := by
  induction cs generalizing value with
  | nil =>
      cases h
      exact ⟨by simp, rfl⟩
  | cons c rest ih =>
      simp only [readDown] at h
      split at h
      · cases h
      · rename_i d hd
        obtain ⟨hdigit, rfl⟩ := isDigit_of_digit? hd
        split at h
        · have hnext : -(value : Int) * 10 - ((c.toNat - '0'.toNat : Nat) : Int) =
              -((value * 10 + (c.toNat - '0'.toNat) : Nat) : Int) := by
            push_cast
            omega
          rw [hnext] at h
          obtain ⟨hdigits, hvalue⟩ := ih h
          refine ⟨List.forall_mem_cons.mpr ⟨hdigit, hdigits⟩, ?_⟩
          rw [hvalue, Nat.ofDigitChars_cons, Nat.mul_comm]
        · cases h

/-- The text of an integer is a run of digits, perhaps after a sign. -/
theorem exists_digits_of_read {range : Range} {cs : List Char} {n : Int}
    (h : read range cs = .ok n) :
    ∃ digits, digits ≠ [] ∧ (∀ c ∈ digits, c.isDigit = true) ∧
      (cs = '-' :: digits ∧ n = -(Nat.ofDigitChars 10 digits 0 : Int) ∨
        (cs = '+' :: digits ∨ cs = digits) ∧ n = Nat.ofDigitChars 10 digits 0) := by
  unfold read at h
  split at h
  · cases h
  · cases h
  · cases h
  · rename_i rest hrest
    obtain ⟨hdigits, hvalue⟩ := @digits_of_readUp range rest 0 n h
    exact ⟨rest, fun hnil => hrest (by rw [hnil]), hdigits, .inr ⟨.inl rfl, hvalue⟩⟩
  · rename_i rest hrest
    split at h
    · obtain ⟨hdigits, hvalue⟩ := @digits_of_readDown range rest 0 n h
      exact ⟨rest, fun hnil => hrest (by rw [hnil]), hdigits, .inl ⟨rfl, hvalue⟩⟩
    · cases h
  · rename_i hempty _ _ _ _
    obtain ⟨hdigits, hvalue⟩ := @digits_of_readUp range cs 0 n h
    exact ⟨cs, hempty, hdigits, .inr ⟨.inr rfl, hvalue⟩⟩

/-- An integer is in a range when it lies between the ends. -/
theorem contains_eq_true_iff {range : Range} {n : Int} :
    range.contains n = true ↔ range.least ≤ n ∧ n ≤ range.greatest := by
  simp [Range.contains]

/-- An integer of 64 signed bits has a size of 64 bits. -/
theorem natAbs_lt_of_signed64 {n : Int} (h : signed64.contains n = true) : n.natAbs < 2 ^ 64 := by
  obtain ⟨hleast, hgreatest⟩ := contains_eq_true_iff.mp h
  simp only [signed64] at hleast hgreatest
  omega

end Text.Integer

/-! ## Integers as numbers -/

namespace Binary64

/-- A plus sign before a digit does not count. -/
theorem read_plus {c : Char} {rest : List Char} {x : Binary64} (h : c.isDigit = true)
    (hx : readDecimal? false (c :: rest) = some x) : read ('+' :: c :: rest) = .ok x := by
  simp [read, readUnsigned?_of_digit false h, hx]

/-- A run of digits is a number, and so it is after a sign. -/
theorem read_digits {digits : List Char} (hdigits : digits ≠ [])
    (h : ∀ c ∈ digits, c.isDigit = true) :
    read digits = .ok (ofDecimal false (Nat.ofDigitChars 10 digits 0) 0) ∧
      read ('+' :: digits) = .ok (ofDecimal false (Nat.ofDigitChars 10 digits 0) 0) ∧
        read ('-' :: digits) = .ok (ofDecimal true (Nat.ofDigitChars 10 digits 0) 0) := by
  have hdecimal : ∀ negative, readDecimal? negative digits =
      some (ofDecimal negative (Nat.ofDigitChars 10 digits 0) 0) := by
    intro negative
    have hread := readDecimal?_of_layout negative (.whole digits) hdigits (by simpa using h)
    rwa [List.append_nil, digitsValue_eq] at hread
  obtain ⟨c, rest, rfl⟩ := List.exists_cons_of_ne_nil hdigits
  have hc := h c List.mem_cons_self
  exact ⟨read_of_digit hc (hdecimal false), read_plus hc (hdecimal false),
    read_minus hc (hdecimal true)⟩

/-- The text of an integer is read as the number nearest to the integer, in which only a minus sign
before zero shows. -/
theorem exists_read_of_integer {range : Text.Integer.Range} {cs : List Char} {n : Int}
    (h : Text.Integer.read range cs = .ok n) :
    ∃ negative, read cs = .ok (ofDecimal negative n.natAbs 0) ∧
      (n ≠ 0 → negative = decide (n < 0)) := by
  obtain ⟨digits, hne, hdigits, hsign⟩ := Text.Integer.exists_digits_of_read h
  obtain ⟨hplain, hplus, hminus⟩ := read_digits hne hdigits
  rcases hsign with ⟨rfl, rfl⟩ | ⟨rfl | rfl, rfl⟩
  · refine ⟨true, by rw [hminus, Int.natAbs_neg, Int.natAbs_natCast], fun hzero => ?_⟩
    rw [eq_comm, decide_eq_true_eq]
    omega
  · refine ⟨false, by rw [hplus, Int.natAbs_natCast], fun _ => ?_⟩
    rw [eq_comm, decide_eq_false_iff_not]
    omega
  · refine ⟨false, by rw [hplain, Int.natAbs_natCast], fun _ => ?_⟩
    rw [eq_comm, decide_eq_false_iff_not]
    omega

/-- An integer but zero is nearest to the same number whether its digits are read or its value is
taken. -/
theorem ofDecimal_natAbs {n : Int} (h : n ≠ 0) :
    ofDecimal (decide (n < 0)) n.natAbs 0 = ofInt n := by
  have hsize : ¬ ((Nat.log2 n.natAbs : Int) + 1 < -1100) := by omega
  have hone : tenTo 0 = 1 := rfl
  simp [ofDecimal, h, hsize, hone, ofInt]

/-- Both zeros have the same place on the number line. -/
theorem rank_zero (negative : Bool) : (zero negative).rank = some 0 := by
  cases negative <;> rfl

/-- Numbers with the same place on the number line are within the same bounds. -/
theorem contains_congr {x y : Binary64} (h : x.rank = y.rank) (bounds : Bounds) :
    bounds.contains x = bounds.contains y := by
  simp only [Bounds.contains, lt, le, h]

end Binary64

namespace Rule

/-- A text is a finite number when it is read as one. -/
theorem number?_eq_some {text : String} {x : Binary64} :
    number? text = some x ↔
      Binary64.read (Text.trim text.toList) = .ok x ∧ x.isFinite = true := by
  unfold number?
  cases Binary64.read (Text.trim text.toList) with
  | error fault => simp
  | ok y =>
      simp only [Option.ite_none_right_eq_some, Option.some.injEq, Except.ok.injEq]
      constructor
      · rintro ⟨hy, rfl⟩
        exact ⟨rfl, hy⟩
      · rintro ⟨rfl, hy⟩
        exact ⟨hy, rfl⟩

/-- A text that is an integer is the same number as the decimal text of the integer, but perhaps for
the sign of zero. -/
theorem number?_toString {text : String} {n : Int} {x : Binary64}
    (hn : Text.Integer.read Text.Integer.signed64 (Text.trim text.toList) = .ok n)
    (hx : number? text = some x) :
    ∃ y, number? (toString n) = some y ∧ y.rank = x.rank := by
  obtain ⟨hread, hfinite⟩ := number?_eq_some.mp hx
  obtain ⟨hleast, hgreatest⟩ := Text.Integer.read_le hn
  have hsame := Text.Integer.read_trim_toString hleast hgreatest
  obtain ⟨negative, hnumber, hsign⟩ := Binary64.exists_read_of_integer hn
  obtain ⟨negative', hnumber', hsign'⟩ := Binary64.exists_read_of_integer hsame
  rw [hread, Except.ok.injEq] at hnumber
  by_cases hzero : n = 0
  · subst hzero
    refine ⟨.zero negative', number?_eq_some.mpr ⟨hnumber', rfl⟩, ?_⟩
    have hx : x = .zero negative := hnumber
    rw [hx, Binary64.rank_zero, Binary64.rank_zero]
  · rw [hsign' hzero, ← hsign hzero, ← hnumber] at hnumber'
    exact ⟨x, number?_eq_some.mpr ⟨hnumber', hfinite⟩, rfl⟩

/-- The decimal text of an integer is a number with the place of the integer. -/
theorem exists_number?_toString {n : Int} (h : Text.Integer.signed64.contains n = true) :
    ∃ x, number? (toString n) = some x ∧ x.rank = (Binary64.ofInt n).rank := by
  obtain ⟨hleast, hgreatest⟩ := Text.Integer.contains_eq_true_iff.mp h
  have hsame := Text.Integer.read_trim_toString hleast hgreatest
  obtain ⟨negative, hnumber, hsign⟩ := Binary64.exists_read_of_integer hsame
  by_cases hzero : n = 0
  · subst hzero
    refine ⟨.zero negative, number?_eq_some.mpr ⟨hnumber, rfl⟩, ?_⟩
    rw [Binary64.rank_zero, Binary64.ofInt_zero, Binary64.rank_zero]
  · rw [hsign hzero, Binary64.ofDecimal_natAbs hzero] at hnumber
    have hfinite := Binary64.isFinite_ofInt (Text.Integer.natAbs_lt_of_signed64 h)
    exact ⟨_, number?_eq_some.mpr ⟨hnumber, hfinite⟩, rfl⟩

end Rule
end SchemaForm
