import Mathlib.Data.List.TakeDrop
import SchemaForm.Binary64.Reading
import SchemaForm.Proofs.Binary64.Shortest
import SchemaForm.Proofs.Text.Digits

/-!
# Plain text of a number reads back

The plain layout of a decimal is a run of digits with at most one point, and
its digits and the place of the point give the decimal back.  Since the
shortest decimal of a finite number is rounded to that number, so is its text.

Main results:

- Theorem `exists_layout`: the layout of a decimal keeps its value.
- Theorem `read_trim_plain`: the plain text of a finite number reads back as the number.
-/

namespace SchemaForm
namespace Binary64

/-! ## Digits and a point -/

/-- The digits before a character of another kind are split off. -/
theorem spanDigits_append {digits : List Char} (rest : List Char)
    (hdigits : ∀ c ∈ digits, c.isDigit = true) (hrest : ∀ c ∈ rest.head?, c.isDigit = false) :
    spanDigits (digits ++ rest) = (digits, rest) := by
  rw [spanDigits, List.span_eq_takeWhile_dropWhile, List.takeWhile_append_of_pos hdigits,
    List.dropWhile_append_of_pos hdigits]
  cases rest with
  | nil => simp
  | cons c rest => simp [hrest c rfl]

theorem digitsValue_eq (cs : List Char) : digitsValue cs = Nat.ofDigitChars 10 cs 0 := by
  simp [digitsValue, Nat.ofDigitChars, Nat.mul_comm]

/-- The texts of digits with at most one point after the first of them. -/
inductive Layout : List Char → List Char → List Char → Prop
  | whole (digits : List Char) : Layout digits digits []
  | point (whole fraction : List Char) : Layout (whole ++ '.' :: fraction) whole fraction

/-- A text of digits with at most one point is read by its digits and the place of the point. -/
theorem readDecimal?_of_layout (negative : Bool) {cs whole fraction : List Char}
    (hlayout : Layout cs whole fraction) (hwhole : whole ≠ [])
    (hdigits : ∀ c ∈ whole ++ fraction, c.isDigit = true) :
    readDecimal? negative cs =
      some (ofDecimal negative (digitsValue (whole ++ fraction)) (-(fraction.length : Int))) := by
  cases hlayout with
  | whole =>
      have hspan := spanDigits_append []
        (fun c hc => hdigits c (List.mem_append_left _ hc)) (by simp)
      rw [List.append_nil] at hspan
      simp [readDecimal?, hspan, hwhole]
  | point =>
      have hspan := spanDigits_append ('.' :: fraction)
        (fun c hc => hdigits c (List.mem_append_left _ hc)) (by simp)
      have hspan' := spanDigits_append []
        (fun c hc => hdigits c (List.mem_append_right _ hc)) (by simp)
      rw [List.append_nil] at hspan'
      simp [readDecimal?, hspan, hspan', hwhole]

/-- The layout of a decimal keeps its value. -/
theorem exists_layout (d : Decimal) :
    ∃ whole fraction, Layout (d.positional "").toList whole fraction ∧ whole ≠ [] ∧
      (∀ c ∈ whole ++ fraction, c.isDigit = true) ∧
      (digitsValue (whole ++ fraction) : ℚ) * 10 ^ (-(fraction.length : Int)) = d.value := by
  have hdigits : ∀ c ∈ Nat.toDigits 10 d.digits, c.isDigit = true := fun c hc =>
    Text.isDigit_of_mem hc
  simp only [Decimal.positional]
  split_ifs with hexponent hpoint
  · refine ⟨_, [], by simpa using Layout.whole _, by simp [Nat.toDigits_ne_nil], ?_, ?_⟩
    · intro c hc
      simp only [List.append_nil, List.mem_append, List.mem_replicate] at hc
      rcases hc with hc | ⟨-, rfl⟩
      · exact hdigits c hc
      · rfl
    · rw [List.append_nil, digitsValue_eq, Nat.ofDigitChars_append, Nat.ofDigitChars_ten_toDigits,
        Nat.ofDigitChars_replicate_zero, Decimal.value]
      push_cast
      rw [← zpow_natCast, Int.toNat_of_nonneg hexponent]
      simp [mul_comm]
  · have hlength : (Nat.toDigits 10 d.digits).length ≠ 0 := by simp [Nat.toDigits_ne_nil]
    refine ⟨_, _, by simpa using Layout.point _ _, ?_, ?_, ?_⟩
    · rw [ne_eq, List.take_eq_nil_iff, not_or]
      exact ⟨by omega, Nat.toDigits_ne_nil⟩
    · rw [List.take_append_drop]
      exact hdigits
    · rw [List.take_append_drop, digitsValue_eq, Nat.ofDigitChars_ten_toDigits, Decimal.value]
      congr 2
      rw [List.length_drop]
      omega
  · refine ⟨['0'], _, by simpa using Layout.point ['0'] _, by simp, ?_, ?_⟩
    · intro c hc
      simp only [List.cons_append, List.nil_append, List.mem_cons, List.mem_append,
        List.mem_replicate] at hc
      rcases hc with rfl | ⟨-, rfl⟩ | hc
      · rfl
      · rfl
      · exact hdigits c hc
    · rw [digitsValue_eq, ← List.append_assoc, Nat.ofDigitChars_append, Nat.ofDigitChars_append,
        Nat.ofDigitChars_replicate_zero, show Nat.ofDigitChars 10 ['0'] 0 = 0 from rfl,
        Nat.mul_zero, Nat.ofDigitChars_ten_toDigits, Decimal.value]
      congr 2
      rw [List.length_append, List.length_replicate]
      omega

/-! ## Signs -/

/-- A text that starts with a digit is no word. -/
theorem readUnsigned?_of_digit (negative : Bool) {c : Char} {rest : List Char}
    (h : c.isDigit = true) :
    readUnsigned? negative (c :: rest) = readDecimal? negative (c :: rest) := by
  have hlower : c.toLower = c := by
    have hrange : 48 ≤ c.toNat ∧ c.toNat ≤ 57 := Char.isDigit_iff_toNat.mp h
    have hupper : ¬(c.val ≥ 'A'.val ∧ c.val ≤ 'Z'.val) := by
      simp only [ge_iff_le, UInt32.le_iff_toNat_le, not_and, not_le]
      intro hlow
      exact absurd (le_trans hlow hrange.2) (by decide)
    exact dif_neg hupper
  have hne : c ≠ 'i' ∧ c ≠ 'n' := by
    constructor <;> (rintro rfl; cases h)
  simp [readUnsigned?, hlower, hne.1, hne.2]

/-- A text that starts with a digit is read without a sign. -/
theorem read_of_digit {c : Char} {rest : List Char} {x : Binary64} (h : c.isDigit = true)
    (hx : readDecimal? false (c :: rest) = some x) : read (c :: rest) = .ok x := by
  have hplus : c ≠ '+' := by rintro rfl; cases h
  have hminus : c ≠ '-' := by rintro rfl; cases h
  simp [read, hplus, hminus, readUnsigned?_of_digit false h, hx]

/-- A minus sign before a digit makes the number negative. -/
theorem read_minus {c : Char} {rest : List Char} {x : Binary64} (h : c.isDigit = true)
    (hx : readDecimal? true (c :: rest) = some x) : read ('-' :: c :: rest) = .ok x := by
  simp [read, readUnsigned?_of_digit true h, hx]

theorem isBlank_of_layout {cs whole fraction : List Char} (hlayout : Layout cs whole fraction)
    (hdigits : ∀ c ∈ whole ++ fraction, c.isDigit = true) : ∀ c ∈ cs, Text.isBlank c = false := by
  intro c hc
  cases hlayout with
  | whole => exact Text.isBlank_of_isDigit (hdigits c (List.mem_append_left _ hc))
  | point =>
      rcases List.mem_append.mp hc with hc | hc
      · exact Text.isBlank_of_isDigit (hdigits c (List.mem_append_left _ hc))
      · rcases List.mem_cons.mp hc with rfl | hc
        · rfl
        · exact Text.isBlank_of_isDigit (hdigits c (List.mem_append_right _ hc))

theorem exists_digit_of_layout {cs whole fraction : List Char} (hlayout : Layout cs whole fraction)
    (hwhole : whole ≠ []) (hdigits : ∀ c ∈ whole ++ fraction, c.isDigit = true) :
    ∃ c rest, cs = c :: rest ∧ c.isDigit = true := by
  obtain ⟨c, digits, rfl⟩ := List.exists_cons_of_ne_nil hwhole
  have hc := hdigits c (by simp)
  cases hlayout with
  | whole => exact ⟨c, digits, rfl, hc⟩
  | point => exact ⟨c, digits ++ '.' :: fraction, rfl, hc⟩

/-- A text of digits with at most one point is read with the sign before it. -/
theorem read_trim_sign {negative : Bool} {text : String} {whole fraction : List Char}
    (hlayout : Layout text.toList whole fraction) (hwhole : whole ≠ [])
    (hdigits : ∀ c ∈ whole ++ fraction, c.isDigit = true) :
    read (Text.trim (signText negative ++ text).toList) =
      .ok (ofDecimal negative (digitsValue (whole ++ fraction)) (-(fraction.length : Int))) := by
  have hread := readDecimal?_of_layout negative hlayout hwhole hdigits
  have hblank := isBlank_of_layout hlayout hdigits
  obtain ⟨c, rest, htext, hc⟩ := exists_digit_of_layout hlayout hwhole hdigits
  rw [String.toList_append]
  rw [htext] at hread hblank ⊢
  cases negative with
  | false =>
      rw [show (signText false).toList = [] from rfl, List.nil_append, Text.trim_eq_self hblank]
      exact read_of_digit hc hread
  | true =>
      rw [show (signText true).toList = ['-'] from rfl, List.singleton_append,
        Text.trim_eq_self (List.forall_mem_cons.mpr ⟨rfl, hblank⟩)]
      exact read_minus hc hread

/-- The plain text of a finite number reads back as the number. -/
theorem read_trim_plain {x : Binary64} (hx : x.isFinite = true) :
    read (Text.trim x.plain.toList) = .ok x := by
  cases x with
  | finite negative significand exponent hcanonical =>
      by_cases hzero : significand = 0
      · subst hzero
        have hexponent : exponent = -1074 :=
          hcanonical.2.2.2.resolve_left (Nat.not_le.mpr (twoTo_pos 52))
        subst hexponent
        have hlayout : Layout "0".toList ['0'] [] := .whole ['0']
        have hdigits : ∀ c ∈ ['0'] ++ ([] : List Char), c.isDigit = true := by
          intro c hc
          rw [List.mem_singleton.mp hc]
          rfl
        simp only [plain, if_true]
        rw [read_trim_sign hlayout (by simp) hdigits]
        rfl
      · have hpositive := Nat.pos_of_ne_zero hzero
        obtain ⟨hcontains, hnonzero⟩ := contains_shortest .up hcanonical hpositive
        obtain ⟨whole, fraction, hlayout, hwhole, hdigits, hvalue⟩ :=
          exists_layout (shortest .up significand exponent)
        simp only [plain, if_neg hzero]
        rw [read_trim_sign hlayout hwhole hdigits,
          ofDecimal_eq negative hcanonical hpositive ?_ (by omega) (by rwa [hvalue])]
        intro hnothing
        rw [hnothing, Nat.cast_zero, zero_mul, Decimal.value] at hvalue
        have hpower : (10 : ℚ) ^ (shortest .up significand exponent).exponent ≠ 0 := by positivity
        exact hnonzero (by simpa [hpower] using hvalue.symm)
  | infinite negative => cases hx
  | nan => cases hx

end Binary64
end SchemaForm
