import SchemaForm.Text.Blank
import SchemaForm.Text.Integer

/-!
# Digits of integers

The decimal text of an integer consists of digits, perhaps after a minus sign,
so there is nothing to trim, and reading it appends the digits of the integer
without leaving the range.

Main results:

- Theorem `trim_eq_self`: a text without blank characters is trimmed.
- Theorem `read_trim_toString`: the decimal text of an integer in the range reads back as the
  integer.
-/

namespace SchemaForm
namespace Text

/-! ## Texts without blank characters -/

/-- A text that does not start with a blank character has nothing to trim there. -/
theorem trimStart_eq_self {cs : List Char} (h : ∀ c ∈ cs.head?, isBlank c = false) :
    trimStart cs = cs := by
  cases cs with
  | nil => rfl
  | cons c rest => simp [trimStart, h c rfl]

/-- A text that starts without blank characters has nothing to trim there, whatever follows. -/
theorem trimStart_append {cs : List Char} (hcs : cs ≠ []) (h : ∀ c ∈ cs, isBlank c = false)
    (rest : List Char) : trimStart (cs ++ rest) = cs ++ rest := by
  obtain ⟨c, cs, rfl⟩ := List.exists_cons_of_ne_nil hcs
  exact trimStart_eq_self (by simpa using h c (by simp))

/-- Blank characters at the start of a text are trimmed. -/
theorem trimStart_append_blanks {text : List Char} (h : ∀ c ∈ text, isBlank c = true)
    (rest : List Char) : trimStart (text ++ rest) = trimStart rest :=
  List.dropWhile_append_of_pos h

/-- A text that is not blank is trimmed alike, whatever follows. -/
theorem trimStart_append_of_cons {text cs : List Char} {c : Char} (h : trimStart text = c :: cs)
    (rest : List Char) : trimStart (text ++ rest) = c :: cs ++ rest := by
  unfold trimStart at h ⊢
  rw [List.dropWhile_append, h]
  rfl

/-- A text without blank characters is trimmed. -/
theorem trim_eq_self {cs : List Char} (h : ∀ c ∈ cs, isBlank c = false) : trim cs = cs := by
  have hstart : ∀ c ∈ cs.head?, isBlank c = false := fun c hc =>
    h c (List.mem_of_mem_head? hc)
  have hend : ∀ c ∈ cs.reverse.head?, isBlank c = false := fun c hc =>
    h c (List.mem_reverse.mp (List.mem_of_mem_head? hc))
  rw [trim, trimStart_eq_self hstart, trimStart_eq_self hend, List.reverse_reverse]

/-- Digits are not blank. -/
theorem isBlank_of_isDigit {c : Char} (h : c.isDigit = true) : isBlank c = false := by
  have hrange : 48 ≤ c.toNat ∧ c.toNat ≤ 57 := Char.isDigit_iff_toNat.mp h
  simp only [isBlank, Bool.or_eq_false_iff, Bool.and_eq_false_iff, decide_eq_false_iff_not,
    beq_eq_false_iff_ne]
  omega

/-- The digits of a number are digits. -/
theorem isDigit_of_mem {n : Nat} {c : Char} (h : c ∈ Nat.toDigits 10 n) : c.isDigit = true :=
  Nat.isDigit_of_mem_toDigits (by decide) (by decide) h

namespace Integer

/-! ## Digits -/

/-- The value of a digit. -/
theorem digit?_of_isDigit {c : Char} (h : c.isDigit = true) :
    digit? c = some (c.toNat - '0'.toNat) := by
  have hrange := Char.isDigit_iff_toNat.mp h
  have hlow : '0' ≤ c := hrange.1
  have hhigh : c ≤ '9' := hrange.2
  simp [digit?, hlow, hhigh]

/-- Further digits never make a number smaller. -/
theorem le_ofDigitChars (cs : List Char) (value : Nat) : value ≤ Nat.ofDigitChars 10 cs value := by
  rw [Nat.ofDigitChars_eq_ofDigitChars_zero]
  exact Nat.le_add_right_of_le (Nat.le_mul_of_pos_left _ (Nat.pow_pos (by decide)))

/-- Appending digits to a number that is not negative gives their number, if it is in the range. -/
theorem readUp_eq {range : Range} {cs : List Char} (hdigits : ∀ c ∈ cs, c.isDigit = true)
    {value : Nat} (h : (Nat.ofDigitChars 10 cs value : Int) ≤ range.greatest) :
    readUp range value cs = .ok (Nat.ofDigitChars 10 cs value) := by
  induction cs generalizing value with
  | nil => rfl
  | cons c rest ih =>
      rw [Nat.ofDigitChars_cons, Nat.mul_comm] at h ⊢
      have hnext := le_ofDigitChars rest (value * 10 + (c.toNat - '0'.toNat))
      have hfits : (value : Int) * 10 + ((c.toNat - '0'.toNat : Nat) : Int) ≤ range.greatest := by
        omega
      simp only [readUp, digit?_of_isDigit (hdigits c (by simp)), if_pos hfits]
      rw [← ih (fun d hd => hdigits d (by simp [hd])) h]
      push_cast
      rfl

/-- Appending digits to a number that is not positive gives the opposite of their number, if it is
in the range. -/
theorem readDown_eq {range : Range} {cs : List Char} (hdigits : ∀ c ∈ cs, c.isDigit = true)
    {value : Nat} (h : range.least ≤ -(Nat.ofDigitChars 10 cs value : Int)) :
    readDown range (-value) cs = .ok (-(Nat.ofDigitChars 10 cs value : Int)) := by
  induction cs generalizing value with
  | nil => rfl
  | cons c rest ih =>
      rw [Nat.ofDigitChars_cons, Nat.mul_comm] at h ⊢
      have hnext := le_ofDigitChars rest (value * 10 + (c.toNat - '0'.toNat))
      have hfits : range.least ≤ -(value : Int) * 10 - ((c.toNat - '0'.toNat : Nat) : Int) := by
        omega
      simp only [readDown, digit?_of_isDigit (hdigits c (by simp)), if_pos hfits]
      rw [← ih (fun d hd => hdigits d (by simp [hd])) h]
      congr 1
      omega

/-! ## Integers -/

/-- A text of digits has no sign. -/
theorem read_digits {range : Range} {cs : List Char} (hdigits : ∀ c ∈ cs, c.isDigit = true)
    (hcs : cs ≠ []) : read range cs = readUp range 0 cs := by
  unfold read
  split <;> simp_all

/-- The decimal text of a number without a sign reads back. -/
theorem read_toDigits {range : Range} {n : Nat} (h : (n : Int) ≤ range.greatest) :
    read range (Nat.toDigits 10 n) = .ok n := by
  have hup : readUp range (0 : Nat) (Nat.toDigits 10 n) = .ok n := by
    rw [readUp_eq (fun c hc => isDigit_of_mem hc)]
    · rw [Nat.ofDigitChars_ten_toDigits]
    · rwa [Nat.ofDigitChars_ten_toDigits]
  exact (read_digits (fun c hc => isDigit_of_mem hc) Nat.toDigits_ne_nil).trans hup

theorem toList_toString_ofNat (n : Nat) :
    (toString (Int.ofNat n)).toList = Nat.toDigits 10 n :=
  Nat.toList_repr

theorem toList_toString_negSucc (n : Nat) :
    (toString (Int.negSucc n)).toList = '-' :: Nat.toDigits 10 (n + 1) := by
  show ("-" ++ (n + 1).repr).toList = _
  rw [String.toList_append, Nat.toList_repr]
  rfl

/-- The decimal text of an integer in the range reads back. -/
theorem read_toString {range : Range} {n : Int} (hleast : range.least ≤ n)
    (hgreatest : n ≤ range.greatest) : read range (toString n).toList = .ok n := by
  cases n with
  | ofNat n =>
      rw [toList_toString_ofNat]
      exact read_toDigits hgreatest
  | negSucc n =>
      have hnegative : range.least < 0 := by omega
      have hdown : readDown range (-(0 : Nat)) (Nat.toDigits 10 (n + 1)) = .ok (.negSucc n) := by
        rw [readDown_eq (fun c hc => isDigit_of_mem hc)]
        · rw [Nat.ofDigitChars_ten_toDigits]
          rfl
        · rw [Nat.ofDigitChars_ten_toDigits]
          exact hleast
      rw [toList_toString_negSucc, read]
      · simpa [hnegative] using hdown
      · simp [Nat.toDigits_ne_nil]

/-- The decimal text of an integer has nothing to trim. -/
theorem trim_toString (n : Int) : trim (toString n).toList = (toString n).toList := by
  apply trim_eq_self
  intro c hc
  cases n with
  | ofNat n =>
      rw [toList_toString_ofNat] at hc
      exact isBlank_of_isDigit (isDigit_of_mem hc)
  | negSucc n =>
      rw [toList_toString_negSucc] at hc
      rcases List.mem_cons.mp hc with rfl | hc
      · rfl
      · exact isBlank_of_isDigit (isDigit_of_mem hc)

/-- The decimal text of an integer in the range reads back as the integer. -/
theorem read_trim_toString {range : Range} {n : Int} (hleast : range.least ≤ n)
    (hgreatest : n ≤ range.greatest) : read range (trim (toString n).toList) = .ok n := by
  rw [trim_toString, read_toString hleast hgreatest]

end Integer
end Text
end SchemaForm
