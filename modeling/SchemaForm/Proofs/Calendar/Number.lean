import SchemaForm.Calendar.Reading
import SchemaForm.Calendar.Writing
import SchemaForm.Proofs.Text.Digits

/-!
# Numbers of dates read back

A number of two digits is followed by anything, since reading stops after the
second digit.  A year of more than four digits carries a sign, and then reading
stops at the first character that is no digit.

Main results:

- Theorem `takeDigits_append`: digits are read up to their maximum or the end of the digits.
- Theorem `number_two`: a number that is written with two digits reads back.
- Theorem `signedNumber_yearText`: a written year reads back.
-/

namespace SchemaForm
namespace Calendar

/-! ## Written digits -/

namespace Writing

/-- A number filled up with zeros consists of digits. -/
theorem isDigit_of_mem_fill {width n : Nat} {c : Char} (h : c ∈ fill width '0' (digits n)) :
    c.isDigit = true := by
  simp only [fill, digits, List.mem_append, List.mem_replicate] at h
  rcases h with ⟨-, rfl⟩ | h
  · rfl
  · exact Text.isDigit_of_mem h

/-- Filling up with zeros does not change a number. -/
theorem ofDigitChars_fill (width n : Nat) :
    Nat.ofDigitChars 10 (fill width '0' (digits n)) 0 = n := by
  rw [fill, digits, Nat.ofDigitChars_append, Nat.ofDigitChars_replicate_zero, Nat.mul_zero,
    Nat.ofDigitChars_ten_toDigits]

/-- A number that is small enough fills its place exactly. -/
theorem length_fill {width n : Nat} (hwidth : 0 < width) (h : n < tenTo width) :
    (fill width '0' (digits n)).length = width := by
  have hmost : (digits n).length ≤ width :=
    (Nat.length_toDigits_le_iff (by decide) hwidth).mpr h
  rw [fill, List.length_append, List.length_replicate]
  omega

theorem fill_ne_nil (width n : Nat) : fill width '0' (digits n) ≠ [] := by
  simp [fill, digits, Nat.toDigits_ne_nil]

end Writing

/-! ## Reading digits -/

namespace Reading

open Writing (digits fill two yearText)

/-- Digits are read up to their maximum or to the first character of another kind. -/
theorem takeDigits_append {cs : List Char} (rest : List Char)
    (hdigits : ∀ c ∈ cs, c.isDigit = true) {most value : Nat} (hmost : cs.length ≤ most)
    (hstop : cs.length = most ∨ ∀ c ∈ rest.head?, c.isDigit = false)
    (hfits : Nat.ofDigitChars 10 cs value ≤ 9223372036854775807) :
    takeDigits most value (cs ++ rest) = .ok (Nat.ofDigitChars 10 cs value, rest) := by
  induction cs generalizing most value with
  | nil =>
      rcases hstop with rfl | hstop
      · rfl
      · cases rest with
        | nil => cases most <;> rfl
        | cons c rest =>
            cases most with
            | zero => rfl
            | succ most => simp [takeDigits, hstop c rfl]
  | cons c cs ih =>
      cases most with
      | zero => cases hmost
      | succ most =>
          rw [Nat.ofDigitChars_cons, Nat.mul_comm] at hfits ⊢
          have hnext := Text.Integer.le_ofDigitChars cs (value * 10 + (c.toNat - '0'.toNat))
          have hsmall : (value : Int) * 10 + ((c.toNat - '0'.toNat : Nat) : Int) ≤
              9223372036854775807 := by
            omega
          simp only [List.cons_append, takeDigits, hdigits c (by simp), if_true, if_pos hsmall]
          rw [← ih (fun d hd => hdigits d (by simp [hd])) (by simpa using hmost)
            (by simpa using hstop) hfits]
          push_cast
          rfl

/-- A number of at least one digit is read up to its maximum or to the first character of another
kind. -/
theorem number_append {cs : List Char} (rest : List Char) (hcs : cs ≠ [])
    (hdigits : ∀ c ∈ cs, c.isDigit = true) (most : Nat) (hmost : cs.length ≤ most)
    (hstop : cs.length = most ∨ ∀ c ∈ rest.head?, c.isDigit = false)
    (hfits : Nat.ofDigitChars 10 cs 0 ≤ 9223372036854775807) :
    number most (cs ++ rest) = .ok (Nat.ofDigitChars 10 cs 0, rest) := by
  obtain ⟨c, cs, rfl⟩ := List.exists_cons_of_ne_nil hcs
  have htake := takeDigits_append rest hdigits hmost hstop hfits
  simpa [number, hdigits c (by simp)] using htake

/-- A number that is written with two digits reads back. -/
theorem number_two {n : Nat} (h : n < 100) (rest : List Char) :
    number 2 (two .zero n ++ rest) = .ok (n, rest) := by
  have hlength : (fill 2 '0' (digits n)).length = 2 := Writing.length_fill (by decide) h
  rw [two, number_append rest (Writing.fill_ne_nil 2 n) (fun c hc => Writing.isDigit_of_mem_fill hc)
    2 (Nat.le_of_eq hlength) (.inl hlength), Writing.ofDigitChars_fill]
  rw [Writing.ofDigitChars_fill]
  omega

/-- A written year is its digits, with a sign if there are more than four or the year is
negative. -/
theorem yearText_eq (year : Int) :
    yearText .zero year =
      (if year < 0 then ['-'] else if 9999 < year then ['+'] else []) ++
        fill 4 '0' (digits year.natAbs) := by
  by_cases hnegative : year < 0
  · simp [yearText, Writing.signed, hnegative]
  · by_cases hlarge : 9999 < year
    · simp [yearText, Writing.signed, hnegative, hlarge]
    · simp [yearText, Writing.signed, hnegative, hlarge]

theorem yearText_ne_nil (year : Int) : yearText .zero year ≠ [] := by
  simp [yearText_eq, Writing.fill_ne_nil]

/-- A written year has no blank character. -/
theorem isBlank_of_mem_yearText {year : Int} {c : Char} (h : c ∈ yearText .zero year) :
    Text.isBlank c = false := by
  rw [yearText_eq, List.mem_append] at h
  rcases h with h | h
  · split at h
    · rw [List.mem_singleton.mp h]
      rfl
    · split at h
      · rw [List.mem_singleton.mp h]
        rfl
      · cases h
  · exact Text.isBlank_of_isDigit (Writing.isDigit_of_mem_fill h)

/-- A number that starts with a digit carries no sign. -/
theorem signedNumber_of_digit (most : Nat) {c : Char} {rest : List Char} (h : c.isDigit = true) :
    signedNumber most (c :: rest) = number most (c :: rest) := by
  have hplus : c ≠ '+' := by rintro rfl; cases h
  have hminus : c ≠ '-' := by rintro rfl; cases h
  simp [signedNumber, hplus, hminus]

/-- The digits of a year read back after its sign, which it has beyond four digits and below
zero. -/
theorem signedNumber_append {year : Int} (hyear : year.natAbs ≤ 262144) {cs : List Char}
    (hcs : cs ≠ []) (hdigits : ∀ c ∈ cs, c.isDigit = true)
    (hvalue : Nat.ofDigitChars 10 cs 0 = year.natAbs)
    (hshort : 0 ≤ year → year ≤ 9999 → cs.length ≤ 4) {rest : List Char}
    (hrest : ∀ c ∈ rest.head?, c.isDigit = false) :
    signedNumber 4
        ((if year < 0 then ['-'] else if 9999 < year then ['+'] else []) ++ cs ++ rest) =
      .ok (year, rest) := by
  have hfits : Nat.ofDigitChars 10 cs 0 ≤ 9223372036854775807 := by omega
  -- After a sign, as many digits as there are characters may follow.
  have hsigned := number_append rest hcs hdigits (cs ++ rest).length (by simp) (.inr hrest) hfits
  rw [hvalue] at hsigned
  by_cases hnegative : year < 0
  · have hyear : -(year.natAbs : Int) = year := by omega
    simp only [hnegative, if_true, List.cons_append, List.nil_append, signedNumber, hsigned]
    exact congrArg (fun n : Int => Except.ok (n, rest)) hyear
  · have hyear : (year.natAbs : Int) = year := by omega
    by_cases hlarge : 9999 < year
    · simp only [hnegative, hlarge, if_true, if_false, List.cons_append, List.nil_append,
        signedNumber, hsigned, hyear]
    · have hlength := hshort (by omega) (by omega)
      have hplain := number_append rest hcs hdigits 4 hlength (.inr hrest) hfits
      rw [hvalue, hyear] at hplain
      obtain ⟨c, cs, rfl⟩ := List.exists_cons_of_ne_nil hcs
      simp only [hnegative, hlarge, if_false, List.nil_append, List.cons_append] at hplain ⊢
      rw [signedNumber_of_digit 4 (hdigits c (by simp)), hplain]

/-- A written year reads back. -/
theorem signedNumber_yearText {year : Int} (hyear : year.natAbs ≤ 262143) {rest : List Char}
    (hrest : ∀ c ∈ rest.head?, c.isDigit = false) :
    signedNumber 4 (yearText .zero year ++ rest) = .ok (year, rest) := by
  have hlength : 0 ≤ year → year ≤ 9999 → (fill 4 '0' (digits year.natAbs)).length ≤ 4 := by
    intro hpos hfour
    have hsmall : year.natAbs < tenTo 4 := show year.natAbs < 10000 by omega
    exact Nat.le_of_eq (Writing.length_fill (by decide) hsmall)
  rw [yearText_eq]
  exact signedNumber_append (by omega) (Writing.fill_ne_nil 4 year.natAbs)
    (fun c hc => Writing.isDigit_of_mem_fill hc) (Writing.ofDigitChars_fill 4 year.natAbs) hlength
    hrest

end Reading
end Calendar
end SchemaForm
