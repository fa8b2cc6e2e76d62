import SchemaForm.Proofs.Binary64.Text
import SchemaForm.Proofs.Calendar.Default

/-!
# Dates are no numbers

The default patterns ask for a point after the day and another one after the
month, and a number has at most one point.  So no text is both.

Main results:

- Theorem `count_le_one_of_read`: the text of a number has at most one point.
- Theorem `two_le_count_of_readItems`: a text that starts with a date under the default pattern has
  two points.
- Theorem `read_ne_ok_of_date`, Theorem `read_ne_ok_of_dateTime`: a date is not read as a number.
-/

namespace SchemaForm

/-! ## Points in numbers -/

namespace Text

/-- Dropping other characters than points leaves the points. -/
theorem count_dropWhile {p : Char → Bool} (hp : p '.' = false) (cs : List Char) :
    (cs.dropWhile p).count '.' = cs.count '.' := by
  induction cs with
  | nil => rfl
  | cons c rest ih =>
      by_cases hc : p c = true
      · have hne : c ≠ '.' := by
          rintro rfl
          rw [hp] at hc
          cases hc
        rw [List.dropWhile_cons_of_pos hc, ih, List.count_cons_of_ne hne]
      · rw [List.dropWhile_cons_of_neg hc]

/-- Trimming leaves the points. -/
theorem count_trim (cs : List Char) : (trim cs).count '.' = cs.count '.' := by
  have hstart : ∀ cs, (trimStart cs).count '.' = cs.count '.' := count_dropWhile rfl
  rw [trim, List.count_reverse, hstart, List.count_reverse, hstart]

end Text

namespace Binary64

/-- Digits have no point among them. -/
theorem count_of_digits {cs : List Char} (h : cs.all Char.isDigit = true) : cs.count '.' = 0 := by
  rw [List.count_eq_zero]
  intro hpoint
  cases List.all_eq_true.mp h _ hpoint

/-- Splitting off digits leaves the points. -/
theorem count_spanDigits (cs : List Char) : (spanDigits cs).2.count '.' = cs.count '.' := by
  rw [spanDigits, List.span_eq_takeWhile_dropWhile]
  exact Text.count_dropWhile rfl cs

/-- An exponent without a sign has no point. -/
theorem count_of_unsigned? {cs : List Char} (h : readExponent?.unsigned? cs ≠ none) :
    cs.count '.' = 0 := by
  unfold readExponent?.unsigned? at h
  split at h
  · rename_i hdigits
    exact count_of_digits hdigits.2
  · exact absurd rfl h

/-- An exponent has no point. -/
theorem count_of_readExponent? {cs : List Char} {power : Int} (h : readExponent? cs = some power) :
    cs.count '.' = 0 := by
  unfold readExponent? at h
  split at h
  · rename_i rest
    have hunsigned : readExponent?.unsigned? rest ≠ none := by
      intro hnone
      simp [hnone] at h
    simpa using count_of_unsigned? hunsigned
  · rename_i rest
    have hunsigned : readExponent?.unsigned? rest ≠ none := by
      intro hnone
      simp [hnone] at h
    simpa using count_of_unsigned? hunsigned
  · have hunsigned : readExponent?.unsigned? cs ≠ none := by
      intro hnone
      simp [hnone] at h
    exact count_of_unsigned? hunsigned

/-- An exponent with its letter has no point. -/
theorem count_of_exponent {letter : Char} {cs : List Char} {power : Int}
    (hletter : letter = 'e' ∨ letter = 'E') (h : readExponent? cs = some power) :
    (letter :: cs).count '.' = 0 := by
  rw [List.count_cons_of_ne, count_of_readExponent? h]
  rcases hletter with rfl | rfl <;> decide

/-- A decimal has at most one point, the one between its digits. -/
theorem count_le_one_of_readDecimal? {negative : Bool} {cs : List Char} {x : Binary64}
    (h : readDecimal? negative cs = some x) : cs.count '.' ≤ 1 := by
  rw [← count_spanDigits]
  simp only [readDecimal?] at h
  split at h
  · rename_i rest hrest
    rw [hrest, List.count_cons_self, ← count_spanDigits]
    -- What follows the digits after the point is nothing, or an exponent.
    split at h
    · cases h
    · split at h
      · rename_i hnone
        rw [hnone, List.count_nil]
      · rename_i hexponent
        split at h
        · obtain ⟨power, hpower, -⟩ := Option.map_eq_some_iff.mp h
          rw [hexponent, count_of_exponent ‹_› hpower]
        · cases h
  · split at h
    · cases h
    · split at h
      · rename_i hnone
        rw [hnone]
        exact Nat.zero_le 1
      · rename_i hexponent
        split at h
        · obtain ⟨power, hpower, -⟩ := Option.map_eq_some_iff.mp h
          rw [hexponent, count_of_exponent ‹_› hpower]
          exact Nat.zero_le 1
        · cases h

/-- A word has no point, in whatever case it is written. -/
theorem count_of_word {cs : List Char} {word : String} (hword : '.' ∉ word.toList)
    (h : cs.map Char.toLower = word.toList) : cs.count '.' = 0 := by
  rw [List.count_eq_zero]
  intro hpoint
  rw [← h] at hword
  exact hword (List.mem_map.mpr ⟨'.', hpoint, rfl⟩)

/-- A number after its sign has at most one point. -/
theorem count_le_one_of_readUnsigned? {negative : Bool} {cs : List Char} {x : Binary64}
    (h : readUnsigned? negative cs = some x) : cs.count '.' ≤ 1 := by
  simp only [readUnsigned?] at h
  split at h
  · rename_i hword
    rcases hword with hword | hword
    · rw [count_of_word (by decide) hword]
      exact Nat.zero_le 1
    · rw [count_of_word (by decide) hword]
      exact Nat.zero_le 1
  · split at h
    · rename_i hword
      rw [count_of_word (by decide) hword]
      exact Nat.zero_le 1
    · exact count_le_one_of_readDecimal? h

/-- The text of a number has at most one point. -/
theorem count_le_one_of_read {cs : List Char} {x : Binary64} (h : read cs = .ok x) :
    cs.count '.' ≤ 1 := by
  unfold read at h
  split at h
  · cases h
  · simp only at h
    split at h
    · rename_i hy
      simpa using count_le_one_of_readUnsigned? hy
    · cases h
  · simp only at h
    split at h
    · rename_i hy
      simpa using count_le_one_of_readUnsigned? hy
    · cases h
  · simp only at h
    split at h
    · rename_i hy
      exact count_le_one_of_readUnsigned? hy
    · cases h

end Binary64

/-! ## Points in dates -/

namespace Calendar

open Result

/-- Reading digits takes them off the text. -/
theorem sublist_of_takeDigits {most : Nat} {value n : Int} {cs rest : List Char}
    (h : Reading.takeDigits most value cs = .ok (n, rest)) : rest.Sublist cs := by
  induction most generalizing value cs with
  | zero =>
      cases h
      exact .refl _
  | succ most ih =>
      cases cs with
      | nil =>
          cases h
          exact .refl _
      | cons c cs =>
          simp only [Reading.takeDigits] at h
          split at h
          · split at h
            · exact (ih h).cons c
            · cases h
          · cases h
            exact .refl _

/-- Reading a number takes it off the text. -/
theorem sublist_of_number {most : Nat} {n : Int} {cs rest : List Char}
    (h : Reading.number most cs = .ok (n, rest)) : rest.Sublist cs := by
  unfold Reading.number at h
  split at h
  · cases h
  · split at h
    · exact sublist_of_takeDigits h
    · cases h

/-- Reading a number with a sign takes it off the text. -/
theorem sublist_of_signedNumber {most : Nat} {n : Int} {cs rest : List Char}
    (h : Reading.signedNumber most cs = .ok (n, rest)) : rest.Sublist cs := by
  unfold Reading.signedNumber at h
  split at h
  · simp only [bind_eq_ok, pure_eq_ok, Prod.mk.injEq] at h
    obtain ⟨⟨found, after⟩, hfound, -, rfl⟩ := h
    exact (sublist_of_number hfound).cons '-'
  · exact (sublist_of_number h).cons '+'
  · exact sublist_of_number h

/-- Reading the number of a part takes it off the text. -/
theorem sublist_of_zeros {part : NumericPart} {fields told : Fields} {cs rest : List Char}
    (h : Reading.item (Pattern.zeros part) fields cs = .ok (told, rest)) : rest.Sublist cs := by
  have htrim : (Text.trimStart cs).Sublist cs := List.dropWhile_sublist _
  have h : Reading.numeric part fields cs = .ok (told, rest) := h
  refine List.Sublist.trans ?_ htrim
  unfold Reading.numeric at h
  split at h
  all_goals
    simp only [bind_eq_ok, pure_eq_ok, Prod.mk.injEq] at h
    obtain ⟨⟨n, after⟩, hread, _, -, -, rfl⟩ := h
  · exact sublist_of_signedNumber hread
  · exact sublist_of_signedNumber hread
  · exact sublist_of_number hread
  · exact sublist_of_number hread

/-- A point of a pattern is a point of the text. -/
theorem eq_cons_of_literal {c : Char} {fields told : Fields} {cs rest : List Char}
    (h : Reading.item (.literal [c]) fields cs = .ok (told, rest)) : cs = c :: rest := by
  simp only [Reading.item, Reading.simpleItem] at h
  split at h
  · cases h
  · split at h
    · rename_i hprefix
      cases h
      obtain ⟨after, rfl⟩ := List.isPrefixOf_iff_prefix.mp hprefix
      rfl
    · cases h

/-- A text that starts with a date under the default pattern has two points. -/
theorem two_le_count_of_readItems {items : List Item} {fields told : Fields} {cs rest : List Char}
    (h : readItems (Pattern.dayMonthYear ++ items) fields cs = .ok (told, rest)) :
    2 ≤ cs.count '.' := by
  simp only [Pattern.dayMonthYear, List.cons_append, readItems, bind_eq_ok, Prod.exists] at h
  obtain ⟨_, afterDay, hday, _, afterPoint, hpoint, _, afterMonth, hmonth, _, last, hlast, -⟩ := h
  rw [eq_cons_of_literal hlast] at hmonth
  rw [eq_cons_of_literal hpoint] at hday
  have hmonthPoints := (sublist_of_zeros hmonth).count_le '.'
  have hdayPoints := (sublist_of_zeros hday).count_le '.'
  simp only [List.count_cons_self] at hmonthPoints hdayPoints
  omega

/-- A text that starts with a date under the default pattern is not read as a number. -/
theorem read_ne_ok_of_readFields {items : List Item} {text : String} {fields : Fields}
    (h : readFields (Pattern.dayMonthYear ++ items) text = .ok fields) (x : Binary64) :
    Binary64.read (Text.trim text.toList) ≠ .ok x := by
  intro hnumber
  rw [readFields, bind_eq_ok] at h
  obtain ⟨⟨_, _⟩, hitems, -⟩ := h
  have htwo := two_le_count_of_readItems hitems
  have hone := Binary64.count_le_one_of_read hnumber
  rw [Text.count_trim] at hone
  omega

/-- A date under the default pattern is not read as a number. -/
theorem read_ne_ok_of_date {text : String} {day : Date}
    (h : Date.read text (DatePatterns.date {}) = .ok day) (x : Binary64) :
    Binary64.read (Text.trim text.toList) ≠ .ok x := by
  rw [Date.read, Pattern.items_defaultDate, bind_eq_ok] at h
  obtain ⟨fields, hfields, -⟩ := h
  rw [← List.append_nil Pattern.dayMonthYear] at hfields
  exact read_ne_ok_of_readFields hfields x

/-- A date and time under the default pattern is not read as a number. -/
theorem read_ne_ok_of_dateTime {text : String} {moment : DateTime}
    (h : DateTime.read text (DatePatterns.dateTime {}) = .ok moment) (x : Binary64) :
    Binary64.read (Text.trim text.toList) ≠ .ok x := by
  rw [DateTime.read, Pattern.items_defaultDateTime, bind_eq_ok] at h
  obtain ⟨fields, hfields, -⟩ := h
  exact read_ne_ok_of_readFields hfields x

end Calendar
end SchemaForm
