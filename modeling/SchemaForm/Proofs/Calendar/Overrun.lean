import SchemaForm.Proofs.Calendar.Kept
import SchemaForm.Proofs.Calendar.Tells

/-!
# Years that run on

A year that is written with its sign is read together with all the digits that follow
it.  Under a pattern with a full year before a digit, a year far from zero is read as
one that no date has, which it stays, so that the text of such a date is not read.

Main results:

- Theorem `le_of_signedNumber`: a negative year before a digit is read as one further from zero.
- Theorem `isFar_of_readItems`: a full year before a digit is told as one that no date has.
- Theorem `read_ancient_ne_ok_date`, Theorem `read_ancient_ne_ok_dateTime`: it is not read.
-/

namespace SchemaForm
namespace Calendar

open Result

/-! ## Digits after a year -/

namespace Reading

/-- Digits that are read only make a number larger. -/
theorem le_of_takeDigits {most : Nat} {value n : Int} {cs rest : List Char} (hvalue : 0 ≤ value)
    (h : takeDigits most value cs = .ok (n, rest)) : value ≤ n := by
  induction most generalizing value cs with
  | zero =>
      cases h
      exact Int.le_refl _
  | succ most ih =>
      cases cs with
      | nil =>
          cases h
          exact Int.le_refl _
      | cons c cs =>
          simp only [takeDigits] at h
          split at h
          · split at h
            · have hnext := ih (by omega) h
              omega
            · cases h
          · cases h
            exact Int.le_refl _

/-- Digits that are followed by another one are read together with it. -/
theorem le_of_takeDigits_append {most value : Nat} {n : Int} {cs rest left : List Char} {d : Char}
    (hdigits : ∀ c ∈ cs, c.isDigit = true) (hd : d.isDigit = true) (hmost : cs.length < most)
    (h : takeDigits most value (cs ++ d :: rest) = .ok (n, left)) :
    (Nat.ofDigitChars 10 cs value : Int) * 10 ≤ n := by
  induction cs generalizing most value with
  | nil =>
      obtain ⟨most, rfl⟩ := Nat.exists_eq_succ_of_ne_zero (Nat.ne_of_gt hmost)
      simp only [List.nil_append, takeDigits, hd, if_true] at h
      split at h
      · have hle := le_of_takeDigits (by omega) h
        rw [Nat.ofDigitChars_nil]
        omega
      · cases h
  | cons c cs ih =>
      obtain ⟨most, rfl⟩ := Nat.exists_eq_succ_of_ne_zero (Nat.ne_of_gt (Nat.zero_lt_of_lt hmost))
      have hc := hdigits c List.mem_cons_self
      simp only [List.cons_append, takeDigits, hc, if_true] at h
      split at h
      · rw [Nat.ofDigitChars_cons, Nat.mul_comm]
        refine ih (fun e he => hdigits e (List.mem_cons_of_mem _ he))
          (Nat.lt_of_succ_lt_succ hmost) ?_
        push_cast
        exact h
      · cases h

/-- A negative year that is followed by a digit is read as one at least ten times as far from
zero. -/
theorem le_of_signedNumber {year n : Int} (hyear : year < 0) (padding : Padding) {d : Char}
    {rest left : List Char} (hd : d.isDigit = true)
    (h : signedNumber 4 (Text.trimStart (Writing.yearText padding year ++ d :: rest)) =
      .ok (n, left)) : n ≤ year * 10 := by
  obtain ⟨blanks, cs, htext, hne, hdigits, hvalue, -⟩ := Writing.exists_yearText_eq padding year
  rw [if_pos hyear] at htext
  have hblank : ∀ c ∈ ['-'] ++ cs, Text.isBlank c = false := by
    intro c hc
    rcases List.mem_cons.mp hc with rfl | hc
    · decide
    · exact Text.isBlank_of_isDigit (hdigits c hc)
  rw [htext, trimStart_replicate (by simp) hblank] at h
  simp only [List.cons_append, List.nil_append, signedNumber, bind_eq_ok, pure_eq_ok] at h
  obtain ⟨⟨found, remaining⟩, hnumber, heq⟩ := h
  obtain ⟨rfl, rfl⟩ := Prod.mk.inj heq
  obtain ⟨c, cs, rfl⟩ := List.exists_cons_of_ne_nil hne
  have hc := hdigits c List.mem_cons_self
  simp only [List.cons_append, number, hc, if_true] at hnumber
  rw [← List.cons_append] at hnumber
  have hle := @le_of_takeDigits_append _ 0 found (c :: cs) rest remaining d hdigits hd (by simp)
    hnumber
  rw [hvalue] at hle
  omega

/-- A negative year that is followed by a digit is told as one at least ten times as far from
zero. -/
theorem exists_tell_of_yearText {part : NumericPart} (hpart : part = .year ∨ part = .isoYear)
    {year : Int} (hyear : year < 0) {padding : Padding} {d : Char} (hd : d.isDigit = true)
    {before fields : Fields} {rest left : List Char}
    (h : numeric part before (Writing.yearText padding year ++ d :: rest) = .ok (fields, left)) :
    ∃ n ≤ year * 10, tell before n part = .ok fields := by
  have hslots : ∃ slots, part.slots? = some slots := by
    rcases hpart with rfl | rfl <;> exact ⟨_, rfl⟩
  obtain ⟨slots, hslots⟩ := hslots
  rw [numeric_eq hslots, if_pos hpart, bind_eq_ok] at h
  obtain ⟨⟨n, remaining⟩, hnumber, htell⟩ := h
  obtain ⟨next, hnext, heq⟩ := map_eq_ok.mp htell
  obtain ⟨rfl, -⟩ := Prod.mk.inj heq
  exact ⟨n, le_of_signedNumber hyear padding hd hnumber, hnext⟩

end Reading

/-! ## Years that no date has -/

namespace Fields

variable {fields told : Fields}

/-- A year or ISO year was told that no date has. -/
def IsFar (fields : Fields) : Prop :=
  (∃ n ∈ fields.year.full, n < leastYear - 1) ∨ ∃ n ∈ fields.isoYear.full, n < leastYear - 1

/-- A year that no date has stays. -/
theorem IsFar.of_keeps (h : fields.IsFar) (hkeeps : fields.Keeps told) : told.IsFar := by
  rcases h with ⟨n, hn, hfar⟩ | ⟨n, hn, hfar⟩
  · exact .inl ⟨n, hkeeps.year n hn, hfar⟩
  · exact .inr ⟨n, hkeeps.isoYear n hn, hfar⟩

/-- With a year that no date has, no date is told. -/
theorem IsFar.toDate_ne_ok (h : fields.IsFar) (date : Date) : fields.toDate ≠ .ok date := by
  intro htold
  obtain ⟨hyear, hisoYear⟩ := le_of_toDate htold
  rcases h with ⟨n, hn, hfar⟩ | ⟨n, hn, hfar⟩
  · have hle := hyear n hn
    omega
  · have hle := hisoYear n hn
    omega

/-- With a year that no date has, no date and time is told. -/
theorem IsFar.toDateTime_ne_ok (h : fields.IsFar) (found : DateTime) :
    fields.toDateTime ≠ .ok found := by
  intro htold
  obtain ⟨later, hkeeps, date, hdate⟩ := exists_toDate_of_toDateTime htold
  exact (h.of_keeps hkeeps).toDate_ne_ok date hdate

end Fields

/-! ## A full year before a digit -/

section

variable {items : List Item} {told : List Slot} {one rest text input left : List Char}
  {fields : Fields}

/-- The year -30000 is told as one that no date has when a digit follows it. -/
theorem isFar_of_item {item : Item} (hitem : item.isFullYear = true) {d : Char}
    (hd : d.isDigit = true)
    (hone : Writing.item? ancient.date (some ancient.time) item = some one)
    (hinput : input = one ++ d :: rest ∨ input = Text.trimStart (one ++ d :: rest))
    (before : Fields) (h : Reading.item item before input = .ok (fields, left)) :
    fields.IsFar := by
  have hnegative : ancient.date.year < 0 ∧ ancient.date.isoWeek.1 = ancient.date.year := by decide
  have hfar : ancient.date.year * 10 < leastYear - 1 := by decide
  cases item with
  | numeric part padding =>
      have hread : Reading.numeric part before (one ++ d :: rest) = .ok (fields, left) := by
        rcases hinput with rfl | rfl
        · exact h
        · exact (Reading.numeric_trimStart part before _).symm.trans h
      cases part with
      | year =>
          obtain rfl : Writing.yearText padding ancient.date.year = one := Option.some.inj hone
          obtain ⟨n, hle, htell⟩ :=
            Reading.exists_tell_of_yearText (.inl rfl) hnegative.1 hd hread
          obtain ⟨year, hyear, heq⟩ := bind_eq_ok.mp htell
          cases pure_eq_ok.mp heq
          exact .inl ⟨n, (Fields.full_of_setFull hyear).1, by omega⟩
      | isoYear =>
          obtain rfl : Writing.yearText padding ancient.date.isoWeek.1 = one :=
            Option.some.inj hone
          rw [hnegative.2] at hread
          obtain ⟨n, hle, htell⟩ :=
            Reading.exists_tell_of_yearText (.inr rfl) hnegative.1 hd hread
          obtain ⟨year, hyear, heq⟩ := bind_eq_ok.mp htell
          cases pure_eq_ok.mp heq
          exact .inr ⟨n, (Fields.full_of_setFull hyear).1, by omega⟩
      | _ => cases hitem
  | _ => cases hitem

/-- Where a full year runs on, the year -30000 is told as one that no date has, if its text is read
at all. -/
theorem isFar_of_readItems (hsplit : ∀ item ∈ items, item.isSplit = true ∧ item ≠ .literal [])
    (hruns : Pattern.yearRunsOn items = true)
    (htext : writeItems? ancient.date (some ancient.time) items = some text)
    (hinput : input = text ∨ input = Text.trimStart text)
    (h : readItems items (Fields.ofSlots told ancient 0) input = .ok (fields, left)) :
    fields.IsFar := by
  induction items generalizing told text input with
  | nil => cases hruns
  | cons item items ih =>
      obtain ⟨one, others, hone, hothers, rfl⟩ := Pattern.writeItems?_cons htext
      obtain ⟨hitem, hrest⟩ := List.forall_mem_cons.mp hsplit
      rw [readItems, bind_eq_ok] at h
      obtain ⟨⟨next, remaining⟩, hread, hlater⟩ := h
      rw [Pattern.yearRunsOn] at hruns
      by_cases hends : Pattern.endsBefore items item = true
      · rw [if_pos hends] at hruns
        by_cases hslots : item.slots?.isSome = true
        · obtain ⟨-, hprecision⟩ := isTold_midnight hslots
          obtain ⟨after, hafter, htold⟩ := @Reading.item_written told ancient 0 one others input
            item hitem hslots hone hprecision (Pattern.endsBefore_writeItems hrest hends hothers)
            hinput
          rw [htold] at hread
          cases hread
          exact ih hrest hruns hothers hafter hlater
        · rw [Option.not_isSome_iff_eq_none] at hslots
          obtain ⟨fault, hfault⟩ := item_of_slots?_eq_none hslots hone hinput
            (Fields.ofSlots told ancient 0)
          rw [hfault] at hread
          cases hread
      · rw [if_neg hends, Bool.and_eq_true] at hruns
        obtain ⟨d, ds, rfl, hd⟩ := @Pattern.exists_digit_writeItems ancient items others hruns.2
          hothers
        exact (isFar_of_item hruns.1 hd hone hinput _ hread).of_keeps
          (Fields.keeps_of_readItems hlater)

end

section

variable {pattern text : String}

/-- Where a full year runs on, what is told of the year -30000 has a year that no date has. -/
theorem isFar_of_readFields (hruns : Pattern.yearRunsOn (Pattern.items pattern.toList) = true)
    (htext : writeItems? ancient.date (some ancient.time) (Pattern.items pattern.toList) =
      some text.toList) {fields : Fields}
    (h : readFields (Pattern.items pattern.toList) text = .ok fields) : fields.IsFar := by
  obtain ⟨⟨told, left⟩, hread, h⟩ := bind_eq_ok.mp h
  dsimp only at h
  split at h
  · cases pure_eq_ok.mp h
    rw [← Fields.ofSlots_nil ancient 0] at hread
    exact isFar_of_readItems (fun item hitem => Pattern.isSplit_of_mem_items hitem) hruns htext
      (.inl rfl) hread
  · cases h

/-- Where a full year runs on, the text of a date of the year -30000 is not read. -/
theorem read_ancient_ne_ok_date
    (hruns : Pattern.yearRunsOn (Pattern.items pattern.toList) = true)
    (htext : ancient.date.write? pattern = some text) (date : Date) :
    Date.read text pattern ≠ .ok date := by
  intro h
  obtain ⟨fields, hfields, hdate⟩ := bind_eq_ok.mp h
  exact (isFar_of_readFields hruns (writeItems?_midnight_of_write htext) hfields).toDate_ne_ok date
    hdate

/-- Where a full year runs on, the text of a date and time of the year -30000 is not read. -/
theorem read_ancient_ne_ok_dateTime
    (hruns : Pattern.yearRunsOn (Pattern.items pattern.toList) = true)
    (htext : ancient.write? pattern = some text) (found : DateTime) :
    DateTime.read text pattern ≠ .ok found := by
  intro h
  obtain ⟨fields, hfields, hmoment⟩ := bind_eq_ok.mp h
  exact (isFar_of_readFields hruns (writeItems?_of_write htext) hfields).toDateTime_ne_ok found
    hmoment

end

end Calendar
end SchemaForm
