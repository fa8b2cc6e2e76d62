import SchemaForm.Proofs.Calendar.ReadBack

/-!
# Items that cannot be read back

The century of the year -30000 is not written in digits, and its timestamps are
negative, which no timestamp that is read may be.  Fractions with different numbers
of digits contradict each other for a time that has nine of them.

Main results:

- Theorem `readItems_of_not_isTold`: one item that fails makes the whole text unreadable.
- Theorem `readItems_of_slots?_eq_none`: centuries and timestamps cannot be read back.
- Theorem `readItems_of_precision`: neither can fractions of different precision.
-/

namespace SchemaForm
namespace Calendar

open Result

section

variable {items : List Item} {told : List Slot} {moment : DateTime} {fraction : Nat}
  {one rest text input : List Char}

/-- Items cannot be read when those after the first cannot be read where it stopped. -/
theorem exists_fault_of_tail {item : Item} {fields next : Fields} {left : List Char}
    (hread : Reading.item item fields input = .ok (next, left))
    (hrest : ∃ fault, readItems items next left = .error fault) :
    ∃ fault, readItems (item :: items) fields input = .error fault := by
  obtain ⟨fault, hfault⟩ := hrest
  refine ⟨fault, ?_⟩
  rw [readItems, hread, ok_bind]
  exact hfault

/-- When one of the items cannot be read, none of the texts they have written can. -/
theorem readItems_of_not_isTold {known : List Slot}
    (hsplit : ∀ item ∈ items, item.isSplit = true ∧ item ≠ .literal [])
    (hdelimited : Pattern.isDelimited items = true)
    (hfails : ∀ item ∈ items, ¬item.IsTold moment.time fraction → ∀ told one rest input,
      known ⊆ told → Writing.item? moment.date (some moment.time) item = some one →
        (input = one ++ rest ∨ input = Text.trimStart (one ++ rest)) → item.EndsBefore rest →
          ∃ fault, Reading.item item (Fields.ofSlots told moment fraction) input = .error fault)
    (hsome : ∃ item ∈ items, ¬item.IsTold moment.time fraction) (hknown : known ⊆ told)
    (htext : writeItems? moment.date (some moment.time) items = some text)
    (hinput : input = text ∨ input = Text.trimStart text) :
    ∃ fault, readItems items (Fields.ofSlots told moment fraction) input = .error fault := by
  induction items generalizing told text input with
  | nil => simp at hsome
  | cons item rest ih =>
      obtain ⟨one, others, hone, hothers, rfl⟩ := Pattern.writeItems?_cons htext
      obtain ⟨hitem, hrest⟩ := List.forall_mem_cons.mp hsplit
      have hends := Pattern.endsBefore_writeItems hrest
        (Pattern.endsBefore_of_isDelimited hdelimited) hothers
      by_cases htold : item.IsTold moment.time fraction
      · obtain ⟨left, hleft, hread⟩ := @Reading.item_written told moment fraction one others input
          item hitem htold.1 hone htold.2 hends hinput
        have hlater : ∃ item ∈ rest, ¬item.IsTold moment.time fraction := by
          obtain ⟨other, hmem, hother⟩ := hsome
          rcases List.mem_cons.mp hmem with rfl | hmem
          · exact absurd htold hother
          · exact ⟨other, hmem, hother⟩
        refine exists_fault_of_tail hread ?_
        exact ih hrest (Pattern.isDelimited_tail hdelimited)
          (fun item hmem => hfails item (List.mem_cons_of_mem _ hmem)) hlater
          (List.subset_append_of_subset_right _ hknown) hothers hleft
      · obtain ⟨fault, hfault⟩ := hfails item List.mem_cons_self htold told one others input hknown
          hone hinput hends
        refine ⟨fault, ?_⟩
        rw [readItems, hfault]
        rfl

/-! ## Centuries and timestamps -/

/-- Midnight has no fraction. -/
theorem isTold_midnight {item : Item} (h : item.slots?.isSome = true) :
    item.IsTold Time.midnight 0 := by
  refine ⟨h, fun digits _ => ?_⟩
  show 0 = 0 / tenTo (9 - digits) * tenTo (9 - digits)
  rw [Nat.zero_div, Nat.zero_mul]

/-- A midnight of the year -30000. -/
def ancient : DateTime :=
  ⟨⟨-30000, 7, 15, by decide, by decide, by decide⟩, Time.midnight⟩

/-- The century of the year -30000 does not start with a digit. -/
theorem centuryText_ancient (padding : Padding) :
    Writing.centuryText padding ancient.date.year = ['E', '2'] := by
  cases padding <;> decide

/-- The timestamps of the year -30000 have a sign. -/
theorem trimStart_timestamp_ancient (padding : Padding) :
    ∃ cs, Text.trimStart (Writing.signed 9 padding false ancient.timestamp) = '-' :: cs := by
  cases padding <;> exact ⟨_, rfl⟩

/-- Centuries and timestamps of the year -30000 cannot be read. -/
theorem item_of_slots?_eq_none {item : Item} (hslots : item.slots? = none)
    (hone : Writing.item? ancient.date (some ancient.time) item = some one)
    (hinput : input = one ++ rest ∨ input = Text.trimStart (one ++ rest)) (fields : Fields) :
    ∃ fault, Reading.item item fields input = .error fault := by
  cases item with
  | numeric part padding =>
      have htrim : Reading.item (.numeric part padding) fields input =
          Reading.numeric part fields (Text.trimStart (one ++ rest)) := by
        rcases hinput with rfl | rfl
        · exact (Reading.numeric_trimStart part fields _).symm
        · rfl
      rw [htrim]
      cases part with
      | century =>
          obtain rfl : Writing.centuryText padding ancient.date.year = one := Option.some.inj hone
          rw [centuryText_ancient]
          exact ⟨.foreignCharacter, rfl⟩
      | timestamp =>
          obtain rfl : Writing.signed 9 padding false ancient.timestamp = one :=
            Option.some.inj hone
          obtain ⟨cs, hcs⟩ := trimStart_timestamp_ancient padding
          rw [Text.trimStart_append_of_cons hcs]
          exact ⟨.foreignCharacter, rfl⟩
      | _ => cases hslots
  | zone part => cases hone
  | unknown => cases hone
  | _ => cases hslots

/-- Texts of items with a century or a timestamp cannot be read in the year -30000. -/
theorem readItems_of_slots?_eq_none
    (hsplit : ∀ item ∈ items, item.isSplit = true ∧ item ≠ .literal [])
    (hdelimited : Pattern.isDelimited items = true) (hsome : ∃ item ∈ items, item.slots? = none)
    (htext : writeItems? ancient.date (some ancient.time) items = some text)
    (hinput : input = text ∨ input = Text.trimStart text) :
    ∃ fault, readItems items (Fields.ofSlots told ancient 0) input = .error fault := by
  have hknown : ([] : List Slot) ⊆ told := List.nil_subset told
  refine readItems_of_not_isTold hsplit hdelimited ?_ ?_ hknown htext hinput
  · intro item _ htold told one rest input _ hone hinput _
    refine item_of_slots?_eq_none ?_ hone hinput _
    rw [← Option.not_isSome_iff_eq_none]
    exact fun hslots => htold (isTold_midnight hslots)
  · obtain ⟨item, hmem, hslots⟩ := hsome
    refine ⟨item, hmem, fun htold => ?_⟩
    rw [Item.IsTold, hslots] at htold
    cases htold.1

/-! ## Fractions of different precision -/

/-- A fraction that differs from the one that was told is refused. -/
theorem setNanosecond_ne (hmem : .nanosecond ∈ told) {n : Nat} (hn : n ≤ 999999999)
    (hne : fraction ≠ n) :
    (Fields.ofSlots told moment fraction).setNanosecond n = .error .impossible := by
  have hwithin : within 0 999999999 (n : Int) = .ok (n : Int) :=
    Reading.within_eq (by omega) (by omega)
  have htold : (Fields.ofSlots told moment fraction).nanosecond = some (fraction : Int) :=
    Slot.fill_of_mem hmem _
  have hcast : (fraction : Int) ≠ n := fun heq => hne (Int.ofNat_inj.mp heq)
  rw [Fields.setNanosecond, hwithin, ok_bind, htold, agree, if_neg hcast]
  rfl

/-- A fraction of another precision than the one that was told cannot be read. -/
theorem item_of_precision {item : Item} {digits : Nat} (hsplit : item.isSplit = true)
    (hdigits : digits ∈ item.precision?) (hfraction : moment.time.fraction ≠ 0)
    (hne : fraction ≠ moment.time.roundedFraction digits) (hmem : .nanosecond ∈ told)
    (hone : Writing.item? moment.date (some moment.time) item = some one)
    (hinput : input = one ++ rest ∨ input = Text.trimStart (one ++ rest))
    (hends : item.EndsBefore rest) :
    ∃ fault, Reading.item item (Fields.ofSlots told moment fraction) input = .error fault := by
  have hrefused := @setNanosecond_ne told moment fraction hmem _
    (moment.time.roundedFraction_le digits) hne
  cases item with
  | numeric part padding =>
      cases part with
      | nanosecond =>
          cases hdigits
          rw [Time.roundedFraction_nine] at hrefused
          have hread := @Reading.number_written moment .nanosecond _ padding one rfl hone rest hends
          have hnumeric : Reading.numeric .nanosecond (Fields.ofSlots told moment fraction)
              (one ++ rest) = .error .impossible := by
            rw [Reading.numeric_eq rfl, hread, ok_bind]
            exact congrArg (Except.map _) hrefused
          refine ⟨.impossible, ?_⟩
          rcases hinput with rfl | rfl
          · exact hnumeric
          · exact (Reading.numeric_trimStart _ _ _).trans hnumeric
      | _ => cases hdigits
  | fraction part =>
      obtain rfl : Writing.fractionText moment.time part = one := Option.some.inj hone
      obtain rfl : part.precision = digits := Option.some.inj hdigits
      have hpart : 0 < part.precision ∧ part.precision ≤ 9 := by
        simpa [Item.isSplit] using hsplit
      have hsome : ¬(part = .asNeeded ∧ moment.time.fraction = 0) := fun h => hfraction h.2
      have hstop : part = .asNeeded → ∀ c ∈ rest.head?, c.isDigit = false := by
        rintro rfl
        exact hends.1
      obtain ⟨c, cs, htext, hblank⟩ := Pattern.exists_head_fraction hsome
      refine ⟨.impossible, ?_⟩
      rw [Reading.input_eq hinput htext hblank]
      refine (Reading.fraction_text hpart hsome hstop _).trans ?_
      rw [hrefused]
      rfl
  | _ => cases hdigits

/-- A time whose fraction is another one with every number of digits. -/
def precise : Time :=
  ⟨12, 34, 56, 123456789, by decide, by decide, by decide, by decide⟩

theorem roundedFraction_precise_inj :
    ∀ first < 10, ∀ second < 10,
      precise.roundedFraction first = precise.roundedFraction second → first = second := by
  decide

/-- No fraction has more than nine digits. -/
theorem precision_lt {item : Item} (hsplit : item.isSplit = true) {digits : Nat}
    (h : digits ∈ item.precision?) : digits < 10 := by
  cases item with
  | numeric part padding =>
      cases part with
      | nanosecond =>
          cases h
          decide
      | _ => cases h
  | fraction part =>
      obtain rfl : part.precision = digits := Option.some.inj h
      simp only [Item.isSplit, Bool.and_eq_true, decide_eq_true_eq] at hsplit
      omega
  | _ => cases h

theorem fraction_precise_ne : precise.fraction ≠ 0 := by
  decide

/-- Unless the second is whole, an item tells a fraction when it has a precision. -/
theorem nanosecond_mem_told {time : Time} (htime : time.fraction ≠ 0) (item : Item) :
    .nanosecond ∈ item.told time ↔ item.precision?.isSome = true := by
  rw [Item.told, if_neg fun h => htime h.2]
  cases item with
  | numeric part padding => cases part <;> simp [Item.slots?, NumericPart.slots?, Item.precision?]
  | name part => cases part <;> decide
  | _ => simp [Item.slots?, Item.precision?]

/-- Once a fraction is told, texts with a fraction of another precision cannot be read for a time
with nine digits. -/
theorem readItems_of_known {day : Date} {digits : Nat} (hdigits : digits < 10)
    (hsplit : ∀ item ∈ items, item.isSplit = true ∧ item ≠ .literal [])
    (hdelimited : Pattern.isDelimited items = true)
    (hslots : ∀ item ∈ items, item.slots?.isSome = true)
    (hdiffer : ∃ item ∈ items, ∃ other ∈ item.precision?, other ≠ digits)
    (htold : .nanosecond ∈ told) (htext : writeItems? day (some precise) items = some text)
    (hinput : input = text ∨ input = Text.trimStart text) :
    ∃ fault, readItems items
      (Fields.ofSlots told ⟨day, precise⟩ (precise.roundedFraction digits)) input =
        .error fault := by
  have hknown : [.nanosecond] ⊆ told := List.cons_subset.mpr ⟨htold, List.nil_subset _⟩
  refine readItems_of_not_isTold hsplit hdelimited ?_ ?_ hknown htext hinput
  · intro found hfound hbad told one rest input hknown hone hinput hends
    rw [Item.IsTold, not_and] at hbad
    obtain ⟨other, hother⟩ := not_forall.mp (hbad (hslots found hfound))
    rw [Classical.not_imp] at hother
    exact item_of_precision (hsplit found hfound).1 hother.1 fraction_precise_ne hother.2
      (hknown List.mem_cons_self) hone hinput hends
  · obtain ⟨found, hfound, other, hother, hne⟩ := hdiffer
    refine ⟨found, hfound, fun hgood => hne ?_⟩
    exact (roundedFraction_precise_inj digits hdigits other
      (precision_lt (hsplit found hfound).1 hother) (hgood.2 other hother)).symm

/-- Texts of items with fractions of different precision cannot be read for a time with nine
digits. -/
theorem readItems_of_precision {day : Date}
    (hsplit : ∀ item ∈ items, item.isSplit = true ∧ item ≠ .literal [])
    (hdelimited : Pattern.isDelimited items = true)
    (hslots : ∀ item ∈ items, item.slots?.isSome = true)
    (hdiffer : ∀ digits, ∃ item ∈ items, ∃ other ∈ item.precision?, other ≠ digits)
    (htold : .nanosecond ∉ told) (htext : writeItems? day (some precise) items = some text)
    (hinput : input = text ∨ input = Text.trimStart text) :
    ∃ fault, readItems items (Fields.ofSlots told ⟨day, precise⟩ fraction) input =
      .error fault := by
  induction items generalizing told text input with
  | nil =>
      obtain ⟨item, hmem, -⟩ := hdiffer 0
      cases hmem
  | cons item rest ih =>
      obtain ⟨one, others, hone, hothers, rfl⟩ := Pattern.writeItems?_cons htext
      obtain ⟨hitem, hrest⟩ := List.forall_mem_cons.mp hsplit
      obtain ⟨hslot, hmore⟩ := List.forall_mem_cons.mp hslots
      have hends := @Pattern.endsBefore_writeItems rest ⟨day, precise⟩ others item hrest
        (Pattern.endsBefore_of_isDelimited hdelimited) hothers
      have htail := Pattern.isDelimited_tail hdelimited
      have hmem := nanosecond_mem_told fraction_precise_ne item
      have hlater : ∀ digits, (∀ other ∈ item.precision?, other = digits) →
          ∃ found ∈ rest, ∃ other ∈ found.precision?, other ≠ digits := by
        intro digits hsame
        obtain ⟨found, hfound, other, hother, hne⟩ := hdiffer digits
        rcases List.mem_cons.mp hfound with rfl | hfound
        · exact absurd (hsame other hother) hne
        · exact ⟨found, hfound, other, hother, hne⟩
      cases hprecision : item.precision? with
      | none =>
          rw [hprecision] at hmem hlater
          have hstill : .nanosecond ∉ item.told precise ++ told := by
            rw [List.mem_append, not_or]
            exact ⟨fun h => absurd (hmem.mp h) (by decide), htold⟩
          obtain ⟨left, hleft, hread⟩ := @Reading.item_written told ⟨day, precise⟩ fraction one
            others input item hitem hslot hone (by simp [hprecision]) hends hinput
          refine exists_fault_of_tail hread ?_
          exact ih hrest htail hmore (fun digits => hlater digits (by simp)) hstill hothers hleft
      | some digits =>
          -- From here on the fraction has this many digits.
          rw [hprecision] at hmem hlater
          rw [Fields.ofSlots_of_notMem htold ⟨day, precise⟩ fraction
            (precise.roundedFraction digits)]
          obtain ⟨left, hleft, hread⟩ := @Reading.item_written told ⟨day, precise⟩
            (precise.roundedFraction digits) one others input item hitem hslot hone
            (by simp [hprecision]) hends hinput
          refine exists_fault_of_tail hread ?_
          exact readItems_of_known (precision_lt hitem.1 hprecision) hrest htail hmore
            (hlater digits (by simp)) (List.mem_append_left told (hmem.mpr rfl)) hothers hleft

end

end Calendar
end SchemaForm
