import SchemaForm.Proofs.Calendar.Unread
import SchemaForm.Proofs.Calendar.Untold

/-!
# Patterns that tell every date

Under a pattern whose items are delimited, the texts of all dates can be read
exactly when the items tell a complete set of numbers.  With a time of day they also
have to tell hour and minute, and all fractions with the same number of digits.

Main results:

- Theorem `exists_read_of_write_date`, Theorem `exists_read_of_write_dateTime`: such texts are read.
- Theorem `exists_unread_date`, Theorem `exists_unread_dateTime`: without such items one is not.
-/

namespace SchemaForm
namespace Calendar

open Result

namespace Pattern

/-- The numbers that items tell of every date and time, if only of some a fraction. -/
def slots (items : List Item) : List Slot :=
  items.flatMap fun item => item.slots?.getD []

/-- Whether all fractions have the same number of digits. -/
def isUniform (items : List Item) : Bool :=
  let precisions := items.filterMap Item.precision?
  precisions.all fun digits => digits == precisions.headD 9

/-- Whether items can be written for a date without a time of day. -/
def writesDate (items : List Item) : Bool :=
  items.all fun item => !item.asksZone && !item.asksTime

/-- Whether items can be written for a date with a time of day. -/
def writesDateTime (items : List Item) : Bool :=
  items.all fun item => !item.asksZone

/-- Whether items tell every date. -/
def tellsDate (items : List Item) : Bool :=
  items.all (fun item => item.slots?.isSome) && Slot.tellDate (slots items)

/-- Whether items tell every date with a time of day. -/
def tellsDateTime (items : List Item) : Bool :=
  items.all (fun item => item.slots?.isSome) && isUniform items && Slot.tellDate (slots items) &&
    Slot.tellTime (slots items)

end Pattern

/-! ## What is told at a time of day -/

variable {items : List Item} {slot : Slot}

/-- At a time of day an item tells its numbers, but perhaps no fraction. -/
theorem Item.mem_told_iff {item : Item} {time : Time} (h : slot ≠ .nanosecond ∨ time.fraction ≠ 0) :
    slot ∈ item.told time ↔ slot ∈ item.slots?.getD [] := by
  unfold Item.told
  split
  · rename_i hmissing
    obtain ⟨rfl, hzero⟩ := hmissing
    have hslot : slot ≠ .nanosecond := h.resolve_right (not_not_intro hzero)
    simp [Item.slots?, hslot]
  · exact Iff.rfl

theorem Item.mem_slots_of_mem_told {item : Item} {time : Time} (h : slot ∈ item.told time) :
    slot ∈ item.slots?.getD [] := by
  unfold Item.told at h
  split at h
  · cases h
  · exact h

/-- At a time of day items tell their numbers, but perhaps no fraction. -/
theorem mem_flatMap_told_iff {time : Time} (h : slot ≠ .nanosecond ∨ time.fraction ≠ 0) :
    slot ∈ items.flatMap (Item.told time) ↔ slot ∈ Pattern.slots items := by
  simp only [Pattern.slots, List.mem_flatMap, Item.mem_told_iff h]

theorem mem_slots_of_mem_flatMap {time : Time} (h : slot ∈ items.flatMap (Item.told time)) :
    slot ∈ Pattern.slots items := by
  obtain ⟨item, hitem, hslot⟩ := List.mem_flatMap.mp h
  exact List.mem_flatMap.mpr ⟨item, hitem, Item.mem_slots_of_mem_told hslot⟩

/-- At every time of day it is told the same whether the items tell a date. -/
theorem tellDate_flatMap_told (time : Time) :
    Slot.tellDate (items.flatMap (Item.told time)) = Slot.tellDate (Pattern.slots items) :=
  Slot.tellDate_congr fun _ hslot => mem_flatMap_told_iff (.inl hslot)

/-- Items that tell every time tell the time of day. -/
theorem tellTime_flatMap_told {time : Time} (h : Slot.tellTime (Pattern.slots items) = true) :
    Slot.tellTime (items.flatMap (Item.told time)) = true :=
  Slot.tellTime_mono (fun _ hslot => mem_flatMap_told_iff (.inl hslot)) mem_slots_of_mem_flatMap h

/-- Items that tell a time with a fraction tell every time. -/
theorem tellTime_of_precise (h : Slot.tellTime (items.flatMap (Item.told precise)) = true) :
    Slot.tellTime (Pattern.slots items) = true := by
  have hmem : ∀ slot, slot ∈ items.flatMap (Item.told precise) ↔ slot ∈ Pattern.slots items :=
    fun slot => mem_flatMap_told_iff (.inr (by decide))
  exact Slot.tellTime_mono (fun slot _ => (hmem slot).symm) (hmem _).mpr h

/-- An item that writes nothing tells nothing. -/
theorem Item.told_eq_nil {moment : DateTime} {item : Item}
    (hone : Writing.item? moment.date (some moment.time) item = some []) :
    item.told moment.time = [] := by
  cases item with
  | literal text => rfl
  | blank text => rfl
  | numeric part padding =>
      obtain ⟨c, cs, htrim, -⟩ := Pattern.exists_head_numeric hone
      cases htrim
  | name part =>
      obtain ⟨c, cs, htext, -⟩ := Pattern.exists_head_name hone
      cases htext
  | fraction part =>
      refine if_pos ?_
      by_contra hsome
      rw [Item.fraction.injEq] at hsome
      obtain ⟨c, cs, htext, -⟩ := Pattern.exists_head_fraction hsome
      have hnil : Writing.fractionText moment.time part = [] := Option.some.inj hone
      rw [hnil] at htext
      cases htext
  | zone part => cases hone
  | unknown => cases hone

/-- Items that write nothing tell nothing. -/
theorem flatMap_told_eq_nil {moment : DateTime}
    (htext : writeItems? moment.date (some moment.time) items = some []) :
    items.flatMap (Item.told moment.time) = [] := by
  induction items with
  | nil => rfl
  | cons item rest ih =>
      obtain ⟨one, others, hone, hothers, hnil⟩ := Pattern.writeItems?_cons htext
      obtain ⟨rfl, rfl⟩ := List.append_eq_nil_iff.mp hnil.symm
      rw [List.flatMap_cons, Item.told_eq_nil hone, ih hothers, List.append_nil]

/-! ## Reading back -/

section

variable {pattern text : String} {day : Date} {moment : DateTime}

/-- Where items tell a date, they write something. -/
theorem writeItems?_ne_nil (htells : Slot.tellDate (Pattern.slots items) = true) :
    writeItems? moment.date (some moment.time) items ≠ some [] := by
  intro htext
  rw [← tellDate_flatMap_told moment.time, flatMap_told_eq_nil htext] at htells
  cases htells

/-- What a date and time has written is told. -/
theorem readFields_write (hdelimited : Pattern.isDelimited (Pattern.items pattern.toList) = true)
    {fraction : Nat}
    (htold : ∀ item ∈ Pattern.items pattern.toList, item.IsTold moment.time fraction)
    (htext : writeItems? moment.date (some moment.time) (Pattern.items pattern.toList) =
      some text.toList) :
    readFields (Pattern.items pattern.toList) text =
      .ok (Fields.ofSlots ((Pattern.items pattern.toList).flatMap (Item.told moment.time)) moment
        fraction) := by
  have hsplit : ∀ item ∈ Pattern.items pattern.toList,
      item.isSplit = true ∧ item ≠ .literal [] :=
    fun item hitem => Pattern.isSplit_of_mem_items hitem
  have hread := @readItems_written _ [] moment fraction _ _ hsplit hdelimited htold htext (.inl rfl)
  rw [Fields.ofSlots_nil, List.append_nil] at hread
  exact readFields_eq hread

/-- A text whose items cannot be read cannot be read. -/
theorem readFields_ne_ok (h : ∃ fault, readItems items {} text.toList = .error fault)
    (fields : Fields) : readFields items text ≠ .ok fields := by
  obtain ⟨fault, hfault⟩ := h
  rw [readFields, hfault]
  intro hread
  cases hread

/-- Centuries and timestamps of the year -30000 are not told. -/
theorem readFields_ancient_ne_ok
    (hdelimited : Pattern.isDelimited (Pattern.items pattern.toList) = true)
    (hslots : ((Pattern.items pattern.toList).all fun item => item.slots?.isSome) = false)
    (htext : writeItems? ancient.date (some ancient.time) (Pattern.items pattern.toList) =
      some text.toList) (fields : Fields) :
    readFields (Pattern.items pattern.toList) text ≠ .ok fields := by
  obtain ⟨item, hitem, hnone⟩ := List.all_eq_false.mp hslots
  rw [Option.not_isSome_iff_eq_none] at hnone
  refine readFields_ne_ok ?_ fields
  rw [← Fields.ofSlots_nil ancient 0]
  exact readItems_of_slots?_eq_none (fun item hitem => Pattern.isSplit_of_mem_items hitem)
    hdelimited ⟨item, hitem, hnone⟩ htext (.inl rfl)

/-- A date is written as the start of its day. -/
theorem writeItems?_midnight_of_write (h : day.write? pattern = some text) :
    writeItems? day (some Time.midnight) (Pattern.items pattern.toList) = some text.toList := by
  obtain ⟨cs, hcs, rfl⟩ := Option.map_eq_some_iff.mp h
  rw [String.toList_ofList]
  exact Pattern.writeItems?_of_none hcs Time.midnight

/-- Where items tell every date, each text of a date is read. -/
theorem exists_read_of_write_date
    (hdelimited : Pattern.isDelimited (Pattern.items pattern.toList) = true)
    (htells : Pattern.tellsDate (Pattern.items pattern.toList) = true)
    (htext : day.write? pattern = some text) :
    text ≠ "" ∧ ∃ date, Date.read text pattern = .ok date := by
  have hmidnight := writeItems?_midnight_of_write htext
  obtain ⟨hslots, hdate⟩ := Bool.and_eq_true_iff.mp htells
  rw [List.all_eq_true] at hslots
  constructor
  · rintro rfl
    exact @writeItems?_ne_nil _ ⟨day, Time.midnight⟩ hdate hmidnight
  · have hread := @readFields_write pattern text ⟨day, Time.midnight⟩ hdelimited 0
      (fun item hitem => isTold_midnight (hslots item hitem)) hmidnight
    rw [← tellDate_flatMap_told Time.midnight] at hdate
    rw [Date.read, hread]
    exact Fields.exists_toDate_ofSlots hdate

/-- A date can be written when no item asks for a time zone or for the time of day. -/
theorem isSome_write_date (hunknown : .unknown ∉ Pattern.items pattern.toList) (day : Date) :
    (day.write? pattern).isSome = Pattern.writesDate (Pattern.items pattern.toList) := by
  rw [Date.write?, Option.isSome_map, Pattern.isSome_writeItems? day none hunknown]
  rfl

/-- A date and time can be written when no item asks for a time zone. -/
theorem isSome_write_dateTime (hunknown : .unknown ∉ Pattern.items pattern.toList)
    (moment : DateTime) :
    (moment.write? pattern).isSome = Pattern.writesDateTime (Pattern.items pattern.toList) := by
  rw [DateTime.write?, Option.isSome_map,
    Pattern.isSome_writeItems? moment.date (some moment.time) hunknown]
  simp only [Option.isSome_some, Bool.true_or, Bool.and_true]
  rfl

/-- Where items do not tell every date, the text of one is not read. -/
theorem exists_unread_date (hdelimited : Pattern.isDelimited (Pattern.items pattern.toList) = true)
    (hunknown : .unknown ∉ Pattern.items pattern.toList)
    (hwrites : Pattern.writesDate (Pattern.items pattern.toList) = true)
    (htells : Pattern.tellsDate (Pattern.items pattern.toList) = false) :
    ∃ day text, Date.write? day pattern = some text ∧
      ∀ date, Date.read text pattern ≠ .ok date := by
  have hwritten : ∀ day : Date, ∃ text, day.write? pattern = some text := fun day =>
    Option.isSome_iff_exists.mp ((isSome_write_date hunknown day).trans hwrites)
  cases hslots : (Pattern.items pattern.toList).all fun item => item.slots?.isSome with
  | false =>
      obtain ⟨text, htext⟩ := hwritten ancient.date
      refine ⟨ancient.date, text, htext, fun date hdate => ?_⟩
      obtain ⟨fields, hfields, -⟩ := bind_eq_ok.mp hdate
      exact readFields_ancient_ne_ok hdelimited hslots (writeItems?_midnight_of_write htext) _
        hfields
  | true =>
      rw [Pattern.tellsDate, hslots, Bool.true_and, ← tellDate_flatMap_told Time.midnight] at htells
      rw [List.all_eq_true] at hslots
      obtain ⟨day, hday⟩ := Fields.exists_toDate_ne_ok htells
      obtain ⟨text, htext⟩ := hwritten day
      refine ⟨day, text, htext, fun date hdate => ?_⟩
      rw [Date.read, @readFields_write pattern text ⟨day, Time.midnight⟩ hdelimited 0
        (fun item hitem => isTold_midnight (hslots item hitem))
        (writeItems?_midnight_of_write htext)] at hdate
      exact hday ⟨day, Time.midnight⟩ _ _ rfl hdate

/-- Fractions of the same number of digits all have the digits of the first. -/
theorem eq_of_isUniform {item : Item} (h : Pattern.isUniform items = true) (hitem : item ∈ items)
    {digits : Nat} (hdigits : digits ∈ item.precision?) :
    digits = (items.filterMap Item.precision?).headD 9 :=
  beq_iff_eq.mp (List.all_eq_true.mp h digits (List.mem_filterMap.mpr ⟨item, hitem, hdigits⟩))

/-- Where fractions differ in their numbers of digits, no number of digits is that of all. -/
theorem exists_ne_of_isUniform (h : Pattern.isUniform items = false) (digits : Nat) :
    ∃ item ∈ items, ∃ other ∈ item.precision?, other ≠ digits := by
  by_contra hnone
  have hsame : ∀ other ∈ items.filterMap Item.precision?, other = digits := by
    intro other hother
    obtain ⟨item, hitem, hprecision⟩ := List.mem_filterMap.mp hother
    by_contra hne
    exact hnone ⟨item, hitem, other, hprecision, hne⟩
  have huniform : Pattern.isUniform items = true := by
    unfold Pattern.isUniform
    generalize items.filterMap Item.precision? = precisions at hsame
    cases precisions with
    | nil => rfl
    | cons first rest =>
        refine List.all_eq_true.mpr fun other hother => beq_iff_eq.mpr ?_
        exact (hsame other hother).trans (hsame first List.mem_cons_self).symm
  rw [huniform] at h
  cases h

/-- All fractions of items have the number of digits of the first. -/
theorem isTold_of_isUniform (hslots : ∀ item ∈ items, item.slots?.isSome = true)
    (huniform : Pattern.isUniform items = true) (time : Time) :
    ∃ fraction ≤ 999999999, ∀ item ∈ items, item.IsTold time fraction := by
  refine ⟨time.roundedFraction ((items.filterMap Item.precision?).headD 9),
    time.roundedFraction_le _, fun item hitem => ⟨hslots item hitem, fun digits hdigits => ?_⟩⟩
  rw [eq_of_isUniform huniform hitem hdigits]

/-- A text of a date and time is the text of its items. -/
theorem writeItems?_of_write (h : moment.write? pattern = some text) :
    writeItems? moment.date (some moment.time) (Pattern.items pattern.toList) =
      some text.toList := by
  obtain ⟨cs, hcs, rfl⟩ := Option.map_eq_some_iff.mp h
  rw [String.toList_ofList]
  exact hcs

/-- Where items tell every date and time, each text of one is read. -/
theorem exists_read_of_write_dateTime
    (hdelimited : Pattern.isDelimited (Pattern.items pattern.toList) = true)
    (htells : Pattern.tellsDateTime (Pattern.items pattern.toList) = true)
    (htext : moment.write? pattern = some text) :
    text ≠ "" ∧ ∃ found, DateTime.read text pattern = .ok found := by
  have hitems := writeItems?_of_write htext
  simp only [Pattern.tellsDateTime, Bool.and_eq_true, List.all_eq_true] at htells
  obtain ⟨⟨⟨hslots, huniform⟩, hdate⟩, htime⟩ := htells
  constructor
  · rintro rfl
    exact writeItems?_ne_nil hdate hitems
  · obtain ⟨fraction, hfraction, htold⟩ := isTold_of_isUniform hslots huniform moment.time
    rw [← tellDate_flatMap_told moment.time] at hdate
    rw [DateTime.read, readFields_write hdelimited htold hitems]
    exact Fields.exists_toDateTime_ofSlots hdate (tellTime_flatMap_told htime) hfraction

/-- A date and time that is told without a timestamp has a date and a time that are told. -/
theorem Fields.toDateTime_eq_ok {fields : Fields} {found : DateTime}
    (htimestamp : fields.timestamp = none) (h : fields.toDateTime = .ok found) :
    fields.toDate = .ok found.date ∧ fields.toTime = .ok found.time := by
  unfold Fields.toDateTime at h
  rw [htimestamp] at h
  split at h
  · rename_i hdate htime _
    cases h
    exact ⟨hdate, htime⟩
  · rename_i heq
    cases heq
  · rename_i heq _
    cases heq
  · cases h
  · cases h

/-- Fractions of different precision are not told of a time with nine digits. -/
theorem readFields_precise_ne_ok
    (hdelimited : Pattern.isDelimited (Pattern.items pattern.toList) = true)
    (hslots : ∀ item ∈ Pattern.items pattern.toList, item.slots?.isSome = true)
    (huniform : Pattern.isUniform (Pattern.items pattern.toList) = false)
    (htext : writeItems? day (some precise) (Pattern.items pattern.toList) = some text.toList)
    (fields : Fields) : readFields (Pattern.items pattern.toList) text ≠ .ok fields := by
  have hnone : .nanosecond ∉ ([] : List Slot) := List.not_mem_nil
  refine readFields_ne_ok ?_ fields
  rw [← Fields.ofSlots_nil ⟨day, precise⟩ 0]
  exact readItems_of_precision (fun item hitem => Pattern.isSplit_of_mem_items hitem)
    hdelimited hslots (exists_ne_of_isUniform huniform) hnone htext (.inl rfl)

/-- Where numbers do not tell every date and time, a precise time leaves some date untold. -/
theorem exists_toDateTime_ne_ok
    (h : (Slot.tellDate (Pattern.slots items) && Slot.tellTime (Pattern.slots items)) = false) :
    ∃ day : Date, ∀ fraction found,
      (Fields.ofSlots (items.flatMap (Item.told precise)) ⟨day, precise⟩ fraction).toDateTime ≠
        .ok found := by
  rcases Bool.and_eq_false_iff.mp h with hdate | htime
  · rw [← tellDate_flatMap_told precise] at hdate
    obtain ⟨day, hday⟩ := Fields.exists_toDate_ne_ok hdate
    refine ⟨day, fun fraction found hfound => ?_⟩
    exact hday ⟨day, precise⟩ _ _ rfl (Fields.toDateTime_eq_ok rfl hfound).1
  · have hprecise : Slot.tellTime (items.flatMap (Item.told precise)) = false := by
      rw [← Bool.not_eq_true]
      exact fun htold => Bool.false_ne_true (htime.symm.trans (tellTime_of_precise htold))
    refine ⟨ancient.date, fun fraction found hfound => ?_⟩
    exact Fields.toTime_ne_ok hprecise _ (Fields.toDateTime_eq_ok rfl hfound).2

/-- Where items do not tell every date and time, the text of one is not read. -/
theorem exists_unread_dateTime
    (hdelimited : Pattern.isDelimited (Pattern.items pattern.toList) = true)
    (hunknown : .unknown ∉ Pattern.items pattern.toList)
    (hwrites : Pattern.writesDateTime (Pattern.items pattern.toList) = true)
    (htells : Pattern.tellsDateTime (Pattern.items pattern.toList) = false) :
    ∃ moment text, DateTime.write? moment pattern = some text ∧
      ∀ found, DateTime.read text pattern ≠ .ok found := by
  have hwritten : ∀ moment : DateTime, ∃ text, moment.write? pattern = some text := fun moment =>
    Option.isSome_iff_exists.mp ((isSome_write_dateTime hunknown moment).trans hwrites)
  cases hslots : (Pattern.items pattern.toList).all fun item => item.slots?.isSome with
  | false =>
      obtain ⟨text, htext⟩ := hwritten ancient
      refine ⟨ancient, text, htext, fun found hfound => ?_⟩
      obtain ⟨fields, hfields, -⟩ := bind_eq_ok.mp hfound
      exact readFields_ancient_ne_ok hdelimited hslots (writeItems?_of_write htext) _ hfields
  | true =>
      rw [Pattern.tellsDateTime, hslots, Bool.true_and, Bool.and_assoc] at htells
      rw [List.all_eq_true] at hslots
      cases huniform : Pattern.isUniform (Pattern.items pattern.toList) with
      | false =>
          obtain ⟨text, htext⟩ := hwritten ⟨ancient.date, precise⟩
          refine ⟨⟨ancient.date, precise⟩, text, htext, fun found hfound => ?_⟩
          obtain ⟨fields, hfields, -⟩ := bind_eq_ok.mp hfound
          exact readFields_precise_ne_ok hdelimited hslots huniform (writeItems?_of_write htext) _
            hfields
      | true =>
          rw [huniform, Bool.true_and] at htells
          obtain ⟨day, hday⟩ := exists_toDateTime_ne_ok htells
          obtain ⟨text, htext⟩ := hwritten ⟨day, precise⟩
          refine ⟨⟨day, precise⟩, text, htext, fun found hfound => ?_⟩
          obtain ⟨fraction, -, htold⟩ := isTold_of_isUniform hslots huniform precise
          rw [DateTime.read, @readFields_write pattern text ⟨day, precise⟩ hdelimited fraction htold
            (writeItems?_of_write htext)] at hfound
          exact hday fraction found hfound

end

end Calendar
end SchemaForm
