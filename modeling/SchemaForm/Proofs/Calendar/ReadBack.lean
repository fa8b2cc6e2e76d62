import SchemaForm.Proofs.Calendar.Pattern

/-!
# Items read back

Items are read in turn from the text that they have written.  A blank takes the
blanks at the start of the next item with it, which that item does not miss.  What
the items of a date and time tell adds up, as long as every item ends where its own
text does and all fractions have the same number of digits.

Main results:

- Theorem `item_written`: an item reads its text and leaves the rest.
- Theorem `readItems_written`: items tell all of their numbers.
-/

namespace SchemaForm
namespace Calendar

open Result

namespace Item

/-- The numbers that an item tells at a time of day; a fraction that may be missing is not told of a
whole second. -/
def told (time : Time) (item : Item) : List Slot :=
  if item = .fraction .asNeeded ∧ time.fraction = 0 then [] else item.slots?.getD []

/-- Whether an item ends where its text does, when the given text comes next. -/
def EndsBefore (rest : List Char) : Item → Prop
  | .numeric part padding => part.isFixed padding = true ∨ ∀ c ∈ rest.head?, c.isDigit = false
  | .fraction .asNeeded =>
      (∀ c ∈ rest.head?, c.isDigit = false) ∧ ∀ c ∈ (Text.trimStart rest).head?, c ≠ '.'
  | _ => True

end Item

namespace Fields

/-- Only which numbers are told matters. -/
theorem ofSlots_congr {told others : List Slot} (h : ∀ slot, slot ∈ told ↔ slot ∈ others)
    (moment : DateTime) (fraction : Nat) :
    ofSlots told moment fraction = ofSlots others moment fraction := by
  have hfill : ∀ slot n, Slot.fill told slot n = Slot.fill others slot n := by
    intro slot n
    simp only [Slot.fill, h slot]
  simp only [ofSlots, hfill]

/-- As long as no fraction is told, its digits do not matter. -/
theorem ofSlots_of_notMem {told : List Slot} (h : .nanosecond ∉ told) (moment : DateTime)
    (first second : Nat) : ofSlots told moment first = ofSlots told moment second := by
  simp only [ofSlots, Slot.fill_of_notMem h]

end Fields

namespace Reading

variable {told : List Slot} {moment : DateTime} {fraction : Nat} {one rest input : List Char}

/-- A literal is read before anything. -/
theorem item_literal_append (text : List Char) (fields : Fields) (rest : List Char) :
    Reading.item (.literal text) fields (text ++ rest) = .ok (fields, rest) := by
  have hbytes : ¬ byteLength (text ++ rest) < byteLength text := by
    rw [byteLength_append]
    omega
  have hprefix : text.isPrefixOf (text ++ rest) = true :=
    List.isPrefixOf_iff_prefix.mpr (List.prefix_append text rest)
  simp only [Reading.item, simpleItem, if_neg hbytes, if_pos hprefix, List.drop_left]

/-- Blanks before a number do not matter. -/
theorem numeric_trimStart (part : NumericPart) (fields : Fields) (cs : List Char) :
    Reading.numeric part fields (Text.trimStart cs) = Reading.numeric part fields cs := by
  simp only [Reading.numeric, Text.trimStart_idem]

/-- A text that starts without blanks is left alone by what trims it. -/
theorem input_eq (hinput : input = one ++ rest ∨ input = Text.trimStart (one ++ rest)) {c : Char}
    {cs : List Char} (hone : one = c :: cs) (hblank : Text.isBlank c = false) :
    input = one ++ rest := by
  rcases hinput with rfl | rfl
  · rfl
  · rw [hone, List.cons_append]
    exact Text.trimStart_eq_self (by simpa using hblank)

/-- What does not come first after blanks does not come first. -/
theorem head_ne_of_trimStart {d : Char} (hblank : Text.isBlank d = false)
    (h : ∀ c ∈ (Text.trimStart rest).head?, c ≠ d) : ∀ c ∈ rest.head?, c ≠ d := by
  rintro c hc rfl
  refine h c ?_ rfl
  rwa [Text.trimStart_eq_self]
  intro e he
  rw [Option.mem_unique he hc]
  exact hblank

/-- A number reads its text, with or without the blanks before it. -/
theorem item_numeric_written {part : NumericPart} {padding : Padding}
    (hslots : part.slots?.isSome = true)
    (hone : Writing.numeric? moment.date (some moment.time) padding part = some one)
    (hprecision : ∀ digits ∈ (Item.numeric part padding).precision?,
      fraction = moment.time.roundedFraction digits)
    (hends : (Item.numeric part padding).EndsBefore rest)
    (hinput : input = one ++ rest ∨ input = Text.trimStart (one ++ rest)) :
    Reading.item (.numeric part padding) (Fields.ofSlots told moment fraction) input =
      .ok (Fields.ofSlots ((Item.numeric part padding).told moment.time ++ told) moment fraction,
        rest) := by
  obtain ⟨slots, hslots⟩ := Option.isSome_iff_exists.mp hslots
  have hfraction : part = .nanosecond → fraction = moment.time.fraction := by
    rintro rfl
    rw [hprecision 9 rfl, Time.roundedFraction_nine]
  have hread := @numeric_written moment part slots padding one told fraction hslots hone
    hfraction rest hends
  have htold : (Item.numeric part padding).told moment.time = slots := by
    simp [Item.told, Item.slots?, hslots]
  rw [htold]
  rcases hinput with rfl | rfl
  · exact hread
  · exact (numeric_trimStart part _ _).trans hread

/-- A fraction reads its text.  When it has none, the blanks before the rest may be gone. -/
theorem item_fraction_written {part : FractionPart}
    (hpart : 0 < part.precision ∧ part.precision ≤ 9)
    (hinput : input = Writing.fractionText moment.time part ++ rest ∨
      input = Text.trimStart (Writing.fractionText moment.time part ++ rest))
    (hends : (Item.fraction part).EndsBefore rest) :
    ∃ left, (left = rest ∨ left = Text.trimStart rest) ∧
      Reading.item (.fraction part)
          (Fields.ofSlots told moment (moment.time.roundedFraction part.precision)) input =
        .ok (Fields.ofSlots ((Item.fraction part).told moment.time ++ told) moment
          (moment.time.roundedFraction part.precision), left) := by
  have htold : (Item.fraction part).told moment.time =
      if part = .asNeeded ∧ moment.time.fraction = 0 then [] else [.nanosecond] := by
    simp only [Item.told, Item.fraction.injEq]
    rfl
  rw [htold]
  by_cases hzero : part = .asNeeded ∧ moment.time.fraction = 0
  · obtain ⟨rfl, hwhole⟩ := hzero
    have htext : Writing.fractionText moment.time .asNeeded = [] := if_pos hwhole
    rw [htext, List.nil_append] at hinput
    refine ⟨input, hinput, ?_⟩
    rw [if_pos ⟨rfl, hwhole⟩]
    refine fraction_of_missing ?_
    rcases hinput with rfl | rfl
    · exact head_ne_of_trimStart (by decide) hends.2
    · exact hends.2
  · obtain ⟨c, cs, htext, hblank⟩ := Pattern.exists_head_fraction hzero
    rw [input_eq hinput htext hblank]
    refine ⟨rest, .inl rfl, fraction_written hpart ?_⟩
    rintro rfl c hc
    exact ⟨hends.1 c hc, head_ne_of_trimStart (by decide) hends.2 c hc⟩

/-- An item reads its text, with or without the blanks before it, and leaves the rest, with or
without the blanks before that. -/
theorem item_written {item : Item} (hsplit : item.isSplit = true ∧ item ≠ .literal [])
    (hslots : item.slots?.isSome = true)
    (hone : Writing.item? moment.date (some moment.time) item = some one)
    (hprecision : ∀ digits ∈ item.precision?, fraction = moment.time.roundedFraction digits)
    (hends : item.EndsBefore rest)
    (hinput : input = one ++ rest ∨ input = Text.trimStart (one ++ rest)) :
    ∃ left, (left = rest ∨ left = Text.trimStart rest) ∧
      Reading.item item (Fields.ofSlots told moment fraction) input =
        .ok (Fields.ofSlots (item.told moment.time ++ told) moment fraction, left) := by
  cases item with
  | literal cs =>
      cases hone
      obtain ⟨c, cs, rfl, hblank⟩ := Pattern.exists_head_literal hsplit.1 hsplit.2
      rw [input_eq hinput rfl hblank]
      exact ⟨rest, .inl rfl, item_literal_append _ _ _⟩
  | blank cs =>
      cases hone
      obtain ⟨-, hblanks⟩ := Pattern.exists_head_blank hsplit.1
      have htrim : Text.trimStart input = Text.trimStart rest := by
        rcases hinput with rfl | rfl
        · exact Text.trimStart_append_blanks hblanks rest
        · rw [Text.trimStart_idem, Text.trimStart_append_blanks hblanks]
      refine ⟨Text.trimStart rest, .inr rfl, ?_⟩
      rw [← htrim]
      rfl
  | numeric part padding =>
      exact ⟨rest, .inl rfl, item_numeric_written hslots hone hprecision hends hinput⟩
  | name part =>
      obtain ⟨c, cs, htext, hblank, -, -⟩ := Pattern.exists_head_name hone
      rw [input_eq hinput htext hblank]
      exact ⟨rest, .inl rfl, name_written hone rest⟩
  | fraction part =>
      obtain rfl : Writing.fractionText moment.time part = one := Option.some.inj hone
      have hpart : 0 < part.precision ∧ part.precision ≤ 9 := by
        simpa [Item.isSplit] using hsplit.1
      obtain rfl := hprecision part.precision rfl
      exact item_fraction_written hpart hinput hends
  | zone part => cases hslots
  | unknown => cases hslots

end Reading

/-! ## Items in turn -/

section

variable {items : List Item} {told : List Slot} {moment : DateTime} {fraction : Nat}
  {text input : List Char}

/-- An item that ends where its own text does ends before the text of the items after it. -/
theorem Pattern.endsBefore_writeItems {item : Item}
    (hsplit : ∀ item ∈ items, item.isSplit = true ∧ item ≠ .literal [])
    (hends : endsBefore items item = true)
    (htext : writeItems? moment.date (some moment.time) items = some text) :
    item.EndsBefore text := by
  cases item with
  | numeric part padding =>
      rw [endsBefore, Bool.or_eq_true] at hends
      exact hends.imp_right fun hstart => head_writeItems hsplit hstart htext
  | fraction part =>
      cases part with
      | asNeeded =>
          rw [endsBefore, Bool.and_eq_true] at hends
          exact ⟨head_writeItems hsplit hends.1 htext,
            head_trimStart_writeItems hsplit hends.2 htext⟩
      | _ => trivial
  | _ => trivial

/-- An item that is delimited with those after it ends where its own text does. -/
theorem Pattern.endsBefore_of_isDelimited {item : Item} (h : isDelimited (item :: items) = true) :
    endsBefore items item = true :=
  (Bool.and_eq_true_iff.mp h).1

/-- The items after a delimited item are delimited. -/
theorem Pattern.isDelimited_tail {item : Item} (h : isDelimited (item :: items) = true) :
    isDelimited items = true :=
  (Bool.and_eq_true_iff.mp h).2

/-- Whether an item tells its numbers, its fraction with as many digits as the given one. -/
def Item.IsTold (time : Time) (fraction : Nat) (item : Item) : Prop :=
  item.slots?.isSome = true ∧ ∀ digits ∈ item.precision?, fraction = time.roundedFraction digits

/-- Items tell all of their numbers. -/
theorem readItems_written
    (hsplit : ∀ item ∈ items, item.isSplit = true ∧ item ≠ .literal [])
    (hdelimited : Pattern.isDelimited items = true)
    (htold : ∀ item ∈ items, item.IsTold moment.time fraction)
    (htext : writeItems? moment.date (some moment.time) items = some text)
    (hinput : input = text ∨ input = Text.trimStart text) :
    readItems items (Fields.ofSlots told moment fraction) input =
      .ok (Fields.ofSlots (items.flatMap (Item.told moment.time) ++ told) moment fraction, []) := by
  induction items generalizing told text input with
  | nil =>
      cases htext
      rcases hinput with rfl | rfl <;> rfl
  | cons item rest ih =>
      obtain ⟨one, others, hone, hothers, rfl⟩ := Pattern.writeItems?_cons htext
      obtain ⟨hitem, hrest⟩ := List.forall_mem_cons.mp hsplit
      obtain ⟨⟨hslots, hprecision⟩, hmore⟩ := List.forall_mem_cons.mp htold
      have hends := Pattern.endsBefore_writeItems hrest
        (Pattern.endsBefore_of_isDelimited hdelimited) hothers
      obtain ⟨left, hleft, hread⟩ := @Reading.item_written told moment fraction one others input
        item hitem hslots hone hprecision hends hinput
      rw [readItems, hread, ok_bind]
      dsimp only
      rw [ih hrest (Pattern.isDelimited_tail hdelimited) hmore hothers hleft]
      refine congrArg (fun fields => Except.ok (fields, _))
        (Fields.ofSlots_congr ?_ moment fraction)
      intro slot
      simp only [List.flatMap_cons, List.mem_append]
      exact or_left_comm.trans or_assoc.symm

end

end Calendar
end SchemaForm
