import SchemaForm.Proofs.Calendar.Named

/-!
# Items of patterns

A pattern falls into literals without blank characters, blanks, and specifiers.
What can be told from a date and time that is written under a pattern, and where
one item ends and the next one starts, is decided by the items alone.

Main results:

- Theorem `isSplit_of_mem_items`: literals and blanks of a pattern are kept apart.
- Theorem `isSome_writeItems?`: a pattern can be written when no item asks for what is missing.
- Theorem `head_writeItems`: where items start without a digit, so does their text.
-/

namespace SchemaForm
namespace Calendar

/-- Whether a part belongs to the time of day. -/
def NumericPart.isOfTime : NumericPart → Bool
  | .hour | .hour12 | .minute | .second | .nanosecond | .timestamp => true
  | _ => false

/-- Whether a name belongs to the time of day. -/
def NamePart.isOfTime : NamePart → Bool
  | .lowerHalfOfDay | .upperHalfOfDay => true
  | _ => false

namespace Item

/-- Whether an item asks for the time of day. -/
def asksTime : Item → Bool
  | .numeric part _ => part.isOfTime
  | .name part => part.isOfTime
  | .fraction _ => true
  | _ => false

/-- Whether an item asks for a time zone. -/
def asksZone : Item → Bool
  | .zone _ => true
  | _ => false

/-- The numbers that an item tells, if it tells the same of every date and time. -/
def slots? : Item → Option (List Slot)
  | .literal _ | .blank _ => some []
  | .numeric part _ => part.slots?
  | .name part => some [part.slot]
  | .fraction _ => some [.nanosecond]
  | .zone _ | .unknown => none

/-- How many digits of a fraction an item writes at most. -/
def precision? : Item → Option Nat
  | .numeric .nanosecond _ => some 9
  | .fraction part => some part.precision
  | _ => none

/-- Whether an item is a year or ISO year in full. -/
def isFullYear : Item → Bool
  | .numeric .year _ | .numeric .isoYear _ => true
  | _ => false

/-- Literals without blank characters, blanks, and fractions of one to nine digits. -/
def isSplit : Item → Bool
  | .literal text => text.all fun c => !Text.isBlank c
  | .blank text => !text.isEmpty && text.all Text.isBlank
  | .fraction part => 0 < part.precision && part.precision ≤ 9
  | _ => true

end Item

namespace Pattern

/-! ## Splitting -/

/-- The items of a letter are kept apart. -/
theorem isSplit_of_ofLetter {c : Char} {found : List Item} (h : ofLetter? c = some found) :
    ∀ item ∈ found, item.isSplit = true := by
  unfold ofLetter? at h
  split at h <;> cases h <;> decide

/-- A fraction that is told its digits has three, six or nine. -/
theorem digitCount_le {c : Char} {n : Nat} (h : digitCount? c = some n) : 0 < n ∧ n ≤ 9 := by
  unfold digitCount? at h
  split at h <;> cases h <;> decide

/-- Such a fraction is kept apart. -/
theorem isSplit_fraction {part : FractionPart} (hpos : 0 < part.precision)
    (hle : part.precision ≤ 9) : (Item.fraction part).isSplit = true := by
  simp [Item.isSplit, hpos, hle]

/-- The items of a specifier are kept apart. -/
theorem isSplit_of_specifier {cs rest : List Char} {found : List Item}
    (h : specifier? cs = some (found, rest)) : ∀ item ∈ found, item.isSplit = true := by
  unfold specifier? at h
  split at h
  · cases h
  · cases h; decide
  · cases h; decide
  · cases h; decide
  · cases h; decide
  · cases h; decide
  · rw [Option.map_eq_some_iff] at h
    obtain ⟨n, hcount, heq⟩ := h
    obtain ⟨hpos, hle⟩ := digitCount_le hcount
    cases heq
    intro item hitem
    rw [List.mem_singleton.mp hitem]
    exact isSplit_fraction hpos hle
  · split at h
    · split at h
      · cases h
      · split at h
        · cases h
          intro item hitem
          rw [List.mem_singleton.mp hitem]
          rfl
        · cases h
    · split at h
      · obtain ⟨hpos, hle⟩ := digitCount_le ‹digitCount? _ = some _›
        cases h
        intro item hitem
        rw [List.mem_singleton.mp hitem]
        exact isSplit_fraction hpos hle
      · cases h
      · rw [Option.map_eq_some_iff] at h
        obtain ⟨letters, hletters, heq⟩ := h
        cases heq
        exact isSplit_of_ofLetter hletters

/-- The items of a text are kept apart. -/
theorem isSplit_scan (fuel : Nat) (cs : List Char) :
    ∀ item ∈ scan fuel cs, item.isSplit = true := by
  induction fuel generalizing cs with
  | zero => simp [scan]
  | succ fuel ih =>
      intro item hitem
      cases cs with
      | nil => simp [scan] at hitem
      | cons c rest =>
          by_cases hpercent : c = '%'
          · subst hpercent
            simp only [scan] at hitem
            split at hitem
            · rename_i found after hfound
              simp only [scan.mark, List.cons_append, List.mem_cons, List.mem_append,
                List.not_mem_nil, or_false] at hitem
              rcases hitem with rfl | (hitem | rfl) | hitem
              · rfl
              · exact isSplit_of_specifier hfound item hitem
              · rfl
              · exact ih after item hitem
            · rw [List.mem_singleton.mp hitem]
              rfl
          · simp only [scan] at hitem
            rcases List.mem_cons.mp hitem with rfl | hitem
            · split <;> simp_all [Item.isSplit]
            · exact ih rest item hitem

/-- Joining keeps items apart. -/
theorem isSplit_join {items : List Item} (h : ∀ item ∈ items, item.isSplit = true) :
    ∀ item ∈ join items, item.isSplit = true := by
  induction items with
  | nil => simp [join]
  | cons first rest ih =>
      have hrest := ih fun item hitem => h item (List.mem_cons_of_mem _ hitem)
      have hfirst := h first List.mem_cons_self
      unfold join
      split
      · exact List.forall_mem_cons.mpr ⟨rfl, hrest⟩
      · rename_i c cs d ds joined hjoined
        rw [hjoined, List.forall_mem_cons] at hrest
        refine List.forall_mem_cons.mpr ⟨?_, hrest.2⟩
        simp_all [Item.isSplit]
      · rename_i text more joined hjoined
        rw [hjoined, List.forall_mem_cons] at hrest
        refine List.forall_mem_cons.mpr ⟨?_, hrest.2⟩
        simp_all [Item.isSplit]
      · exact List.forall_mem_cons.mpr ⟨hfirst, hrest⟩

/-- Literals and blanks of a pattern are kept apart, and none is empty. -/
theorem isSplit_of_mem_items {pattern : List Char} {item : Item} (h : item ∈ items pattern) :
    item.isSplit = true ∧ item ≠ .literal [] := by
  simp only [items, List.mem_filter, decide_eq_true_eq, ne_eq] at h
  exact ⟨isSplit_join (isSplit_scan _ _) item h.1, h.2⟩

/-! ## Writing -/

/-- A number has a text unless it belongs to a time that is missing. -/
theorem isSome_numeric? (date : Date) (time : Option Time) (padding : Padding)
    (part : NumericPart) :
    (Writing.numeric? date time padding part).isSome = (time.isSome || !part.isOfTime) := by
  cases time <;> cases part <;> rfl

/-- A name has a text unless it belongs to a time that is missing. -/
theorem isSome_name? (date : Date) (time : Option Time) (part : NamePart) :
    (Writing.name? date time part).isSome = (time.isSome || !part.isOfTime) := by
  cases time <;> cases part <;> rfl

/-- A known item has a text unless it asks for a time zone or for a time that is missing. -/
theorem isSome_item? (date : Date) (time : Option Time) {item : Item} (h : item ≠ .unknown) :
    (Writing.item? date time item).isSome =
      (!item.asksZone && (time.isSome || !item.asksTime)) := by
  cases item with
  | literal text => simp [Writing.item?, Item.asksZone, Item.asksTime]
  | blank text => simp [Writing.item?, Item.asksZone, Item.asksTime]
  | numeric part padding =>
      simp [Writing.item?, Item.asksZone, Item.asksTime, isSome_numeric?]
  | name part => simp [Writing.item?, Item.asksZone, Item.asksTime, isSome_name?]
  | fraction part => simp [Writing.item?, Item.asksZone, Item.asksTime]
  | zone part => rfl
  | unknown => exact absurd rfl h

/-- Known items have a text exactly when none asks for a time zone, or for a time that is
missing. -/
theorem isSome_writeItems? (date : Date) (time : Option Time) {items : List Item}
    (h : .unknown ∉ items) :
    (writeItems? date time items).isSome =
      items.all fun item => !item.asksZone && (time.isSome || !item.asksTime) := by
  induction items with
  | nil => rfl
  | cons item rest ih =>
      rw [List.mem_cons, not_or] at h
      rw [List.all_cons, ← isSome_item? date time (Ne.symm h.1), ← ih h.2]
      simp only [writeItems?]
      cases Writing.item? date time item <;> cases writeItems? date time rest <;> rfl

/-- Items are written in turn. -/
theorem writeItems?_cons {date : Date} {time : Option Time} {item : Item} {rest : List Item}
    {text : List Char} (h : writeItems? date time (item :: rest) = some text) :
    ∃ one others, Writing.item? date time item = some one ∧
      writeItems? date time rest = some others ∧ text = one ++ others := by
  simp only [writeItems?] at h
  split at h
  · rename_i one others hone hothers
    exact ⟨one, others, hone, hothers, (Option.some.inj h).symm⟩
  · cases h

/-- What is written without a time is written with every time. -/
theorem writeItems?_of_none {date : Date} {items : List Item} {text : List Char}
    (h : writeItems? date none items = some text) (time : Time) :
    writeItems? date (some time) items = some text := by
  induction items generalizing text with
  | nil => exact h
  | cons item rest ih =>
      obtain ⟨one, others, hone, hothers, rfl⟩ := writeItems?_cons h
      have hitem : Writing.item? date (some time) item = some one := by
        cases item with
        | numeric part padding => cases part <;> first | exact hone | cases hone
        | name part => cases part <;> first | exact hone | cases hone
        | fraction part => cases hone
        | _ => exact hone
      simp only [writeItems?, hitem, ih hothers]

/-! ## Where items start -/

/-- Whether no text of items starts with a digit. -/
def startsWithoutDigit : List Item → Bool
  | [] => true
  | .literal text :: _ => !text.head?.any Char.isDigit
  | .blank _ :: _ | .name _ :: _ | .fraction (.pointed _) :: _ => true
  | .fraction .asNeeded :: rest => startsWithoutDigit rest
  | _ => false

/-- Whether no text of items starts with a point, even after blanks. -/
def startsWithoutPoint : List Item → Bool
  | [] => true
  | .literal text :: _ => text.head? != some '.'
  | .blank _ :: rest => startsWithoutPoint rest
  | .numeric .. :: _ | .name _ :: _ | .fraction (.bare _) :: _ => true
  | _ => false

/-- Whether an item ends where its own text does: a number that may be shorter or longer than its
place is followed by no digit, and a fraction that may be missing by no digit and no point. -/
def endsBefore (rest : List Item) : Item → Bool
  | .numeric part padding => part.isFixed padding || startsWithoutDigit rest
  | .fraction .asNeeded => startsWithoutDigit rest && startsWithoutPoint rest
  | _ => true

/-- Whether every item of a text ends where its own text does. -/
def isDelimited : List Item → Bool
  | [] => true
  | item :: rest => endsBefore rest item && isDelimited rest

/-- Whether the texts of items start with a digit, whatever the year. -/
def startsWithDigit : List Item → Bool
  | .literal text :: _ => text.head?.any Char.isDigit
  | .numeric part padding :: _ =>
      part.slots?.isSome && part != .year && part != .isoYear && padding != .blank
  | .fraction (.bare _) :: _ => true
  | _ => false

/-- Whether the first item of a text that does not end where its own text does is a full year that
is followed by a digit. -/
def yearRunsOn : List Item → Bool
  | [] => false
  | item :: rest =>
      if endsBefore rest item then yearRunsOn rest
      else item.isFullYear && startsWithDigit rest

variable {moment : DateTime} {items : List Item} {text : List Char}

/-- Whether a text starts with a character that is no blank, no digit and no point. -/
def startsAsWord : List Char → Bool
  | [] => false
  | c :: _ => !Text.isBlank c && !c.isDigit && c != '.'

theorem startsAsWord_months :
    ∀ i < Names.months.length, startsAsWord (Names.short Names.months i) = true ∧
      startsAsWord (Names.long Names.months i) = true := by
  decide

theorem startsAsWord_weekdays :
    ∀ i < Names.weekdays.length, startsAsWord (Names.short Names.weekdays i) = true ∧
      startsAsWord (Names.long Names.weekdays i) = true := by
  decide

/-- A written name starts with a letter. -/
theorem exists_head_name {part : NamePart}
    (h : Writing.name? moment.date (some moment.time) part = some text) :
    ∃ c cs, text = c :: cs ∧ Text.isBlank c = false ∧ c.isDigit = false ∧ c ≠ '.' := by
  have hword : startsAsWord text = true := by
    have hmonth : moment.date.month - 1 < Names.months.length := by
      have hle := moment.date.month_le
      rw [Names.length_months]
      omega
    have hweekday : moment.date.weekday < Names.weekdays.length := moment.date.weekday_lt
    cases part with
    | shortMonth =>
        cases h
        exact (startsAsWord_months _ hmonth).1
    | longMonth =>
        cases h
        exact (startsAsWord_months _ hmonth).2
    | shortWeekday =>
        cases h
        exact (startsAsWord_weekdays _ hweekday).1
    | longWeekday =>
        cases h
        exact (startsAsWord_weekdays _ hweekday).2
    | lowerHalfOfDay =>
        cases h
        dsimp only
        split <;> rfl
    | upperHalfOfDay =>
        cases h
        dsimp only
        split <;> rfl
  cases text with
  | nil => cases hword
  | cons c cs =>
      simp only [startsAsWord, Bool.and_eq_true, Bool.not_eq_true', bne_iff_ne] at hword
      exact ⟨c, cs, rfl, hword.1.1, hword.1.2, hword.2⟩

/-- A number starts after its blanks with its sign or a digit. -/
theorem exists_head_signed (width : Nat) (padding : Padding) (n : Int) :
    ∃ c cs, Text.trimStart (Writing.signed width padding false n) = c :: cs ∧ c ≠ '.' := by
  have hsign : ∀ c ∈ (if n < 0 then ['-'] else []), Text.isBlank c = false ∧ c ≠ '.' := by
    intro c hc
    split at hc
    · rw [List.mem_singleton.mp hc]
      decide
    · cases hc
  have hdigits : ∀ c, c.isDigit = true → Text.isBlank c = false ∧ c ≠ '.' := by
    intro c hc
    refine ⟨Text.isBlank_of_isDigit hc, ?_⟩
    rintro rfl
    cases hc
  -- The text is blanks, then a sign, then digits.
  obtain ⟨blanks, cs, htext, hne, hcs⟩ : ∃ blanks cs, Writing.signed width padding false n =
      List.replicate blanks ' ' ++ ((if n < 0 then ['-'] else []) ++ cs) ∧ cs ≠ [] ∧
        ∀ c ∈ cs, c.isDigit = true := by
    cases padding with
    | nothing => exact ⟨0, _, rfl, Nat.toDigits_ne_nil, fun c hc => Text.isDigit_of_mem hc⟩
    | zero =>
        exact ⟨0, _, rfl, Writing.fill_ne_nil _ _, fun c hc => Writing.isDigit_of_mem_fill hc⟩
    | blank => exact ⟨_, _, rfl, Nat.toDigits_ne_nil, fun c hc => Text.isDigit_of_mem hc⟩
  have hall : ∀ c ∈ (if n < 0 then ['-'] else []) ++ cs, Text.isBlank c = false ∧ c ≠ '.' := by
    intro c hc
    rcases List.mem_append.mp hc with hc | hc
    · exact hsign c hc
    · exact hdigits c (hcs c hc)
  have hsome : (if n < 0 then ['-'] else []) ++ cs ≠ [] := by simp [hne]
  have htrim := Reading.trimStart_replicate hsome (fun c hc => (hall c hc).1) blanks []
  rw [List.append_nil, List.append_nil, ← htext] at htrim
  obtain ⟨c, rest, hcons⟩ := List.exists_cons_of_ne_nil hsome
  refine ⟨c, rest, htrim.trans hcons, (hall c ?_).2⟩
  rw [hcons]
  exact List.mem_cons_self

/-- A number without padding starts with a digit. -/
theorem exists_head_digits (n : Nat) :
    ∃ c cs, Writing.digits n = c :: cs ∧ c.isDigit = true := by
  cases htext : Writing.digits n with
  | nil => exact absurd htext Nat.toDigits_ne_nil
  | cons c cs =>
      refine ⟨c, cs, rfl, Text.isDigit_of_mem (show c ∈ Writing.digits n from ?_)⟩
      rw [htext]
      exact List.mem_cons_self

/-- The tens of a century are no blank and no point, even beyond the digit nine. -/
theorem century_tens : ∀ tens < 26, Text.isBlank (Char.ofNat ('0'.toNat + tens)) = false ∧
    Char.ofNat ('0'.toNat + tens) ≠ '.' := by
  decide

/-- A century starts after its blanks, and not with a point. -/
theorem exists_head_century (padding : Padding) (year : Int) :
    ∃ c cs, Text.trimStart (Writing.centuryText padding year) = c :: cs ∧ c ≠ '.' := by
  obtain ⟨d, ds, hones, hdigit⟩ := exists_head_digits (((year / 100) % 256).toNat % 10)
  have hblank := Text.isBlank_of_isDigit hdigit
  have hpoint : d ≠ '.' := by
    rintro rfl
    cases hdigit
  unfold Writing.centuryText
  dsimp only
  rw [hones]
  split
  · exact ⟨d, ds, Text.trimStart_eq_self (by simpa using hblank), hpoint⟩
  · refine ⟨d, ds, ?_, hpoint⟩
    rw [Text.trimStart_append_blanks (by simp [Text.isBlank])]
    exact Text.trimStart_eq_self (by simpa using hblank)
  · obtain ⟨htens, htensPoint⟩ := century_tens (((year / 100) % 256).toNat / 10) (by omega)
    exact ⟨_, d :: ds, Text.trimStart_eq_self (by simpa using htens), htensPoint⟩

/-- A written number starts after its blanks, and not with a point. -/
theorem exists_head_numeric {part : NumericPart} {padding : Padding}
    (h : Writing.numeric? moment.date (some moment.time) padding part = some text) :
    ∃ c cs, Text.trimStart text = c :: cs ∧ c ≠ '.' := by
  cases hslots : part.slots? with
  | none =>
      cases part with
      | century =>
          cases h
          exact exists_head_century padding _
      | timestamp =>
          cases h
          exact exists_head_signed 9 padding _
      | _ => cases hslots
  | some slots =>
      have hend : ∀ c ∈ ([] : List Char).head?, c.isDigit = false := by simp
      have hread := Reading.number_written hslots h (.inr hend)
      rw [List.append_nil] at hread
      cases htrim : Text.trimStart text with
      | nil =>
          rw [htrim] at hread
          split at hread <;> cases hread
      | cons c cs =>
          refine ⟨c, cs, rfl, ?_⟩
          rintro rfl
          rw [htrim] at hread
          split at hread <;> simp [Reading.signedNumber, Reading.number] at hread

/-- Digits that fill a place start with a digit. -/
theorem exists_digit_fill (count n : Nat) :
    ∃ c cs, Writing.fill count '0' (Writing.digits n) = c :: cs ∧ c.isDigit = true := by
  obtain ⟨c, cs, htext⟩ := List.exists_cons_of_ne_nil (Writing.fill_ne_nil count n)
  have hmem : c ∈ Writing.fill count '0' (Writing.digits n) := by
    rw [htext]
    exact List.mem_cons_self
  exact ⟨c, cs, htext, Writing.isDigit_of_mem_fill hmem⟩

/-- A blank item has blanks only, and at least one. -/
theorem exists_head_blank {cs : List Char} (h : (Item.blank cs).isSplit = true) :
    (∃ c rest, cs = c :: rest) ∧ ∀ c ∈ cs, Text.isBlank c = true := by
  simp only [Item.isSplit, Bool.and_eq_true, Bool.not_eq_true', List.all_eq_true] at h
  refine ⟨List.exists_cons_of_ne_nil ?_, h.2⟩
  rintro rfl
  cases h.1

/-- A literal has a character that is not blank, and no others. -/
theorem exists_head_literal {cs : List Char} (h : (Item.literal cs).isSplit = true)
    (hne : Item.literal cs ≠ .literal []) :
    ∃ c rest, cs = c :: rest ∧ Text.isBlank c = false := by
  obtain ⟨c, rest, rfl⟩ := List.exists_cons_of_ne_nil fun hnil => hne (congrArg Item.literal hnil)
  simp only [Item.isSplit, List.all_cons, Bool.and_eq_true, Bool.not_eq_true'] at h
  exact ⟨c, rest, rfl, h.1⟩

/-- As many digits of a fraction as needed come after a point, if there are any. -/
theorem cases_fractionText_asNeeded (time : Time) :
    (time.fraction = 0 ∧ Writing.fractionText time .asNeeded = []) ∨
      ∃ cs, Writing.fractionText time .asNeeded = '.' :: cs := by
  by_cases hzero : time.fraction = 0
  · exact .inl ⟨hzero, if_pos hzero⟩
  · obtain ⟨_, _, -, -, htext, -⟩ := Reading.exists_fractionText_asNeeded hzero
    exact .inr ⟨_, htext⟩

/-- A fraction that is not missing does not start with a blank. -/
theorem exists_head_fraction {time : Time} {part : FractionPart}
    (h : ¬(part = .asNeeded ∧ time.fraction = 0)) :
    ∃ c cs, Writing.fractionText time part = c :: cs ∧ Text.isBlank c = false := by
  cases part with
  | asNeeded =>
      rcases cases_fractionText_asNeeded time with ⟨hzero, -⟩ | ⟨cs, htext⟩
      · exact absurd ⟨rfl, hzero⟩ h
      · exact ⟨'.', cs, htext, by decide⟩
  | pointed count => exact ⟨'.', _, rfl, by decide⟩
  | bare count =>
      obtain ⟨c, cs, htext, hdigit⟩ := exists_digit_fill count (time.fraction / tenTo (9 - count))
      exact ⟨c, cs, htext, Text.isBlank_of_isDigit hdigit⟩

/-- Where items start without a digit, so does their text. -/
theorem head_writeItems (hsplit : ∀ item ∈ items, item.isSplit = true ∧ item ≠ .literal [])
    (hstart : startsWithoutDigit items = true)
    (htext : writeItems? moment.date (some moment.time) items = some text) :
    ∀ c ∈ text.head?, c.isDigit = false := by
  induction items generalizing text with
  | nil =>
      cases htext
      simp
  | cons item rest ih =>
      obtain ⟨one, others, hone, hothers, rfl⟩ := writeItems?_cons htext
      obtain ⟨⟨hitem, hne⟩, hrest⟩ := List.forall_mem_cons.mp hsplit
      cases item with
      | literal cs =>
          cases hone
          obtain ⟨c, cs, rfl, -⟩ := exists_head_literal hitem hne
          simpa [startsWithoutDigit] using hstart
      | blank cs =>
          cases hone
          obtain ⟨⟨c, cs, rfl⟩, hblanks⟩ := exists_head_blank hitem
          have hblank := hblanks c List.mem_cons_self
          rintro d hd
          cases hd
          by_contra hdigit
          rw [Bool.not_eq_false] at hdigit
          rw [Text.isBlank_of_isDigit hdigit] at hblank
          cases hblank
      | name part =>
          obtain ⟨c, cs, rfl, -, hdigit, -⟩ := exists_head_name hone
          simpa using hdigit
      | fraction part =>
          cases hone
          dsimp only
          cases part with
          | asNeeded =>
              rcases cases_fractionText_asNeeded moment.time with ⟨-, htext⟩ | ⟨cs, htext⟩
              · rw [htext, List.nil_append]
                exact ih hrest hstart hothers
              · rw [htext]
                simp
          | pointed count => simp [Writing.fractionText]
          | bare count => cases hstart
      | _ => cases hstart

/-- A number that is padded with no blanks starts with a digit. -/
theorem exists_digit_signed {padding : Padding} (hpadding : padding ≠ .blank) (width n : Nat) :
    ∃ c cs, Writing.signed width padding false n = c :: cs ∧ c.isDigit = true := by
  have hsign : ¬((n : Int) < 0) := by omega
  cases padding with
  | nothing =>
      simp only [Writing.signed, if_neg hsign, Bool.false_eq_true, if_false, List.nil_append,
        Int.natAbs_natCast]
      exact exists_head_digits n
  | zero =>
      simp only [Writing.signed, if_neg hsign, Bool.false_eq_true, if_false, List.nil_append,
        Int.natAbs_natCast, List.length_nil, Nat.sub_zero]
      exact exists_digit_fill width n
  | blank => exact absurd rfl hpadding

/-- Where items start with a digit, so does their text. -/
theorem exists_digit_writeItems (hstart : startsWithDigit items = true)
    (htext : writeItems? moment.date (some moment.time) items = some text) :
    ∃ c cs, text = c :: cs ∧ c.isDigit = true := by
  have happend : ∀ {one : List Char}, (∃ c cs, one = c :: cs ∧ c.isDigit = true) →
      ∀ others, ∃ c cs, one ++ others = c :: cs ∧ c.isDigit = true := by
    rintro one ⟨c, cs, rfl, hdigit⟩ others
    exact ⟨c, cs ++ others, rfl, hdigit⟩
  cases items with
  | nil => cases hstart
  | cons item rest =>
      obtain ⟨one, others, hone, -, rfl⟩ := writeItems?_cons htext
      refine happend ?_ others
      cases item with
      | literal cs =>
          cases hone
          cases one with
          | nil => cases hstart
          | cons c cs => exact ⟨c, cs, rfl, by simpa [startsWithDigit] using hstart⟩
      | numeric part padding =>
          simp only [startsWithDigit, Bool.and_eq_true, bne_iff_ne] at hstart
          obtain ⟨⟨⟨hsome, hyear⟩, hisoYear⟩, hpadding⟩ := hstart
          obtain ⟨slots, hslots⟩ := Option.isSome_iff_exists.mp hsome
          obtain ⟨n, hn, -⟩ := @Reading.exists_value_lt moment part slots hslots ⟨hyear, hisoYear⟩
          rw [Reading.text_numeric hslots ⟨hyear, hisoYear⟩ hone, hn]
          exact exists_digit_signed hpadding _ n
      | fraction part =>
          cases hone
          cases part with
          | bare count => exact exists_digit_fill count _
          | _ => cases hstart
      | _ => cases hstart

/-- Where items start without a point, so does their text after blanks. -/
theorem head_trimStart_writeItems
    (hsplit : ∀ item ∈ items, item.isSplit = true ∧ item ≠ .literal [])
    (hstart : startsWithoutPoint items = true)
    (htext : writeItems? moment.date (some moment.time) items = some text) :
    ∀ c ∈ (Text.trimStart text).head?, c ≠ '.' := by
  induction items generalizing text with
  | nil =>
      cases htext
      simp [Text.trimStart]
  | cons item rest ih =>
      obtain ⟨one, others, hone, hothers, rfl⟩ := writeItems?_cons htext
      obtain ⟨⟨hitem, hne⟩, hrest⟩ := List.forall_mem_cons.mp hsplit
      cases item with
      | literal cs =>
          cases hone
          obtain ⟨c, cs, rfl, hblank⟩ := exists_head_literal hitem hne
          rw [List.cons_append, Text.trimStart_eq_self (by simpa using hblank)]
          simpa [startsWithoutPoint] using hstart
      | blank cs =>
          cases hone
          obtain ⟨-, hblanks⟩ := exists_head_blank hitem
          rw [Text.trimStart_append_blanks hblanks]
          exact ih hrest hstart hothers
      | numeric part padding =>
          obtain ⟨c, cs, htrim, hpoint⟩ := exists_head_numeric hone
          rw [Text.trimStart_append_of_cons htrim]
          simpa using hpoint
      | name part =>
          obtain ⟨c, cs, rfl, hblank, -, hpoint⟩ := exists_head_name hone
          rw [List.cons_append, Text.trimStart_eq_self (by simpa using hblank)]
          simpa using hpoint
      | fraction part =>
          cases hone
          cases part with
          | bare count =>
              obtain ⟨c, cs, htext, hdigit⟩ :=
                exists_digit_fill count (moment.time.fraction / tenTo (9 - count))
              have hblank := Text.isBlank_of_isDigit hdigit
              dsimp only [Writing.fractionText]
              rw [htext, List.cons_append, Text.trimStart_eq_self (by simpa using hblank)]
              rintro d hd rfl
              cases hd
              cases hdigit
          | _ => cases hstart
      | _ => cases hstart

end Pattern
end Calendar
end SchemaForm
