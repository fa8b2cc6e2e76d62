import Mathlib.Data.List.Find
import SchemaForm.Proofs.Calendar.Padded

/-!
# Names and fractions read back

Names are told apart by their first three letters, whatever follows them.  A
fraction with a fixed number of digits may be followed by anything, and one with
as many as needed by everything but a digit or a point.

Main results:

- Theorem `shortIndex_short`, Theorem `longIndex_long`: a written name is found.
- Theorem `name_written`: a written name is told.
- Theorem `fraction_written`: a written fraction is told.
-/

namespace SchemaForm
namespace Calendar

open Result

namespace Reading

/-! ## Words -/

/-- A text has at least as many bytes as characters. -/
theorem length_le_byteLength (cs : List Char) : cs.length ≤ byteLength cs := by
  induction cs with
  | nil => exact Nat.le_refl 0
  | cons c cs ih =>
      have hsize := c.utf8Size_pos
      simp only [byteLength, List.length_cons]
      omega

theorem byteLength_append (cs rest : List Char) :
    byteLength (cs ++ rest) = byteLength cs + byteLength rest := by
  induction cs with
  | nil => simp [byteLength]
  | cons c cs ih =>
      simp only [List.cons_append, byteLength, ih]
      omega

/-- A text starts with a word of its length when it is that word in any case. -/
theorem dropWord?_append {word text : List Char} (h : text.length = word.length)
    (rest : List Char) :
    dropWord? word (text ++ rest) =
      if text.map Char.toLower = word.map Char.toLower then some rest else none := by
  rw [dropWord?, ← h, List.take_left, List.drop_left]

/-- Names that are told apart by their first three letters. -/
def AreDistinct (names : List String) : Prop :=
  ∀ i < names.length, (Names.short names i).length = 3 ∧
    (List.range names.length).find? (fun j =>
      decide ((Names.short names i).map Char.toLower = (Names.short names j).map Char.toLower)) =
        some i

theorem areDistinct_months : AreDistinct Names.months := by
  unfold AreDistinct
  decide

theorem areDistinct_weekdays : AreDistinct Names.weekdays := by
  unfold AreDistinct
  decide

/-- A name is found by its first three letters. -/
theorem shortIndex_short {names : List String} (hnames : AreDistinct names) {i : Nat}
    (hi : i < names.length) (rest : List Char) :
    shortIndex names (Names.short names i ++ rest) = .ok (i, rest) := by
  obtain ⟨hlength, hfind⟩ := hnames i hi
  have hbytes := length_le_byteLength (Names.short names i)
  have hsame : ∀ j ∈ List.range names.length,
      (dropWord? (Names.short names j) (Names.short names i ++ rest)).isSome =
        decide ((Names.short names i).map Char.toLower =
          (Names.short names j).map Char.toLower) := by
    intro j hj
    obtain ⟨hother, -⟩ := hnames j (List.mem_range.mp hj)
    rw [dropWord?_append (hlength.trans hother.symm)]
    split <;> simp_all
  have hfound : ((List.range names.length).find? fun j =>
      (dropWord? (Names.short names j) (Names.short names i ++ rest)).isSome) = some i := by
    rw [← hfind]
    exact List.find?_congr hsame
  rw [shortIndex, byteLength_append, if_neg (by omega), hfound, ← hlength, List.drop_left]

/-- A name is found in full. -/
theorem longIndex_long {names : List String} (hnames : AreDistinct names) {i : Nat}
    (hi : i < names.length) (rest : List Char) :
    longIndex names (Names.long names i ++ rest) = .ok (i, rest) := by
  have hsplit : Names.short names i ++ (Names.long names i).drop 3 = Names.long names i :=
    List.take_append_drop 3 _
  have hindex : shortIndex names (Names.long names i ++ rest) =
      .ok (i, (Names.long names i).drop 3 ++ rest) := by
    have hshort := shortIndex_short hnames hi ((Names.long names i).drop 3 ++ rest)
    rwa [← List.append_assoc, hsplit] at hshort
  rw [longIndex, hindex, ok_bind]
  dsimp only
  rw [dropWord?_append rfl, if_pos rfl]
  rfl

end Reading

/-! ## Names -/

/-- The number that a name tells. -/
def NamePart.slot : NamePart → Slot
  | .shortMonth | .longMonth => .month
  | .shortWeekday | .longWeekday => .weekday
  | .lowerHalfOfDay | .upperHalfOfDay => .halfOfDay

namespace Reading

variable {told : List Slot} {moment : DateTime} {fraction : Nat} {text : List Char}

/-- A month is told by its place among the names. -/
theorem setMonth_ofSlots :
    (Fields.ofSlots told moment fraction).setMonth ((moment.date.month - 1 : Nat) + 1) =
      .ok (Fields.ofSlots (.month :: told) moment fraction) := by
  have hmonth := moment.date.month_le
  have hplace : ((moment.date.month - 1 : Nat) : Int) + 1 = moment.date.month := by omega
  rw [hplace]
  exact @tell_ofSlots told moment fraction .month [.month] rfl nofun

/-- The half of the day is read in lower and upper case. -/
theorem name_halfOfDay {part : NamePart}
    (hpart : part = .lowerHalfOfDay ∨ part = .upperHalfOfDay) {afternoon : Bool}
    (htext : text.map Char.toLower = if afternoon then ['p', 'm'] else ['a', 'm'])
    (fields : Fields) (rest : List Char) :
    name part fields (text ++ rest) =
      (fields.setHalfOfDay afternoon).map fun told => (told, rest) := by
  have hlength : text.length = 2 := by
    rw [← List.length_map Char.toLower, htext]
    cases afternoon <;> rfl
  have hbytes := length_le_byteLength text
  have hlong : ¬ byteLength (text ++ rest) < 2 := by
    rw [byteLength_append]
    omega
  have hmorning : dropWord? ['a', 'm'] (text ++ rest) = if afternoon then none else some rest := by
    rw [dropWord?_append hlength, htext]
    cases afternoon <;> rfl
  have hevening : dropWord? ['p', 'm'] (text ++ rest) = if afternoon then some rest else none := by
    rw [dropWord?_append hlength, htext]
    cases afternoon <;> rfl
  -- both parts are read by the same branch
  rcases hpart with rfl | rfl <;>
  · simp only [name, if_neg hlong, hmorning, hevening]
    cases afternoon <;> rfl

/-- A written name is told. -/
theorem name_written {part : NamePart}
    (htext : Writing.name? moment.date (some moment.time) part = some text) (rest : List Char) :
    name part (Fields.ofSlots told moment fraction) (text ++ rest) =
      .ok (Fields.ofSlots (part.slot :: told) moment fraction, rest) := by
  have hmonth : moment.date.month - 1 < Names.months.length := by
    have hle := moment.date.month_le
    rw [Names.length_months]
    omega
  have hweekday : moment.date.weekday < Names.weekdays.length := moment.date.weekday_lt
  cases part with
  | shortMonth =>
      cases htext
      rw [name, shortIndex_short areDistinct_months hmonth, ok_bind]
      dsimp only
      rw [setMonth_ofSlots]
      rfl
  | longMonth =>
      cases htext
      rw [name, longIndex_long areDistinct_months hmonth, ok_bind]
      dsimp only
      rw [setMonth_ofSlots]
      rfl
  | shortWeekday =>
      cases htext
      rw [name, shortIndex_short areDistinct_weekdays hweekday, ok_bind]
      dsimp only
      rw [setWeekday_ofSlots]
      rfl
  | longWeekday =>
      cases htext
      rw [name, longIndex_long areDistinct_weekdays hweekday, ok_bind]
      dsimp only
      rw [setWeekday_ofSlots]
      rfl
  | lowerHalfOfDay =>
      cases htext
      have hhalf : (if moment.time.isAfternoon then ['p', 'm'] else ['a', 'm']).map Char.toLower =
          if moment.time.isAfternoon then ['p', 'm'] else ['a', 'm'] := by
        split <;> rfl
      have hread := name_halfOfDay (.inl rfl) hhalf (Fields.ofSlots told moment fraction) rest
      rw [setHalfOfDay_ofSlots] at hread
      exact hread
  | upperHalfOfDay =>
      cases htext
      have hhalf : (if moment.time.isAfternoon then ['P', 'M'] else ['A', 'M']).map Char.toLower =
          if moment.time.isAfternoon then ['p', 'm'] else ['a', 'm'] := by
        split <;> rfl
      have hread := name_halfOfDay (.inr rfl) hhalf (Fields.ofSlots told moment fraction) rest
      rw [setHalfOfDay_ofSlots] at hread
      exact hread

end Reading

/-! ## Fractions -/

namespace FractionPart

/-- How many digits of a fraction are written at most. -/
def precision : FractionPart → Nat
  | .asNeeded => 9
  | .pointed digits | .bare digits => digits

end FractionPart

/-- A fraction with the given number of digits, in nanoseconds. -/
def Time.roundedFraction (time : Time) (digits : Nat) : Nat :=
  time.fraction / tenTo (9 - digits) * tenTo (9 - digits)

namespace Time

/-- A fraction is less than a second. -/
theorem fraction_lt (time : Time) : time.fraction < tenTo 9 :=
  Nat.mod_lt _ (by decide)

/-- With nine digits a fraction is complete. -/
theorem roundedFraction_nine (time : Time) : time.roundedFraction 9 = time.fraction := by
  simp [roundedFraction, tenTo]

/-- Fewer digits make a fraction no greater. -/
theorem roundedFraction_le (time : Time) (digits : Nat) :
    time.roundedFraction digits ≤ 999999999 := by
  have hlt := time.fraction_lt
  have hle := Nat.div_mul_le_self time.fraction (tenTo (9 - digits))
  have hnine : tenTo 9 = 1000000000 := rfl
  unfold roundedFraction
  omega

/-- The digits of a fraction have room in their place. -/
theorem fraction_div_lt (time : Time) {digits : Nat} (h : digits ≤ 9) :
    time.fraction / tenTo (9 - digits) < tenTo digits := by
  have hpower : tenTo digits * tenTo (9 - digits) = tenTo 9 := by
    unfold tenTo
    rw [Nat.pow_eq, Nat.pow_eq, Nat.pow_eq, ← Nat.pow_add, Nat.add_sub_cancel' h]
  rw [Nat.div_lt_iff_lt_mul (tenTo_pos _), hpower]
  exact time.fraction_lt

end Time

namespace Reading

open Writing (digits fill)

variable {told : List Slot} {moment : DateTime} {text : List Char}

/-- Digits with room in nine places are read within 64 bits. -/
theorem ofDigitChars_fill_le {count n : Nat} (hcount : count ≤ 9) (hn : n < tenTo count) :
    Nat.ofDigitChars 10 (fill count '0' (digits n)) 0 ≤ 9223372036854775807 := by
  have hpower : tenTo count ≤ tenTo 9 := Nat.pow_le_pow_right (by decide) hcount
  have hnine : tenTo 9 = 1000000000 := rfl
  rw [Writing.ofDigitChars_fill]
  omega

/-- Exactly so many digits are read before anything. -/
theorem fixedNumber_fill {count n : Nat} (hcount : 0 < count ∧ count ≤ 9) (hn : n < tenTo count)
    (rest : List Char) :
    fixedNumber count (fill count '0' (digits n) ++ rest) = .ok (n, rest) := by
  have hlength := Writing.length_fill hcount.1 hn
  have hbytes := length_le_byteLength (fill count '0' (digits n))
  have hdigits : ∀ c ∈ fill count '0' (digits n), c.isDigit = true := fun c hc =>
    Writing.isDigit_of_mem_fill hc
  have htaken : (fill count '0' (digits n) ++ rest).take count = fill count '0' (digits n) :=
    List.take_left' hlength
  have hread := takeDigits_append rest hdigits (Nat.le_of_eq hlength) (.inl hlength)
    (ofDigitChars_fill_le hcount.2 hn)
  rw [Writing.ofDigitChars_fill] at hread
  rw [fixedNumber, byteLength_append, if_neg (by omega), htaken,
    if_pos (List.all_eq_true.mpr hdigits)]
  exact hread

/-- The digits of a fraction are read as nanoseconds before everything but a digit. -/
theorem nanoseconds_fill {count n : Nat} (hcount : 0 < count ∧ count ≤ 9) (hn : n < tenTo count)
    {rest : List Char} (hrest : ∀ c ∈ rest.head?, c.isDigit = false) :
    nanoseconds (fill count '0' (digits n) ++ rest) =
      .ok ((n * tenTo (9 - count) : Nat), rest) := by
  have hlength := Writing.length_fill hcount.1 hn
  have hdigits : ∀ c ∈ fill count '0' (digits n), c.isDigit = true := fun c hc =>
    Writing.isDigit_of_mem_fill hc
  have hread := number_append rest (Writing.fill_ne_nil count n) hdigits 9 (by omega) (.inr hrest)
    (ofDigitChars_fill_le hcount.2 hn)
  rw [Writing.ofDigitChars_fill] at hread
  have hrest : rest.dropWhile Char.isDigit = rest := by
    cases rest with
    | nil => rfl
    | cons c rest => simp [hrest c rfl]
  have hcounted : (fill count '0' (digits n) ++ rest).length - rest.length = count := by
    rw [List.length_append, hlength, Nat.add_sub_cancel]
  rw [nanoseconds, hread, ok_bind]
  dsimp only
  rw [hcounted, hrest]
  push_cast
  rfl

/-- No fraction is read where none starts. -/
theorem fraction_of_missing {fields : Fields} {rest : List Char}
    (hrest : ∀ c ∈ rest.head?, c ≠ '.') : fraction .asNeeded fields rest = .ok (fields, rest) := by
  cases rest with
  | nil => rfl
  | cons c rest =>
      have hpoint : c ≠ '.' := hrest c rfl
      unfold fraction
      split <;> simp_all

/-- As many digits of a fraction are written as are needed, in groups of three. -/
theorem exists_fractionText_asNeeded {time : Time} (h : time.fraction ≠ 0) :
    ∃ count n, (0 < count ∧ count ≤ 9) ∧ n < tenTo count ∧
      Writing.fractionText time .asNeeded = '.' :: fill count '0' (digits n) ∧
        n * tenTo (9 - count) = time.fraction := by
  have hsix : tenTo 6 = 1000000 := rfl
  have hthree : tenTo 3 = 1000 := rfl
  by_cases hmilli : time.fraction % 1000000 = 0
  · have hplace := time.fraction_div_lt (show 3 ≤ 9 by decide)
    refine ⟨3, time.fraction / 1000000, by decide, hplace, ?_, ?_⟩
    · simp only [Writing.fractionText, if_neg h, if_pos hmilli]
    · rw [hsix]
      omega
  · by_cases hmicro : time.fraction % 1000 = 0
    · have hplace := time.fraction_div_lt (show 6 ≤ 9 by decide)
      refine ⟨6, time.fraction / 1000, by decide, hplace, ?_, ?_⟩
      · simp only [Writing.fractionText, if_neg h, if_neg hmilli, if_pos hmicro]
      · rw [hthree]
        omega
    · refine ⟨9, time.fraction, by decide, time.fraction_lt, ?_, Nat.mul_one _⟩
      simp only [Writing.fractionText, if_neg h, if_neg hmilli, if_neg hmicro]

/-- A fraction that is written is read with its digits, unless it is missing. -/
theorem fraction_text {part : FractionPart} (hpart : 0 < part.precision ∧ part.precision ≤ 9)
    {time : Time} (hsome : ¬(part = .asNeeded ∧ time.fraction = 0)) {rest : List Char}
    (hrest : part = .asNeeded → ∀ c ∈ rest.head?, c.isDigit = false) (fields : Fields) :
    fraction part fields (Writing.fractionText time part ++ rest) =
      (fields.setNanosecond (time.roundedFraction part.precision)).map fun told =>
        (told, rest) := by
  have hrounded : ((time.fraction / tenTo (9 - part.precision) : Nat) : Int) *
      (tenTo (9 - part.precision) : Nat) = (time.roundedFraction part.precision : Nat) :=
    (Int.natCast_mul _ _).symm
  have hread := fixedNumber_fill hpart (time.fraction_div_lt hpart.2) rest
  cases part with
  | pointed count =>
      simp only [Writing.fractionText, List.cons_append, fraction, FractionPart.precision] at *
      rw [hread, ok_bind]
      dsimp only
      rw [hrounded]
      rfl
  | bare count =>
      simp only [Writing.fractionText, fraction, FractionPart.precision] at *
      rw [hread, ok_bind]
      dsimp only
      rw [hrounded]
      rfl
  | asNeeded =>
      have hne : time.fraction ≠ 0 := fun hzero => hsome ⟨rfl, hzero⟩
      obtain ⟨count, n, hcount, hn, htext, hvalue⟩ := exists_fractionText_asNeeded hne
      have hnine : time.roundedFraction 9 = time.fraction := time.roundedFraction_nine
      simp only [FractionPart.precision, hnine]
      rw [htext, List.cons_append, fraction, nanoseconds_fill hcount hn (hrest rfl), ok_bind]
      dsimp only
      rw [hvalue]
      rfl

/-- The fraction that is written is told with its digits; none is written for a whole second where
as many as needed are. -/
theorem fraction_written {part : FractionPart} (hpart : 0 < part.precision ∧ part.precision ≤ 9)
    {rest : List Char}
    (hrest : part = .asNeeded → ∀ c ∈ rest.head?, c.isDigit = false ∧ c ≠ '.') :
    fraction part (Fields.ofSlots told moment (moment.time.roundedFraction part.precision))
        (Writing.fractionText moment.time part ++ rest) =
      .ok (Fields.ofSlots
        ((if part = .asNeeded ∧ moment.time.fraction = 0 then [] else [.nanosecond]) ++ told) moment
        (moment.time.roundedFraction part.precision), rest) := by
  by_cases hzero : part = .asNeeded ∧ moment.time.fraction = 0
  · -- Nothing is written, and the text goes on without a point.
    obtain ⟨rfl, hwhole⟩ := hzero
    have htext : Writing.fractionText moment.time .asNeeded = [] := if_pos hwhole
    rw [if_pos ⟨rfl, hwhole⟩, htext]
    exact fraction_of_missing fun c hc => (hrest rfl c hc).2
  · rw [if_neg hzero, fraction_text hpart hzero fun h c hc => (hrest h c hc).1,
      setNanosecond_ofSlots (moment.time.roundedFraction_le part.precision)]
    rfl

end Reading
end Calendar
end SchemaForm
