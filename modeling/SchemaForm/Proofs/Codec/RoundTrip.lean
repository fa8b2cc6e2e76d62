import SchemaForm.Proofs.Binary64.Text
import SchemaForm.Proofs.Calendar.Default
import SchemaForm.Proofs.Codec.Basic
import SchemaForm.Proofs.Json.Proper

/-!
# Input fields between data and text

Under the default patterns every codec has canonical data: what a text stands
for, in the form in which it is written back.  The text of canonical data stands
for the same data, every text stands for canonical data, and other data is
brought into canonical form by its text.

Main results:

- Theorem `exists_text_of_canonical`: canonical data has a text that stands for it.
- Theorem `canonical_of_nativeOfText`: a text stands for canonical data only.
- Theorem `exists_native_of_text`: the text of any proper data stands for data with the same text.
-/

namespace SchemaForm
namespace Codec

open Calendar (Date DateTime)
open Result

variable {codec : Codec} {field text : String} {native : Json}

/-! ## Canonical data -/

/-- Whether the patterns of a codec are the default ones. -/
def IsDefault : Codec → Prop
  | .date pattern => pattern = DatePatterns.date {}
  | .dateTime pattern => pattern = DatePatterns.dateTime {}
  | _ => True

theorem isDefault_ofField (type : String) (format : Option String) :
    (ofField type format {}).IsDefault := by
  unfold ofField
  split
  · rfl
  · rfl
  · trivial
  · trivial
  · trivial
  · split <;> trivial

/-- The data that a codec writes: `null`, an integer of 64 signed bits, a finite number, a date, a
date and time of a whole minute, or a text that is not empty. -/
inductive Canonical : Codec → Json → Prop where
  | null (codec : Codec) : Canonical codec .null
  | integer {n : Int} (hleast : Text.Integer.signed64.least ≤ n)
      (hgreatest : n ≤ Text.Integer.signed64.greatest) : Canonical .integer (.number (.integer n))
  | number {x : Binary64} (hx : x.isFinite = true) : Canonical .number (.number (.float x))
  | date (pattern : String) (day : Date) :
      Canonical (.date pattern) (.string (Calendar.Iso.dateText day))
  | dateTime (pattern : String) {moment : DateTime}
      (hminute : moment.time.truncate = moment.time) :
      Canonical (.dateTime pattern) (.string (Calendar.Iso.secondText moment))
  | path {text : String} (htext : text ≠ "") : Canonical .path (.string text)
  | plain {text : String} (htext : text ≠ "") : Canonical .plain (.string text)

/-! ## From text to data -/

/-- A text that is not empty stands for the data of its value. -/
theorem nativeOfText_of_readText {scalar : Scalar} (htext : text ≠ "")
    (h : codec.readText text = .ok scalar) : codec.nativeOfText text = .ok scalar.toNative :=
  nativeOfText_eq_ok.mpr (.inr ⟨htext, scalar, h, rfl⟩)

/-- A text stands for canonical data only. -/
theorem canonical_of_nativeOfText (hdefault : codec.IsDefault)
    (h : codec.nativeOfText text = .ok native) : codec.Canonical native := by
  rcases nativeOfText_eq_ok.mp h with ⟨-, rfl⟩ | ⟨htext, scalar, hscalar, rfl⟩
  · exact .null codec
  · cases codec with
    | integer =>
        simp only [readText] at hscalar
        split at hscalar
        · rename_i n hread
          cases hscalar
          obtain ⟨hleast, hgreatest⟩ := Text.Integer.read_le hread
          exact .integer hleast hgreatest
        · cases hscalar
    | number =>
        simp only [readText] at hscalar
        split at hscalar
        · split at hscalar
          · rename_i hx
            cases hscalar
            simp only [Scalar.toNative, Json.ofBinary64, if_pos hx]
            exact .number hx
          · cases hscalar
        · cases hscalar
    | date pattern =>
        simp only [readText] at hscalar
        split at hscalar
        · cases hscalar
          exact .date pattern _
        · cases hscalar
    | dateTime pattern =>
        simp only [readText] at hscalar
        split at hscalar
        · rename_i moment hread
          cases hscalar
          rw [hdefault] at hread
          exact .dateTime pattern (Calendar.truncate_of_read hread)
        · cases hscalar
    | path =>
        cases hscalar
        exact .path htext
    | plain =>
        cases hscalar
        exact .plain htext

/-! ## Written texts -/

theorem nativeOfText_toString {n : Int} (hleast : Text.Integer.signed64.least ≤ n)
    (hgreatest : n ≤ Text.Integer.signed64.greatest) :
    nativeOfText .integer (toString n) = .ok (.number (.integer n)) := by
  have hread := Text.Integer.read_trim_toString hleast hgreatest
  have htext : toString n ≠ "" := by
    intro h
    rw [h] at hread
    cases hread
  have hvalue : readText .integer (toString n) = .ok (.integer n) := by
    simp only [readText, hread]
  exact nativeOfText_of_readText htext hvalue

theorem nativeOfText_plain {x : Binary64} (hx : x.isFinite = true) :
    nativeOfText .number x.plain = .ok (.number (.float x)) := by
  have hread := Binary64.read_trim_plain hx
  have htext : x.plain ≠ "" := by
    intro h
    rw [h] at hread
    cases hread
  have hvalue : readText .number x.plain = .ok (.number x) := by
    simp only [readText, hread, hx, if_true]
  have hnative : Scalar.toNative (.number x) = .number (.float x) := if_pos hx
  rw [← hnative]
  exact nativeOfText_of_readText htext hvalue

theorem nativeOfText_pointedText (day : Date) :
    nativeOfText (.date (DatePatterns.date {})) (String.ofList (Calendar.pointedText day)) =
      .ok (.string (Calendar.Iso.dateText day)) := by
  have hread := Calendar.read_pointedText day
  have htext : String.ofList (Calendar.pointedText day) ≠ "" := by
    simp [Calendar.pointedText]
  have hvalue : readText (.date (DatePatterns.date {})) (String.ofList (Calendar.pointedText day)) =
      .ok (.date day) := by
    simp only [readText, hread]
  exact nativeOfText_of_readText htext hvalue

theorem nativeOfText_clockText (moment : DateTime) :
    nativeOfText (.dateTime (DatePatterns.dateTime {}))
        (String.ofList (Calendar.pointedText moment.date ++ Calendar.clockText moment.time)) =
      .ok (.string (Calendar.Iso.secondText ⟨moment.date, moment.time.truncate⟩)) := by
  have hread := Calendar.read_clockText moment
  have htext : String.ofList (Calendar.pointedText moment.date ++ Calendar.clockText moment.time) ≠
      "" := by
    simp [Calendar.pointedText]
  have hvalue : readText (.dateTime (DatePatterns.dateTime {}))
      (String.ofList (Calendar.pointedText moment.date ++ Calendar.clockText moment.time)) =
        .ok (.dateTime ⟨moment.date, moment.time.truncate⟩) := by
    simp only [readText, hread]
  exact nativeOfText_of_readText htext hvalue

theorem nativeOfText_string (hcodec : codec = .path ∨ codec = .plain) (htext : text ≠ "") :
    codec.nativeOfText text = .ok (.string text) := by
  rcases hcodec with rfl | rfl
  · exact nativeOfText_eq_ok.mpr (.inr ⟨htext, .path text, rfl, rfl⟩)
  · exact nativeOfText_eq_ok.mpr (.inr ⟨htext, .text text, rfl, rfl⟩)

/-! ## From data to text -/

theorem encode_date (pattern : String) (day : Date) :
    (Codec.date pattern).encode (some (.date day)) = written pattern (day.write? pattern) :=
  rfl

theorem encode_dateTime (pattern : String) (moment : DateTime) :
    (Codec.dateTime pattern).encode (some (.dateTime moment)) =
      written pattern (moment.write? pattern) :=
  rfl

/-- Data with a value has the text of the value. -/
theorem textOfNative_of_ofNative {scalar : Scalar}
    (h : codec.ofNative field native = .ok (some scalar))
    (htext : codec.encode (some scalar) = .ok text) : codec.textOfNative field native = .ok text :=
  textOfNative_eq_ok.mpr (.inr ⟨scalar, h, htext⟩)

theorem textOfNative_null (codec : Codec) (field : String) :
    codec.textOfNative field .null = .ok "" :=
  rfl

theorem textOfNative_integer {n : Int} (hleast : Text.Integer.signed64.least ≤ n)
    (hgreatest : n ≤ Text.Integer.signed64.greatest) :
    textOfNative .integer field (.number (.integer n)) = .ok (toString n) := by
  have hn : Text.Integer.signed64.contains n = true := by
    simp [Text.Integer.Range.contains, hleast, hgreatest]
  have hvalue : ofNative .integer field (.number (.integer n)) = .ok (some (.integer n)) := by
    simp only [ofNative, Json.asInteger?, hn, if_true]
  exact textOfNative_of_ofNative hvalue rfl

theorem textOfNative_number (x : Binary64) :
    textOfNative .number field (.number (.float x)) = .ok x.plain :=
  rfl

/-- A date of a document has the text that the pattern writes. -/
theorem textOfNative_dateText {pattern : String} {day : Date}
    (h : day.write? pattern = some text) :
    textOfNative (.date pattern) field (.string (Calendar.Iso.dateText day)) = .ok text := by
  have hvalue : ofNative (.date pattern) field (.string (Calendar.Iso.dateText day)) =
      .ok (some (.date day)) := by
    simp only [ofNative, Calendar.Iso.readDate_dateText]
  refine textOfNative_of_ofNative hvalue ?_
  rw [encode_date, h, written]

/-- A date and time of a document has the text that the pattern writes for it to the second. -/
theorem textOfNative_secondText {pattern : String} {moment : DateTime}
    (h : DateTime.write? ⟨moment.date, moment.time.toSecond⟩ pattern = some text) :
    textOfNative (.dateTime pattern) field (.string (Calendar.Iso.secondText moment)) =
      .ok text := by
  have hvalue : ofNative (.dateTime pattern) field (.string (Calendar.Iso.secondText moment)) =
      .ok (some (.dateTime ⟨moment.date, moment.time.toSecond⟩)) := by
    simp only [ofNative, Calendar.Iso.readDateTime_secondText]
  refine textOfNative_of_ofNative hvalue ?_
  rw [encode_dateTime, h, written]

theorem textOfNative_date (day : Date) :
    textOfNative (.date (DatePatterns.date {})) field (.string (Calendar.Iso.dateText day)) =
      .ok (String.ofList (Calendar.pointedText day)) :=
  textOfNative_dateText (Calendar.write_date day)

theorem textOfNative_dateTime (moment : DateTime) :
    textOfNative (.dateTime (DatePatterns.dateTime {})) field
        (.string (Calendar.Iso.secondText moment)) =
      .ok (String.ofList (Calendar.pointedText moment.date ++ Calendar.clockText moment.time)) := by
  have hclock : Calendar.clockText moment.time.toSecond = Calendar.clockText moment.time := by
    simp only [Calendar.clockText, Calendar.Time.hour_toSecond, Calendar.Time.minute_toSecond]
  rw [← hclock]
  exact textOfNative_secondText (Calendar.write_dateTime _)

/-- Canonical data has a text that stands for it. -/
theorem exists_text_of_canonical (hdefault : codec.IsDefault) (h : codec.Canonical native)
    (field : String) :
    ∃ text, codec.textOfNative field native = .ok text ∧ codec.nativeOfText text = .ok native := by
  cases h with
  | null => exact ⟨"", rfl, rfl⟩
  | integer hleast hgreatest =>
      exact ⟨_, textOfNative_integer hleast hgreatest, nativeOfText_toString hleast hgreatest⟩
  | number hx => exact ⟨_, textOfNative_number _, nativeOfText_plain hx⟩
  | date pattern day =>
      rw [show pattern = _ from hdefault]
      exact ⟨_, textOfNative_date day, nativeOfText_pointedText day⟩
  | @dateTime pattern moment hminute =>
      rw [show pattern = _ from hdefault]
      refine ⟨_, textOfNative_dateTime moment, ?_⟩
      rw [nativeOfText_clockText, hminute]
  | path htext => exact ⟨_, rfl, nativeOfText_string (.inl rfl) htext⟩
  | plain htext => exact ⟨_, rfl, nativeOfText_string (.inr rfl) htext⟩

/-! ## Texts of data -/

/-- The texts that a codec with a default pattern writes for proper data. -/
inductive Writes : Codec → String → Prop where
  | empty (codec : Codec) : Writes codec ""
  | integer {n : Int} (hleast : Text.Integer.signed64.least ≤ n)
      (hgreatest : n ≤ Text.Integer.signed64.greatest) : Writes .integer (toString n)
  | number {x : Binary64} (hx : x.isFinite = true) : Writes .number x.plain
  | date (day : Date) :
      Writes (.date (DatePatterns.date {})) (String.ofList (Calendar.pointedText day))
  | dateTime (moment : DateTime) :
      Writes (.dateTime (DatePatterns.dateTime {}))
        (String.ofList (Calendar.pointedText moment.date ++ Calendar.clockText moment.time))
  | path (text : String) : Writes .path text
  | plain (text : String) : Writes .plain text

/-- A number of a proper document is finite. -/
theorem isFinite_toBinary64 {n : Json.Number} (hn : n.InRange) : n.toBinary64.isFinite = true := by
  cases n with
  | integer n =>
      apply Binary64.isFinite_ofInt
      have hleast : -9223372036854775808 ≤ n := hn.1
      have hgreatest : n ≤ 18446744073709551615 := hn.2
      omega
  | float x => exact hn

/-- The text of proper data is one that the codec writes. -/
theorem writes_of_textOfNative (hdefault : codec.IsDefault) (hnative : native.Proper)
    (h : codec.textOfNative field native = .ok text) : codec.Writes text := by
  rcases textOfNative_eq_ok.mp h with ⟨-, rfl⟩ | ⟨scalar, hscalar, htext⟩
  · exact .empty codec
  · cases codec with
    | integer =>
        simp only [ofNative] at hscalar
        split at hscalar
        · cases hscalar
        · split at hscalar
          · rename_i n hn
            cases hscalar
            cases htext
            have hcontains := (Json.asInteger?_eq_some.mp hn).2
            simp only [Text.Integer.Range.contains, Bool.and_eq_true,
              decide_eq_true_eq] at hcontains
            exact .integer hcontains.1 hcontains.2
          · cases hscalar
    | number =>
        cases native with
        | number n =>
            cases hscalar
            cases htext
            exact .number (isFinite_toBinary64 hnative.inRange)
        | _ => cases hscalar
    | date pattern =>
        rw [show pattern = _ from hdefault] at htext ⊢
        cases native with
        | string s =>
            simp only [ofNative] at hscalar
            split at hscalar
            · rename_i day hday
              cases hscalar
              rw [encode_date, Calendar.write_date, written] at htext
              cases htext
              exact .date day
            · cases hscalar
        | _ => cases hscalar
    | dateTime pattern =>
        rw [show pattern = _ from hdefault] at htext ⊢
        cases native with
        | string s =>
            simp only [ofNative] at hscalar
            split at hscalar
            · rename_i moment hmoment
              cases hscalar
              rw [encode_dateTime, Calendar.write_dateTime, written] at htext
              cases htext
              exact .dateTime moment
            · cases hscalar
        | _ => cases hscalar
    | path => exact .path text
    | plain => exact .plain text

/-- A text that the codec writes stands for data with this text. -/
theorem exists_native_of_writes (h : codec.Writes text) (field : String) :
    ∃ settled, codec.nativeOfText text = .ok settled ∧
      codec.textOfNative field settled = .ok text := by
  cases h with
  | empty => exact ⟨.null, rfl, rfl⟩
  | integer hleast hgreatest =>
      exact ⟨_, nativeOfText_toString hleast hgreatest, textOfNative_integer hleast hgreatest⟩
  | number hx => exact ⟨_, nativeOfText_plain hx, textOfNative_number _⟩
  | date day => exact ⟨_, nativeOfText_pointedText day, textOfNative_date day⟩
  | dateTime moment =>
      exact ⟨_, nativeOfText_clockText moment, textOfNative_dateTime ⟨_, moment.time.truncate⟩⟩
  | path =>
      by_cases htext : text = ""
      · subst htext
        exact ⟨.null, rfl, rfl⟩
      · exact ⟨_, nativeOfText_string (.inl rfl) htext, rfl⟩
  | plain =>
      by_cases htext : text = ""
      · subst htext
        exact ⟨.null, rfl, rfl⟩
      · exact ⟨_, nativeOfText_string (.inr rfl) htext, rfl⟩

/-- The text of proper data stands for data with the same text. -/
theorem exists_native_of_text (hdefault : codec.IsDefault) (hnative : native.Proper)
    (h : codec.textOfNative field native = .ok text) :
    ∃ settled, codec.nativeOfText text = .ok settled ∧
      codec.textOfNative field settled = .ok text :=
  exists_native_of_writes (writes_of_textOfNative hdefault hnative h) field

end Codec
end SchemaForm
