import SchemaForm.Field.Basic
import SchemaForm.Proofs.Codec.RoundTrip

/-!
# Patterns that can be written

The check of the settings only asks for patterns without unknown specifiers.
Such a pattern may still ask for a time zone, or a date for its time of day, and
then it can be read but not written.  Under patterns that can be written, the
data that a text stands for always has a text again.

Main results:

- Theorem `isWritable_default`: the default patterns can be written.
- Theorem `exists_text_of_nativeOfText`: the data of a text has a text.
- Theorem `Spec.exists_defaultText`: so has every default.
-/

namespace SchemaForm

open Calendar (Date DateTime)

/-- Patterns that write every date, and every date and time. -/
structure DatePatterns.IsWritable (patterns : DatePatterns) : Prop where
  date (day : Date) : ∃ text, day.write? patterns.date = some text
  dateTime (moment : DateTime) : ∃ text, moment.write? patterns.dateTime = some text

/-- The default patterns can be written. -/
theorem DatePatterns.isWritable_default : DatePatterns.IsWritable {} :=
  ⟨fun day => ⟨_, Calendar.write_date day⟩, fun moment => ⟨_, Calendar.write_dateTime moment⟩⟩

namespace Codec

open Result

/-- Whether the pattern of a codec can be written. -/
def IsWritable : Codec → Prop
  | .date pattern => ∀ day : Date, ∃ text, day.write? pattern = some text
  | .dateTime pattern => ∀ moment : DateTime, ∃ text, moment.write? pattern = some text
  | _ => True

theorem isWritable_ofField {patterns : DatePatterns} (h : patterns.IsWritable) (type : String)
    (format : Option String) : (ofField type format patterns).IsWritable := by
  unfold ofField
  split
  · exact h.date
  · exact h.dateTime
  · trivial
  · trivial
  · trivial
  · split <;> trivial

/-- Every value has a text when the pattern can be written. -/
theorem exists_encode {codec : Codec} (h : codec.IsWritable) (value : Option Scalar) :
    ∃ text, codec.encode value = .ok text := by
  cases value with
  | none => exact ⟨"", rfl⟩
  | some scalar =>
      cases codec with
      | date pattern =>
          cases scalar with
          | date day =>
              obtain ⟨text, htext⟩ := h day
              exact ⟨text, by simp only [encode, htext, written]⟩
          | dateTime moment =>
              obtain ⟨text, htext⟩ := h moment.date
              exact ⟨text, by simp only [encode, htext, written]⟩
          | _ => exact ⟨_, rfl⟩
      | dateTime pattern =>
          cases scalar with
          | date day =>
              obtain ⟨text, htext⟩ := h ⟨day, Calendar.Time.midnight⟩
              exact ⟨text, by simp only [encode, htext, written]⟩
          | dateTime moment =>
              obtain ⟨text, htext⟩ := h moment
              exact ⟨text, by simp only [encode, htext, written]⟩
          | _ => exact ⟨_, rfl⟩
      | _ => cases scalar <;> exact ⟨_, rfl⟩

/-- Data without a value is not refused for a pattern. -/
theorem ofNative_ne_unwritable (codec : Codec) (field : String) (native : Json)
    (pattern : String) : codec.ofNative field native ≠ .error (.unwritable pattern) := by
  intro h
  unfold ofNative at h
  split at h
  · cases h
  · split at h <;> split at h <;> first | cases h | (split at h <;> cases h)

/-- No data is refused for a pattern that can be written. -/
theorem textOfNative_ne_unwritable {codec : Codec} (hcodec : codec.IsWritable) (field : String)
    (native : Json) (pattern : String) :
    codec.textOfNative field native ≠ .error (.unwritable pattern) := by
  unfold textOfNative
  cases hvalue : codec.ofNative field native with
  | error error =>
      intro h
      have herror : error = .unwritable pattern := Except.error.inj h
      exact ofNative_ne_unwritable codec field native pattern (herror ▸ hvalue)
  | ok value =>
      obtain ⟨text, htext⟩ := exists_encode hcodec value
      rw [ok_bind, htext]
      exact nofun

/-- The data that a text stands for has a text when the pattern can be written. -/
theorem exists_text_of_nativeOfText {codec : Codec} (hcodec : codec.IsWritable) {text : String}
    {native : Json} (h : codec.nativeOfText text = .ok native) (field : String) :
    ∃ written, codec.textOfNative field native = .ok written := by
  rcases nativeOfText_eq_ok.mp h with ⟨-, rfl⟩ | ⟨-, scalar, hscalar, rfl⟩
  · exact ⟨"", textOfNative_null codec field⟩
  · cases codec with
    | integer =>
        simp only [readText] at hscalar
        split at hscalar
        · rename_i n hread
          cases hscalar
          obtain ⟨hleast, hgreatest⟩ := Text.Integer.read_le hread
          exact ⟨_, textOfNative_integer hleast hgreatest⟩
        · cases hscalar
    | number =>
        simp only [readText] at hscalar
        split at hscalar
        · split at hscalar
          · rename_i x _ hx
            cases hscalar
            simp only [Scalar.toNative, Json.ofBinary64, if_pos hx]
            exact ⟨_, textOfNative_number x⟩
          · cases hscalar
        · cases hscalar
    | date pattern =>
        simp only [readText] at hscalar
        split at hscalar
        · rename_i day _
          cases hscalar
          obtain ⟨written, hwritten⟩ := hcodec day
          exact ⟨written, textOfNative_dateText hwritten⟩
        · cases hscalar
    | dateTime pattern =>
        simp only [readText] at hscalar
        split at hscalar
        · rename_i moment _
          cases hscalar
          obtain ⟨written, hwritten⟩ := hcodec ⟨moment.date, moment.time.toSecond⟩
          exact ⟨written, textOfNative_secondText hwritten⟩
        · cases hscalar
    | path =>
        cases hscalar
        exact ⟨text, rfl⟩
    | plain =>
        cases hscalar
        exact ⟨text, rfl⟩

end Codec

namespace Spec

/-- A field under patterns that can be written has a codec with such a pattern. -/
theorem isWritable_codec {spec : Spec} (h : spec.patterns.IsWritable) : spec.codec.IsWritable :=
  Codec.isWritable_ofField h _ _

/-- Under patterns that can be written every default has a text, if only its plain one. -/
theorem exists_defaultText {spec : Spec} (h : spec.patterns.IsWritable) :
    ∃ text, spec.defaultText = .ok text := by
  unfold defaultText
  split
  · exact ⟨"", rfl⟩
  · exact ⟨"", rfl⟩
  · split
    · exact ⟨_, rfl⟩
    · rename_i pattern herror
      exact absurd herror (Codec.textOfNative_ne_unwritable (isWritable_codec h) _ _ pattern)
    · exact ⟨_, rfl⟩

end Spec
end SchemaForm
