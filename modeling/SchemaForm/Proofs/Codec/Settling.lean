import SchemaForm.Proofs.Codec.RoundTrip

/-!
# Texts that are written back

Reading a text and writing what was read settles it: dates are padded, integers
lose their plus sign and their leading zeros, numbers take their plain form, and
other texts stay as they are.

Main results:

- Theorem `settles_of_settle`: what a text becomes under each codec with a default pattern.
-/

namespace SchemaForm
namespace Codec

open Result

/-- A text as it is written back after it was read. -/
def settle (codec : Codec) (text : String) : Except DataError String :=
  codec.nativeOfText text >>= codec.textOfNative ""

/-- What a text that is read becomes when it is written back, with default patterns. -/
inductive Settles : Codec → String → String → Prop where
  | empty (codec : Codec) : Settles codec "" ""
  | integer {text : String} {n : Int}
      (hread : Text.Integer.read Text.Integer.signed64 (Text.trim text.toList) = .ok n) :
      Settles .integer text (toString n)
  | number {text : String} {x : Binary64}
      (hread : Binary64.read (Text.trim text.toList) = .ok x) (hx : x.isFinite = true) :
      Settles .number text x.plain
  | date {text : String} {day : Calendar.Date}
      (hread : Calendar.Date.read text (DatePatterns.date {}) = .ok day) :
      Settles (.date (DatePatterns.date {})) text (String.ofList (Calendar.pointedText day))
  | dateTime {text : String} {moment : Calendar.DateTime}
      (hread : Calendar.DateTime.read text (DatePatterns.dateTime {}) = .ok moment) :
      Settles (.dateTime (DatePatterns.dateTime {})) text
        (String.ofList (Calendar.pointedText moment.date ++ Calendar.clockText moment.time))
  | path (text : String) : Settles .path text text
  | plain (text : String) : Settles .plain text text

variable {codec : Codec} {text settled : String}

/-- What a text becomes under a codec with a default pattern. -/
theorem settles_of_settle (hdefault : codec.IsDefault) (h : codec.settle text = .ok settled) :
    codec.Settles text settled := by
  obtain ⟨native, hnative, hsettled⟩ := bind_eq_ok.mp h
  rcases nativeOfText_eq_ok.mp hnative with ⟨rfl, rfl⟩ | ⟨-, scalar, hscalar, rfl⟩
  · cases hsettled
    exact .empty codec
  · cases codec with
    | integer =>
        simp only [readText] at hscalar
        split at hscalar
        · rename_i n hread
          cases hscalar
          obtain ⟨hleast, hgreatest⟩ := Text.Integer.read_le hread
          rw [Scalar.toNative, textOfNative_integer hleast hgreatest] at hsettled
          cases hsettled
          exact .integer hread
        · cases hscalar
    | number =>
        simp only [readText] at hscalar
        split at hscalar
        · split at hscalar
          · rename_i x hread hx
            cases hscalar
            rw [Scalar.toNative, Json.ofBinary64, if_pos hx, textOfNative_number] at hsettled
            cases hsettled
            exact .number hread hx
          · cases hscalar
        · cases hscalar
    | date pattern =>
        rw [show pattern = _ from hdefault] at hscalar hsettled ⊢
        simp only [readText] at hscalar
        split at hscalar
        · rename_i day hread
          cases hscalar
          rw [Scalar.toNative, textOfNative_date] at hsettled
          cases hsettled
          exact .date hread
        · cases hscalar
    | dateTime pattern =>
        rw [show pattern = _ from hdefault] at hscalar hsettled ⊢
        simp only [readText] at hscalar
        split at hscalar
        · rename_i moment hread
          cases hscalar
          rw [Scalar.toNative, textOfNative_dateTime] at hsettled
          cases hsettled
          exact .dateTime hread
        · cases hscalar
    | path =>
        cases hscalar
        cases hsettled
        exact .path text
    | plain =>
        cases hscalar
        cases hsettled
        exact .plain text

end Codec
end SchemaForm
