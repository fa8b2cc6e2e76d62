import SchemaForm.Codec
import SchemaForm.Proofs.Result

/-!
# Texts and data of input fields

When a codec turns an entered text into data, and data into a text.

Main results:

- Theorem `nativeOfText_eq_ok`: the empty text is `null`, another one the data of the value that it
  stands for.
- Theorem `isFinite_of_readText`: only finite numbers are read.
- Theorem `textOfNative_eq_ok`: `null` is the empty text, other data the text of their value.
-/

namespace SchemaForm
namespace Codec

open Result

/-- The empty text is `null`, and another text stands for the data of its value. -/
theorem nativeOfText_eq_ok {codec : Codec} {text : String} {native : Json} :
    codec.nativeOfText text = .ok native ↔
      (text = "" ∧ native = .null) ∨
        (text ≠ "" ∧ ∃ scalar, codec.readText text = .ok scalar ∧ native = scalar.toNative) := by
  simp only [nativeOfText, decode]
  split
  · rename_i htext
    rw [String.isEmpty_iff] at htext
    simp [htext, bind, Except.bind, pure, Except.pure, eq_comm]
  · rename_i htext
    rw [String.isEmpty_iff] at htext
    cases hread : codec.readText text with
    | error reason => simp [htext, bind, Except.bind]
    | ok scalar => simp [htext, bind, Except.bind, pure, Except.pure, eq_comm]

/-- A text stands for data when it is empty or can be read. -/
theorem exists_nativeOfText {codec : Codec} {text : String}
    (h : text ≠ "" → ∃ scalar, codec.readText text = .ok scalar) :
    ∃ native, codec.nativeOfText text = .ok native := by
  by_cases htext : text = ""
  · exact ⟨.null, nativeOfText_eq_ok.mpr (.inl ⟨htext, rfl⟩)⟩
  · obtain ⟨scalar, hscalar⟩ := h htext
    exact ⟨scalar.toNative, nativeOfText_eq_ok.mpr (.inr ⟨htext, scalar, hscalar, rfl⟩)⟩

/-- Only finite numbers are read from texts. -/
theorem isFinite_of_readText {codec : Codec} {text : String} {x : Binary64}
    (h : codec.readText text = .ok (.number x)) : x.isFinite = true := by
  cases codec with
  | number =>
      simp only [readText] at h
      split at h
      · split at h
        · cases h
          assumption
        · cases h
      · cases h
  | path => cases h
  | plain => cases h
  | _ =>
      simp only [readText] at h
      split at h <;> cases h

/-- The value `null` is the empty text, and other data is the text of its value. -/
theorem textOfNative_eq_ok {codec : Codec} {field text : String} {native : Json} :
    codec.textOfNative field native = .ok text ↔
      (codec.ofNative field native = .ok none ∧ text = "") ∨
        ∃ scalar, codec.ofNative field native = .ok (some scalar) ∧
          codec.encode (some scalar) = .ok text := by
  simp only [textOfNative, bind_eq_ok]
  constructor
  · rintro ⟨value, hvalue, htext⟩
    cases value with
    | none =>
        simp only [encode_none, Except.ok.injEq] at htext
        exact .inl ⟨hvalue, htext.symm⟩
    | some scalar => exact .inr ⟨scalar, hvalue, htext⟩
  · rintro (⟨hvalue, rfl⟩ | ⟨scalar, hvalue, htext⟩)
    · exact ⟨none, hvalue, rfl⟩
    · exact ⟨some scalar, hvalue, htext⟩

end Codec
end SchemaForm
