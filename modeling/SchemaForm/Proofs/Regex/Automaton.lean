import SchemaForm.Proofs.Regex.Matching
import SchemaForm.Regex.Automaton

/-!
# Sizes of sequences

The automaton for a sequence is made of those for its parts in a row, whichever way it reads.
Joining neighbouring texts and taking the parts of a sequence for it change nothing about the size.
So the assertions before and after a pattern cost one state each.

Main results:

- Theorem `extent_sequence`: a sequence takes what its parts take in a row.
- Theorem `automatonSize_between`: a pattern between two assertions takes two states more.
- Theorem `fits_between_iff`: which patterns fit between two assertions.
-/

namespace SchemaForm
namespace Regex

open Text (Charset)

/-! ## Parts in a row -/

namespace Extent

theorem andThen_assoc (e f g : Extent) : (e.andThen f).andThen g = e.andThen (f.andThen g) := by
  simp only [andThen, joint, Nat.add_assoc]

theorem inRow_cons {es : List Extent} (hes : es ≠ []) (e : Extent) :
    inRow (e :: es) = e.andThen (inRow es) := by
  cases es with
  | nil => exact absurd rfl hes
  | cons f es => rfl

theorem inRow_append {es fs : List Extent} (hes : es ≠ []) (hfs : fs ≠ []) :
    inRow (es ++ fs) = (inRow es).andThen (inRow fs) := by
  induction es with
  | nil => exact absurd rfl hes
  | cons e es ih =>
      cases es with
      | nil => exact inRow_cons hfs e
      | cons f es =>
          have htail := List.cons_ne_nil f es
          rw [List.cons_append, inRow_cons (List.append_ne_nil_of_left_ne_nil htail fs), ih htail,
            inRow_cons htail, andThen_assoc]

end Extent

namespace Direction

/-- Parts in the order in which they are read. -/
def row (direction : Direction) (es : List Extent) : Extent :=
  match direction with
  | .forward => .inRow es
  | .backward => .inRow es.reverse

/-- A part before another one, in the order in which they are written. -/
def follow (direction : Direction) (e next : Extent) : Extent :=
  match direction with
  | .forward => e.andThen next
  | .backward => next.andThen e

variable (direction : Direction)

theorem row_singleton (e : Extent) : direction.row [e] = e := by
  cases direction <;> rfl

theorem row_append {es fs : List Extent} (hes : es ≠ []) (hfs : fs ≠ []) :
    direction.row (es ++ fs) = direction.follow (direction.row es) (direction.row fs) := by
  cases direction with
  | forward => exact Extent.inRow_append hes hfs
  | backward =>
      rw [row, List.reverse_append]
      exact Extent.inRow_append (by simpa using hfs) (by simpa using hes)

theorem row_cons {es : List Extent} (hes : es ≠ []) (e : Extent) :
    direction.row (e :: es) = direction.follow e (direction.row es) := by
  have happend := direction.row_append (List.cons_ne_nil e []) hes
  rwa [row_singleton] at happend

/-- What follows a part may be replaced by what takes as much, if it is not nothing. -/
theorem row_cons_congr {es fs : List Extent} (hrow : direction.row es = direction.row fs)
    (hnil : es = [] ↔ fs = []) (e : Extent) :
    direction.row (e :: es) = direction.row (e :: fs) := by
  by_cases hes : es = []
  · rw [hes, hnil.mp hes]
  · rw [row_cons direction hes, row_cons direction (mt hnil.mpr hes), hrow]

theorem extents_eq_map (parts : List Pattern) :
    direction.extents parts = parts.map direction.extent := by
  induction parts with
  | nil => rw [extents]; rfl
  | cons part parts ih => rw [extents, ih]; rfl

theorem extent_concat (parts : List Pattern) :
    direction.extent (.concat parts) = direction.row (parts.map direction.extent) := by
  cases direction <;> rw [extent, extents_eq_map] <;> rfl

theorem extent_literal (text : List Char) :
    direction.extent (.leaf (.literal text)) = ⟨stateSize * (Bytes.ofText text).length, false⟩ := by
  rw [extent]

/-- One text after another takes what both take together. -/
theorem row_joined (first second : List Char) (es : List Extent) :
    direction.row (direction.extent (.leaf (.literal (first ++ second))) :: es) =
      direction.row (direction.extent (.leaf (.literal first)) ::
        direction.extent (.leaf (.literal second)) :: es) := by
  have htogether : direction.extent (.leaf (.literal (first ++ second))) =
      direction.row [direction.extent (.leaf (.literal first)),
        direction.extent (.leaf (.literal second))] := by
    have hbytes : Bytes.ofText (first ++ second) = Bytes.ofText first ++ Bytes.ofText second :=
      List.flatMap_append
    rw [extent_literal, extent_literal, extent_literal, hbytes, List.length_append, Nat.mul_add]
    cases direction with
    | forward => rfl
    | backward => exact congrArg (Extent.mk · false) (Nat.add_comm _ _)
  rw [htogether]
  cases es with
  | nil => exact direction.row_singleton _
  | cons e es =>
      rw [row_cons direction (List.cons_ne_nil e es), ← row_append direction
        (List.cons_ne_nil _ _) (List.cons_ne_nil e es)]
      rfl

theorem joinTexts_eq_nil {parts : List Pattern} : Pattern.joinTexts parts = [] ↔ parts = [] := by
  fun_cases Pattern.joinTexts parts <;> simp

/-- Joining neighbouring texts keeps what they take. -/
theorem row_joinTexts (parts : List Pattern) :
    direction.row ((Pattern.joinTexts parts).map direction.extent) =
      direction.row (parts.map direction.extent) := by
  have hnil (rest : List Pattern) : (Pattern.joinTexts rest).map direction.extent = [] ↔
      rest.map direction.extent = [] := by
    rw [List.map_eq_nil_iff, List.map_eq_nil_iff, joinTexts_eq_nil]
  fun_induction Pattern.joinTexts parts with
  | case1 => rfl
  | case2 first rest second rest' hjoined ih =>
      rw [List.map_cons, List.map_cons, ← direction.row_cons_congr ih (hnil rest), hjoined]
      exact direction.row_joined first second _
  | case3 first rest _ ih => exact direction.row_cons_congr ih (hnil rest) _
  | case4 part rest _ ih => exact direction.row_cons_congr ih (hnil rest) _

/-- A sequence takes what its parts take in a row. -/
theorem extent_sequence (parts : List Pattern) :
    direction.extent (Pattern.sequence parts) =
      direction.row ((Pattern.flatten parts).map direction.extent) := by
  rw [← row_joinTexts, Pattern.sequence]
  split
  · rename_i hparts
    rw [hparts, extent]
    cases direction <;> rfl
  · rename_i part hparts
    rw [hparts]
    exact (direction.row_singleton _).symm
  · exact direction.extent_concat _

/-! ## Between two assertions -/

theorem extent_look (look : Look) (word : Charset) :
    direction.extent (.leaf (.look look word)) = .ofState := by
  rw [extent]

/-- What is not nothing takes what its parts take in a row. -/
theorem extent_eq_row {body : Pattern} (hbody : Pattern.flatten [body] ≠ []) :
    direction.extent body = direction.row ((Pattern.flatten [body]).map direction.extent) := by
  have hflatten : Pattern.flatten [body] = _ := List.flatMap_singleton _ body
  rw [hflatten] at hbody ⊢
  split
  · exact absurd rfl hbody
  · exact direction.extent_concat _
  · exact (direction.row_singleton _).symm

/-- A pattern between two assertions takes two states more. -/
theorem automatonSize_between (before after : Look) (word word' : Charset) {body : Pattern}
    (hbody : Pattern.flatten [body] ≠ []) :
    direction.automatonSize
        (Pattern.sequence [.leaf (.look before word), body, .leaf (.look after word')]) =
      direction.automatonSize body + 2 * stateSize := by
  have hflatten :
      Pattern.flatten [.leaf (.look before word), body, .leaf (.look after word')] =
        .leaf (.look before word) :: (Pattern.flatten [body] ++ [.leaf (.look after word')]) := by
    simp [Pattern.flatten]
  have hextents : (Pattern.flatten [body]).map direction.extent ≠ [] :=
    mt List.map_eq_nil_iff.mp hbody
  have hextent : direction.extent
      (Pattern.sequence [.leaf (.look before word), body, .leaf (.look after word')]) =
        direction.follow .ofState (direction.follow (direction.extent body) .ofState) := by
    rw [extent_sequence, hflatten, List.map_cons, List.map_append, extent_look,
      row_cons direction (List.append_ne_nil_of_left_ne_nil hextents _),
      List.map_singleton, extent_look, row_append direction hextents (List.cons_ne_nil _ _),
      ← extent_eq_row direction hbody, row_singleton]
  unfold automatonSize
  rw [hextent]
  cases direction <;>
    simp only [follow, Extent.andThen, Extent.marked, Extent.ofState, Extent.joint, stateSize] <;>
    grind

end Direction

theorem fits_iff {pattern : Pattern} :
    pattern.fits = true ↔ ∀ direction : Direction, direction.automatonSize pattern ≤ sizeLimit := by
  rw [Pattern.fits, Bool.and_eq_true, decide_eq_true_iff, decide_eq_true_iff]
  constructor
  · rintro ⟨hforward, hbackward⟩ direction
    cases direction with
    | forward => exact hforward
    | backward => exact hbackward
  · exact fun h => ⟨h .forward, h .backward⟩

/-- Which patterns fit between two assertions. -/
theorem fits_between_iff (before after : Look) (word word' : Charset) (body : Pattern) :
    (Pattern.sequence [.leaf (.look before word), body, .leaf (.look after word')]).fits = true ↔
      ∀ direction : Direction, direction.automatonSize body + 2 * stateSize ≤ sizeLimit := by
  rw [fits_iff]
  by_cases hbody : Pattern.flatten [body] = []
  · have hempty : body = .empty ∨ body = .concat [] := by
      rw [show Pattern.flatten [body] = _ from List.flatMap_singleton _ body] at hbody
      split at hbody
      · exact .inl rfl
      · rw [hbody]
        exact .inr rfl
      · cases hbody
    constructor <;> intro _ direction <;> rcases hempty with rfl | rfl <;> cases direction <;>
      exact Nat.le_of_ble_eq_true rfl
  · exact forall_congr' fun direction => by
      rw [direction.automatonSize_between before after word word' hbody]

end Regex
end SchemaForm
