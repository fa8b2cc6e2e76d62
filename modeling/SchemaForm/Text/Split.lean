/-!
# Splitting and joining text

Texts that consist of parts with a separator between them.

Main results:

- Theorem `splitOn_ne_nil`: every text has at least one part.
- Theorem `splitOn_of_notMem`: a text without the separator is its only part.
- Theorem `splitOn_eq`: the parts of a text are those that the library gives.
-/

namespace SchemaForm
namespace Text

/-- The parts of a text between the occurrences of a separator. -/
def splitOn (separator : Char) : List Char → List (List Char)
  | [] => [[]]
  | c :: rest =>
      if c = separator then [] :: splitOn separator rest
      else
        match splitOn separator rest with
        | [] => [[c]]
        | part :: parts => (c :: part) :: parts

/-- The parts of a string. -/
def split (separator : Char) (s : String) : List String :=
  (splitOn separator s.toList).map String.ofList

/-- Every text has at least one part. -/
theorem splitOn_ne_nil (separator : Char) (cs : List Char) : splitOn separator cs ≠ [] := by
  cases cs with
  | nil => simp [splitOn]
  | cons c rest =>
      by_cases h : c = separator
      · simp [splitOn, h]
      · simp only [splitOn, h, if_false]
        cases splitOn separator rest <;> simp

/-- A text without the separator is its only part. -/
theorem splitOn_of_notMem {separator : Char} {cs : List Char} (h : separator ∉ cs) :
    splitOn separator cs = [cs] := by
  induction cs with
  | nil => rfl
  | cons c rest ih =>
      simp only [List.mem_cons, not_or] at h
      simp [splitOn, Ne.symm h.1, ih h.2]

/-- The parts of a text are those of the library. -/
theorem splitOn_eq (separator : Char) (cs : List Char) :
    splitOn separator cs = cs.splitOn separator := by
  rw [List.splitOn_eq_splitOnP]
  induction cs with
  | nil => rfl
  | cons c rest ih =>
      rw [splitOn, List.splitOnP_cons_eq_if_modifyHead, ih]
      by_cases hc : c = separator
      · simp [hc]
      · simp only [hc, if_false, beq_iff_eq]
        rcases List.exists_cons_of_ne_nil (splitOn_ne_nil separator rest) with ⟨part, parts, hparts⟩
        rw [← ih, hparts]
        rfl

end Text
end SchemaForm
