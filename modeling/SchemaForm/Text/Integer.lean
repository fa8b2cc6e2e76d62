/-!
# Decimal integers in text

Reading a decimal integer that has to fit a range.  The digits are taken from
the left, so the first of a foreign character and an overflow decides the
fault.

Main results:

- Theorem `read_le`: a number that was read lies within the asked range.
-/

namespace SchemaForm
namespace Text
namespace Integer

/-- Why a text is no integer of the range. -/
inductive Fault where
  | empty
  | foreignCharacter
  | tooLarge
  | tooSmall
deriving DecidableEq, Repr

/-- The wording of a fault. -/
def Fault.message : Fault → String
  | .empty => "cannot parse integer from empty string"
  | .foreignCharacter => "invalid digit found in string"
  | .tooLarge => "number too large to fit in target type"
  | .tooSmall => "number too small to fit in target type"

/-- The integers from `least` to `greatest`; zero is one of them. -/
structure Range where
  least : Int
  greatest : Int
  least_le : least ≤ 0 := by decide
  le_greatest : 0 ≤ greatest := by decide

/-- Signed integers of 64 bits. -/
def signed64 : Range where
  least := -9223372036854775808
  greatest := 9223372036854775807

/-- Unsigned integers of 64 bits. -/
def unsigned64 : Range where
  least := 0
  greatest := 18446744073709551615

/-- Membership in a range. -/
def Range.contains (range : Range) (n : Int) : Bool :=
  range.least ≤ n && n ≤ range.greatest

/-- The value of an ASCII digit. -/
def digit? (c : Char) : Option Nat :=
  if '0' ≤ c ∧ c ≤ '9' then some (c.toNat - '0'.toNat) else none

/-- Append digits to a number that is not negative. -/
def readUp (range : Range) : Int → List Char → Except Fault Int
  | value, [] => .ok value
  | value, c :: rest =>
      match digit? c with
      | none => .error .foreignCharacter
      | some d =>
          if value * 10 + d ≤ range.greatest then readUp range (value * 10 + d) rest
          else .error .tooLarge

/-- Append digits to a number that is not positive. -/
def readDown (range : Range) : Int → List Char → Except Fault Int
  | value, [] => .ok value
  | value, c :: rest =>
      match digit? c with
      | none => .error .foreignCharacter
      | some d =>
          if range.least ≤ value * 10 - d then readDown range (value * 10 - d) rest
          else .error .tooSmall

/-- Read an integer: an optional sign, then digits only.  A minus sign is a foreign character
where no negative number is in the range. -/
def read (range : Range) : List Char → Except Fault Int
  | [] => .error .empty
  | ['+'] => .error .foreignCharacter
  | ['-'] => .error .foreignCharacter
  | '+' :: rest => readUp range 0 rest
  | '-' :: rest => if range.least < 0 then readDown range 0 rest else .error .foreignCharacter
  | digits => readUp range 0 digits

theorem readUp_le {range : Range} {value n : Int} {cs : List Char}
    (low : range.least ≤ value) (nonneg : 0 ≤ value) (high : value ≤ range.greatest)
    (h : readUp range value cs = .ok n) : range.least ≤ n ∧ n ≤ range.greatest := by
  induction cs generalizing value with
  | nil =>
      simp only [readUp, Except.ok.injEq] at h
      omega
  | cons c rest ih =>
      simp only [readUp] at h
      split at h
      · cases h
      · rename_i d _
        split at h
        · have := range.least_le
          exact ih (by omega) (by omega) (by omega) h
        · cases h

theorem readDown_le {range : Range} {value n : Int} {cs : List Char}
    (low : range.least ≤ value) (nonpos : value ≤ 0)
    (h : readDown range value cs = .ok n) : range.least ≤ n ∧ n ≤ range.greatest := by
  induction cs generalizing value with
  | nil =>
      simp only [readDown, Except.ok.injEq] at h
      have := range.le_greatest
      omega
  | cons c rest ih =>
      simp only [readDown] at h
      split at h
      · cases h
      · rename_i d _
        split at h
        · exact ih (by omega) (by omega) h
        · cases h

/-- A number that was read lies within the asked range. -/
theorem read_le {range : Range} {cs : List Char} {n : Int} (h : read range cs = .ok n) :
    range.least ≤ n ∧ n ≤ range.greatest := by
  have hl := range.least_le
  have hg := range.le_greatest
  unfold read at h
  split at h
  · cases h
  · cases h
  · cases h
  · exact readUp_le hl (Int.le_refl 0) hg h
  · split at h
    · exact readDown_le hl (Int.le_refl 0) h
    · cases h
  · exact readUp_le hl (Int.le_refl 0) hg h

end Integer
end Text
end SchemaForm
