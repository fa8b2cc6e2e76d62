/-!
# Blank characters

White space in the sense of the Unicode property of that name, and trimming.

Main results:

- Theorem `trimStart_idem`: trimming the start twice is trimming it once.
-/

namespace SchemaForm
namespace Text

/-- The characters with the Unicode property `White_Space`. -/
def isBlank (c : Char) : Bool :=
  let n := c.toNat
  (0x09 ≤ n && n ≤ 0x0d) || n == 0x20 || n == 0x85 || n == 0xa0 || n == 0x1680 ||
    (0x2000 ≤ n && n ≤ 0x200a) || n == 0x2028 || n == 0x2029 || n == 0x202f || n == 0x205f ||
    n == 0x3000

/-- Drop blank characters from the start. -/
def trimStart (cs : List Char) : List Char :=
  cs.dropWhile isBlank

/-- Drop blank characters from both ends. -/
def trim (cs : List Char) : List Char :=
  (trimStart (trimStart cs).reverse).reverse

/-- Trimming the start twice is trimming it once. -/
theorem trimStart_idem (cs : List Char) : trimStart (trimStart cs) = trimStart cs := by
  induction cs with
  | nil => rfl
  | cons c rest ih =>
      unfold trimStart at *
      by_cases h : isBlank c = true
      · simp [h, ih]
      · simp [h]

end Text
end SchemaForm
