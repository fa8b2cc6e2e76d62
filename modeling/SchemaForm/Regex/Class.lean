import SchemaForm.Regex.Property.Derived
import SchemaForm.Text.Blank

/-!
# Character classes

The classes of characters that patterns name by a letter or between colons, and
the closure of a set under case.

Main results:

- Theorem `contains_blank`: the class of blanks has the blank characters.
-/

namespace SchemaForm
namespace Regex
namespace Class

open Text (Charset)
open Derived (db)

/-! ## Classes with a letter -/

/-- Decimal digits. -/
def decimal : Charset :=
  db.category .decimalNumber

/-- Blank characters. -/
def blank : Charset :=
  Listed.blank

/-- Characters of words. -/
def word : Charset :=
  db.word

/-- Digits of ASCII. -/
def asciiDecimal : Charset :=
  .range 0x30 0x39

/-- Blanks of ASCII. -/
def asciiBlank : Charset :=
  .ofRanges [(0x9, 0xd), (0x20, 0x20)]

/-- Characters of words in ASCII. -/
def asciiWord : Charset :=
  .ofRanges [(0x30, 0x39), (0x41, 0x5a), (0x5f, 0x5f), (0x61, 0x7a)]

/-- The class of blanks has the blank characters. -/
theorem contains_blank (c : Char) : blank.contains c = Text.isBlank c := by
  rw [Bool.eq_iff_iff]
  simp only [blank, Listed.blank, Charset.ofRanges, Charset.contains_unionAll, List.map_cons,
    List.map_nil, List.any_cons, List.any_nil, Charset.contains_range, Text.isBlank,
    Bool.or_eq_true, Bool.and_eq_true, decide_eq_true_eq, beq_iff_eq, Bool.false_eq_true,
    or_false]
  omega

/-! ## Classes with a name -/

/-- The classes of ASCII that brackets name between colons. -/
def ofAsciiName? (name : String) : Option Charset :=
  match name with
  | "alnum" => some (.ofRanges [(0x30, 0x39), (0x41, 0x5a), (0x61, 0x7a)])
  | "alpha" => some (.ofRanges [(0x41, 0x5a), (0x61, 0x7a)])
  | "ascii" => some (.range 0 0x7f)
  | "blank" => some (.ofRanges [(0x9, 0x9), (0x20, 0x20)])
  | "cntrl" => some (.ofRanges [(0, 0x1f), (0x7f, 0x7f)])
  | "digit" => some asciiDecimal
  | "graph" => some (.range 0x21 0x7e)
  | "lower" => some (.range 0x61 0x7a)
  | "print" => some (.range 0x20 0x7e)
  | "punct" => some (.ofRanges [(0x21, 0x2f), (0x3a, 0x40), (0x5b, 0x60), (0x7b, 0x7e)])
  | "space" => some asciiBlank
  | "upper" => some (.range 0x41 0x5a)
  | "word" => some asciiWord
  | "xdigit" => some (.ofRanges [(0x30, 0x39), (0x41, 0x46), (0x61, 0x66)])
  | _ => none

/-! ## Case -/

/-- Code points with the one that stands for all that are equal to them up to case. -/
def casePairs : List (Nat × Nat) :=
  Text.foldPairs.filter fun pair =>
    db.assigned.containsCode pair.1 && db.assigned.containsCode pair.2

/-- The same for the letters of ASCII alone. -/
def asciiCasePairs : List (Nat × Nat) :=
  casePairs.filter fun pair => pair.1 < 0x80 && pair.2 < 0x80

/-- The set of some code points. -/
def ofCodes (codes : List Nat) : Charset :=
  .ofRanges (codes.map fun n => (n, n))

/-- All characters that are equal up to case to one of a set. -/
def closed (pairs : List (Nat × Nat)) (set : Charset) : Charset :=
  let touched := pairs.filter fun pair => set.containsCode pair.1 || set.containsCode pair.2
  let images := ofCodes (touched.map Prod.snd)
  let sources := ofCodes ((pairs.filter fun pair => images.containsCode pair.2).map Prod.fst)
  .unionAll [set, images, sources]

end Class
end Regex
end SchemaForm
