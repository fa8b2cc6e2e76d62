import SchemaForm.Regex.Property.Listed
import SchemaForm.Text.CaseMap
import SchemaForm.Text.Database

/-!
# Derived properties

Properties that follow from the general categories and listed exceptions, in
the edition that patterns refer to: names in programs, characters without a
visible form, and changes of case.

Main results:

- Theorem `contains_identifierContinue`: what may begin a name may stand in it.
-/

namespace SchemaForm
namespace Regex
namespace Derived

open Text (Charset)

/-- The database that patterns refer to. -/
abbrev db : Text.Database :=
  Text.Database.ofPatterns

/-! ## Visible forms -/

/-- Signs that are shown though they are formats. -/
def shownFormats : Charset :=
  .ofRanges [(0xfff9, 0xfffb), (0x13430, 0x13440)]

/-- Characters that are left out where they cannot be shown. -/
def ignorable : Charset :=
  .unionAll [Listed.ignorableOthers, db.category .format, Listed.variationSelector] \
    .unionAll [Listed.blank, shownFormats, Listed.prependedMark]

/-- Characters that begin a visible unit. -/
def graphemeBase : Charset :=
  (db.ofCategories
    [.control, .format, .surrogate, .privateUse, .unassigned, .lineSeparator,
      .paragraphSeparator] ∪ db.extending).complement

/-- Mathematical characters. -/
def math : Charset :=
  db.category .mathSymbol ∪ Listed.mathOthers

/-! ## Names in programs -/

/-- White space and symbols of patterns and programs. -/
def reserved : Charset :=
  Listed.patternSymbol ∪ Listed.patternBlank

/-- Characters that may begin a name. -/
def identifierStart : Charset :=
  .unionAll [db.letters, db.category .letterNumber, Listed.identifierStartOthers] \ reserved

/-- Characters that may stand in a name. -/
def identifierContinue : Charset :=
  .unionAll
    [identifierStart,
      db.ofCategories [.nonspacingMark, .spacingMark, .decimalNumber, .connectorPunctuation],
      Listed.identifierContinueOthers] \ reserved

/-- Characters that leave the names of programs when a text is brought into its compatible form. -/
def unstable : Charset :=
  .unionAll
    [.single 0x37a, .range 0x309b 0x309c, .range 0xfc5e 0xfc63, .range 0xfdfa 0xfdfb,
      .ofRanges ([0xfe70, 0xfe72, 0xfe74, 0xfe76, 0xfe78, 0xfe7a, 0xfe7c, 0xfe7e].map
        fun n => (n, n))]

/-- Characters that may begin a name in its compatible form as well. -/
def stableStart : Charset :=
  identifierStart \
    .unionAll [unstable, .single 0xe33, .single 0xeb3, .range 0xff9e 0xff9f]

/-- Characters that may stand in a name in its compatible form as well. -/
def stableContinue : Charset :=
  identifierContinue \ unstable

/-- Mathematical characters that may stand in a name. -/
def mathContinue : Charset :=
  Listed.mathStart ∪ Listed.mathContinue

/-! ## Changes of case -/

/-- Characters that lower case changes. -/
def lowerCaseChanging : Charset :=
  (Text.lowerCaseSources ∪ .single 0x130) ∩ db.assigned

/-- Letters of two characters in one, of which title case makes the first a capital. -/
def titlecaseDigraphs : Charset :=
  .ofRanges [(0x1c4, 0x1c4), (0x1c7, 0x1c7), (0x1ca, 0x1ca), (0x1f1, 0x1f1)]

/-- Characters with an upper case of their own that title case leaves alone. -/
def titlecaseKeeping : Charset :=
  .ofRanges
    [(0x1c5, 0x1c5), (0x1c8, 0x1c8), (0x1cb, 0x1cb), (0x1f2, 0x1f2), (0x10d0, 0x10fa),
      (0x10fd, 0x10ff), (0x1f88, 0x1f8f), (0x1f98, 0x1f9f), (0x1fa8, 0x1faf), (0x1fbc, 0x1fbc),
      (0x1fcc, 0x1fcc), (0x1ffc, 0x1ffc)]

/-- Characters that title case changes. -/
def titleCaseChanging : Charset :=
  (Listed.upperCaseChanging \ titlecaseKeeping) ∪ titlecaseDigraphs

/-- Characters that a change of case changes. -/
def caseChanging : Charset :=
  .unionAll
    [lowerCaseChanging, Listed.upperCaseChanging, db.category .titlecaseLetter]

/-- Characters that fold to others though lower case keeps them. -/
def foldingOthers : Charset :=
  .ofRanges
    [(0xb5, 0xb5), (0xdf, 0xdf), (0x149, 0x149), (0x17f, 0x17f), (0x345, 0x345), (0x3c2, 0x3c2),
      (0x3d0, 0x3d1), (0x3d5, 0x3d6), (0x3f0, 0x3f1), (0x3f5, 0x3f5), (0x587, 0x587),
      (0x13f8, 0x13fd), (0x1c80, 0x1c88), (0x1e9a, 0x1e9b), (0x1f80, 0x1f87), (0x1f90, 0x1f97),
      (0x1fa0, 0x1fa7), (0x1fb2, 0x1fb4), (0x1fb7, 0x1fb7), (0x1fc2, 0x1fc4), (0x1fc7, 0x1fc7),
      (0x1ff2, 0x1ff4), (0x1ff7, 0x1ff7), (0xab70, 0xabbf), (0xfb00, 0xfb06), (0xfb13, 0xfb17)]

/-- Characters that folding changes.  Cherokee folds to its capitals. -/
def foldChanging : Charset :=
  (lowerCaseChanging \ .range 0x13a0 0x13f5) ∪ foldingOthers

/-- What may begin a name may stand in it. -/
theorem contains_identifierContinue {c : Char} (h : identifierStart.contains c = true) :
    identifierContinue.contains c = true := by
  have hFree : reserved.contains c = false := by
    simp only [identifierStart, Charset.contains_difference, Bool.and_eq_true,
      Bool.not_eq_true'] at h
    exact h.2
  simp [identifierContinue, h, hFree]

end Derived
end Regex
end SchemaForm
