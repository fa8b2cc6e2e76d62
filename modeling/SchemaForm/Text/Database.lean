import SchemaForm.Text.Category
import SchemaForm.Text.Edition

/-!
# The character database

What an edition of the Unicode character database says about its characters:
the general categories, and the properties that follow from a category and a
short list of others.  Two editions are in use, the latest one and the one that
patterns refer to.
-/

namespace SchemaForm
namespace Text

/-- An edition of the character database. -/
structure Database where
  assigned : Charset
  categories : List (Category × Charset)

namespace Database

/-- Characters that an edition moved to another category, with the category that they had before. -/
def recategorized : List (Nat × Category × Edition) :=
  [(0x295, .lowercaseLetter, ⟨17, 0⟩)]

/-- The database of an edition.  What only later editions assign is unassigned in it. -/
def ofEdition (edition : Edition) : Database :=
  let assigned := edition.assigned
  let earlier := recategorized.filter fun row => !row.2.2.upTo edition
  let settled := assigned \ Charset.unionAll (earlier.map fun row => .single row.1)
  { assigned := assigned
    categories := Category.all.map fun category =>
      let members :=
        match category with
        | .unassigned => category.members ∪ assigned.complement
        | _ => category.members ∩ settled
      let moved := (earlier.filter fun row => row.2.1 == category).map fun row => .single row.1
      (category, members ∪ Charset.unionAll moved) }

/-- The newest edition. -/
def latest : Database :=
  ofEdition ⟨17, 0⟩

/-- The edition that patterns refer to. -/
def ofPatterns : Database :=
  ofEdition ⟨16, 0⟩

/-! ## Categories -/

/-- The members of a category. -/
def category (db : Database) (category : Category) : Charset :=
  (db.categories.lookup category).getD ∅

/-- The members of any of the categories. -/
def ofCategories (db : Database) (categories : List Category) : Charset :=
  .unionAll (categories.map db.category)

/-- Letters of any case and none. -/
def letters (db : Database) : Charset :=
  db.ofCategories
    [.uppercaseLetter, .lowercaseLetter, .titlecaseLetter, .modifierLetter, .otherLetter]

/-- Marks, which combine with a character before them. -/
def marks (db : Database) : Charset :=
  db.ofCategories [.nonspacingMark, .spacingMark, .enclosingMark]

/-! ## Exceptions -/

/-- Characters that count as alphabetic though they are neither letters nor letter numbers. -/
def alphabeticOthers : Charset :=
  .ofGaps (String.join [
    "837 0 28 12 575 13 0 0 0 1 0 1 0 0 71 10 47 12 0 6 15 0 100 6 3 3 1 1 3 0 34 0 29 15 101 ",
    "10 100 1 2 8 0 2 0 3 105 0 59 11 2 6 5 19 53 1 1 14 0 1 4 2 9 1 28 2 57 6 1 1 1 1 9 0 9 ",
    "1 28 2 57 4 3 1 1 1 3 0 29 1 2 0 10 2 57 7 0 2 0 1 20 1 21 2 3 2 57 6 1 1 1 1 8 1 9 1 29 ",
    "0 58 4 2 2 0 2 9 0 39 4 56 6 0 2 0 2 7 1 10 1 28 2 57 6 0 2 0 2 7 1 10 1 14 0 11 3 57 6 ",
    "0 2 0 2 9 0 9 1 28 2 74 5 0 0 0 7 17 1 60 0 1 6 17 0 98 0 1 5 0 1 15 0 162 18 8 10 0 35 ",
    "109 11 0 0 1 3 22 3 3 2 0 2 1 6 2 3 12 11 0 0 9 3 1651 1 29 1 29 1 29 1 65 18 187 1 33 0 ",
    "117 11 3 8 221 4 56 9 1 19 73 1 10 2 48 4 47 14 59 2 29 8 1 1 56 10 49 18 411 33 1728 51 ",
    "2293 31 30835 7 33 1 353 0 7 0 22 4 87 1 49 15 0 0 56 0 37 4 27 11 44 3 47 11 36 0 66 13 ",
    "11 0 7 1 44 2 49 0 0 2 1 1 4 0 43 4 4 0 236 7 20274 0 2134 4 1669 2 0 1 4 3 787 3 64 0 ",
    "320 1 76 2 258 2 52 13 44 1 10 2 44 8 8 0 60 2 35 11 17 1 56 2 47 12 13 1 91 8 1 0 5 0 1 ",
    "0 156 9 22 3 57 6 1 1 1 1 9 0 9 1 83 8 0 0 1 0 0 3 0 1 102 12 0 2 105 17 236 6 1 6 28 1 ",
    "81 14 0 0 105 10 102 13 256 12 246 5 0 1 1 1 2 0 0 0 141 6 1 5 3 0 27 9 41 4 0 3 17 10 ",
    "45 13 199 7 198 7 0 6 82 21 0 13 121 5 2 0 0 1 0 2 0 0 2 0 65 4 0 1 0 3 347 3 8 1 0 0 47 ",
    "6 2 2 16860 16 3615 0 0 54 6 3 92 1 19627 0 9056 6 0 16 1 6 0 1 0 4 99 0 1618 0 1 0 6 1 ",
    "4 0 592 0 2023 25 5 25 5 25"])

/-- Characters that count as uppercase though they are no uppercase letters. -/
def uppercaseOthers : Charset :=
  .ofRanges
    [(0x2160, 0x216f), (0x24b6, 0x24cf), (0x1f130, 0x1f149), (0x1f150, 0x1f169),
      (0x1f170, 0x1f189)]

/-- Characters that count as lowercase though they are no lowercase letters. -/
def lowercaseOthers : Charset :=
  .ofGaps (String.join [
    "170 0 14 0 500 8 6 1 29 4 95 0 51 0 3456 0 3118 62 12 0 33 36 688 0 12 0 15 12 210 15 ",
    "847 25 1937 1 31261 1 209 0 127 3 2 1 865 3 8 0 23573 0 1 2 0 41 0 8 55412 61"])

/-- Punctuation that is skipped when the case of neighbours decides. -/
def ignorablePunctuation : Charset :=
  .ofRanges
    [(0x27, 0x27), (0x2e, 0x2e), (0x3a, 0x3a), (0xb7, 0xb7), (0x387, 0x387), (0x55f, 0x55f),
      (0x5f4, 0x5f4), (0x2018, 0x2019), (0x2024, 0x2024), (0x2027, 0x2027), (0xfe13, 0xfe13),
      (0xfe52, 0xfe52), (0xfe55, 0xfe55), (0xff07, 0xff07), (0xff0e, 0xff0e), (0xff1a, 0xff1a)]

/-- Characters that extend the one before them though they are neither nonspacing nor enclosing
marks. -/
def extendingOthers : Charset :=
  .ofGaps (String.join [
    "2494 0 23 0 357 0 23 0 101 0 23 0 231 0 0 0 3 1 0 1 8 1 102 0 23 0 118 0 14 0 2356 0 29 ",
    "0 1023 0 4 0 0 0 4 1 100 0 70 1 1047 0 4128 1 31010 0 107 0 21980 1 4639 0 115 0 263 0 ",
    "13 0 8 0 95 0 8 0 1 0 0 2 4 0 223 0 11 0 240 0 261 0 632 0 11 0 1538 0 20653 1 24946 1 5 ",
    "5 798380 95"])

/-- The two joiners. -/
def joiners : Charset :=
  .range 0x200c 0x200d

/-! ## Properties -/

/-- Letters, letter numbers, and the marks and symbols that count as alphabetic. -/
def alphabetic (db : Database) : Charset :=
  .unionAll [db.letters, db.category .letterNumber, alphabeticOthers ∩ db.assigned]

/-- Uppercase characters. -/
def uppercase (db : Database) : Charset :=
  db.category .uppercaseLetter ∪ (uppercaseOthers ∩ db.assigned)

/-- Lowercase characters. -/
def lowercase (db : Database) : Charset :=
  db.category .lowercaseLetter ∪ (lowercaseOthers ∩ db.assigned)

/-- Characters with a case. -/
def cased (db : Database) : Charset :=
  .unionAll [db.uppercase, db.lowercase, db.category .titlecaseLetter]

/-- Characters that are skipped when the case of neighbours decides. -/
def caseIgnorable (db : Database) : Charset :=
  db.ofCategories [.nonspacingMark, .enclosingMark, .format, .modifierLetter, .modifierSymbol] ∪
    ignorablePunctuation

/-- Characters that extend the one before them into one visible unit. -/
def extending (db : Database) : Charset :=
  db.ofCategories [.nonspacingMark, .enclosingMark] ∪ (extendingOthers ∩ db.assigned)

/-- Characters of words: alphabetic characters, marks, decimal digits, connectors and joiners. -/
def word (db : Database) : Charset :=
  .unionAll [db.alphabetic, db.marks, db.category .decimalNumber,
    db.category .connectorPunctuation, joiners]

end Database
end Text
end SchemaForm
