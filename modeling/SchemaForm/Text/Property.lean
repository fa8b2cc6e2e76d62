import SchemaForm.Text.Database

/-!
# Properties of characters

Membership in properties of the newest edition of the character database.
-/

namespace SchemaForm
namespace Text

/-- The alphabetic characters. -/
def alphabetic : Charset :=
  Database.latest.alphabetic

/-- The characters with a case. -/
def cased : Charset :=
  Database.latest.cased

/-- The characters that are skipped when the case of neighbours decides. -/
def caseIgnorable : Charset :=
  Database.latest.caseIgnorable

/-- The characters that extend the one before them. -/
def extending : Charset :=
  Database.latest.extending

/-- Alphabetic characters, marks included. -/
def isAlphabetic (c : Char) : Bool :=
  alphabetic.contains c

/-- Numbers of any kind. -/
def isNumeric (c : Char) : Bool :=
  match Category.of c with
  | .decimalNumber | .letterNumber | .otherNumber => true
  | _ => false

/-- Characters with a case. -/
def isCased (c : Char) : Bool :=
  cased.contains c

/-- Characters that are skipped when the case of neighbours decides. -/
def isCaseIgnorable (c : Char) : Bool :=
  caseIgnorable.contains c

/-- Characters that extend the one before them into one visible unit. -/
def isExtending (c : Char) : Bool :=
  extending.contains c

end Text
end SchemaForm
