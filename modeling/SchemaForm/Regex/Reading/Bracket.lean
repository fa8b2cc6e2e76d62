import SchemaForm.Regex.Reading.Escape

/-!
# Bracket classes

Classes of characters in brackets: characters, ranges, escapes, named classes
and nested brackets side by side, and set operations between them.  With its
set a class has a height, the nesting of brackets, operations and lists of
items.
-/

namespace SchemaForm
namespace Regex
namespace Reader

open Text (Charset)

/-- Items side by side: their set, their number and the height of the highest. -/
structure Items where
  set : Charset := ∅
  count : Nat := 0
  height : Nat := 0

/-- One more item. -/
def Items.add (items : Items) (set : Charset) (height : Nat) : Items :=
  ⟨items.set ∪ set, items.count + 1, max items.height height⟩

/-- The height of a list of items, which stands for its item if there is only one. -/
def Items.totalHeight (items : Items) : Nat :=
  if 2 ≤ items.count then items.height + 1 else items.height

/-- A set with the height of the expression for it. -/
structure Operand where
  set : Charset
  height : Nat

/-- A set operation between two operands in brackets. -/
inductive SetOperation where
  | intersection
  | difference
  | symmetricDifference

/-- Apply a set operation to operands that are closed under case first. -/
def SetOperation.apply (operation : SetOperation) (flags : Flags) (left right : Charset) :
    Charset :=
  let left := foldSet flags left
  let right := foldSet flags right
  match operation with
  | .intersection => left ∩ right
  | .difference => left \ right
  | .symmetricDifference => left.symmetricDifference right

/-- The operand that ends with some items, which follow an operation if one is pending. -/
def joinOperand (flags : Flags) (pending : Option (SetOperation × Operand)) (items : Items) :
    Operand :=
  match pending with
  | none => ⟨items.set, items.totalHeight⟩
  | some (operation, left) =>
      ⟨operation.apply flags left.set items.set, max left.height items.totalHeight + 1⟩

/-- A class of ASCII by name between `[:` and `:]`.  Anything else is left where it is. -/
def namedAsciiClass? : Reader (Option Charset) := do
  let start ← get
  if !(← passText ['[', ':']) then return none
  let negated ← passText ['^']
  let rest := (← get).rest
  let name := rest.takeWhile (· != ':')
  modify fun place => { place with rest := rest.dropWhile (· != ':') }
  if ← passText [':', ']'] then
    match Class.ofAsciiName? (String.ofList name) with
    | some set => return some (← finishSet negated set)
    | none => pure ()
  set start
  return none

/-- One character or class in brackets. -/
def bracketItem : Reader Escape := do
  let c ← next
  pass
  if c = '\\' then escape else return .character c false

/-- Whether a character may stand in brackets.  Outside Unicode those beyond ASCII have to be
written as bytes. -/
def isAllowed (c : Char) (isByte : Bool) : Reader Bool := do
  return (← flags).unicode || isByte || c.toNat < 0x80

/-- The set of a character or class in brackets. -/
def itemSet (item : Escape) : Reader Charset := do
  match item with
  | .character c isByte => if ← isAllowed c isByte then return .single c.toNat else failure
  | .set set => return set
  | .look _ => failure

/-- A character, class or range in brackets. -/
def bracketRange : Reader Charset := do
  let first ← bracketItem
  passSpace
  let c ← next
  let second ← peekSecond?
  if c ≠ '-' ∨ second = some ']' ∨ second = some '-' then
    itemSet first
  else
    passWithSpace
    match first, ← bracketItem with
    | .character first isByte, .character last isByte' =>
        if !(← isAllowed first isByte) || !(← isAllowed last isByte') then failure
        if first ≤ last then return .everything ∩ .range first.toNat last.toNat else failure
    | _, _ => failure

/-- The set of a hyphen. -/
def hyphen : Charset :=
  .single '-'.toNat

/-- Hyphens at the start of a class stand for themselves. -/
def leadingHyphens : Nat → Items → Reader Items
  | 0, items => return items
  | fuel + 1, items => do
      if (← next) = '-' then
        passWithSpace
        leadingHyphens fuel (items.add hyphen 0)
      else
        return items

/-- The start of a class after its bracket: whether it is negated, and the hyphens or the closing
bracket that stand for themselves. -/
def bracketStart : Reader (Bool × Items) := do
  passWithSpace
  let negated := (← next) == '^'
  if negated then passWithSpace
  let items ← leadingHyphens (← get).rest.length {}
  if items.count = 0 ∧ (← next) = ']' then
    passWithSpace
    let _ ← next
    return (negated, items.add (.single ']'.toNat) 0)
  else
    return (negated, items)

/-- The contents of a class up to its closing bracket. -/
def bracketBody : Nat → Option (SetOperation × Operand) → Items → Reader Operand
  | 0, _, _ => failure
  | fuel + 1, pending, items => do
      passSpace
      let operation (operation : SetOperation) : Reader Operand := do
        bracketBody fuel (some (operation, joinOperand (← flags) pending items)) {}
      match ← next with
      | '[' =>
          match ← namedAsciiClass? with
          | some set => bracketBody fuel pending (items.add set 0)
          | none =>
              let (negated, leading) ← bracketStart
              let inner ← bracketBody fuel none leading
              let set ← finishSet negated inner.set
              bracketBody fuel pending (items.add set (inner.height + 1))
      | ']' =>
          pass
          return joinOperand (← flags) pending items
      | _ =>
          if ← passText ['&', '&'] then operation .intersection
          else if ← passText ['-', '-'] then operation .difference
          else if ← passText ['~', '~'] then operation .symmetricDifference
          else
            let set ← bracketRange
            bracketBody fuel pending (items.add set 0)

/-- A bracket class. -/
def bracket : Reader Operand := do
  let (negated, leading) ← bracketStart
  let body ← bracketBody ((← get).rest.length + 1) none leading
  return ⟨← finishSet negated body.set, body.height + 1⟩

end Reader
end Regex
end SchemaForm
