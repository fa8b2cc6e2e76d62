import SchemaForm.Regex.Class

/-!
# Regular expressions

The tree of a regular expression over leaves of any kind.  A pattern has texts,
character sets and assertions about a position as its leaves.  Patterns are
built in a normal form: neighbouring texts are one text, sequences and choices
do not nest directly, a choice between single characters is a set, and what all
branches of a choice begin with stands before it once.

Main results:

- Theorem `repetition_once`: a part that is to match once stands for itself.
-/

namespace SchemaForm
namespace Regex

open Text (Charset)

/-- An assertion about the position between two characters. -/
inductive Look where
  | textStart
  | textEnd
  | lineStart
  | lineEnd
  /-- Lines may also end in a carriage return, alone or before a line feed. -/
  | anyLineStart
  | anyLineEnd
  | wordBoundary
  | noWordBoundary
  | wordStart
  | wordEnd
  | noWordBefore
  | noWordAfter
deriving DecidableEq, Repr

/-- A leaf of a pattern: a text, one character of a set, or an assertion.  Assertions about words
name the characters that count as word characters. -/
inductive Leaf where
  | literal (text : List Char)
  | one (set : Charset)
  | look (assertion : Look) (word : Charset)
deriving DecidableEq, Repr

/-- The leaf for one character of a set. -/
def Leaf.ofSet (set : Charset) : Leaf :=
  match set.only? with
  | some c => .literal [c]
  | none => .one set

/-- A regular expression. -/
inductive Expr (α : Type) where
  | empty
  | leaf (a : α)
  /-- A part whose place in the text is kept. -/
  | capture (body : Expr α)
  /-- At least `least` and, if given, at most `most` matches in a row, as many as possible if it is
  `eager`. -/
  | repeated (body : Expr α) (least : Nat) (most : Option Nat) (eager : Bool)
  | concat (parts : List (Expr α))
  | alternation (branches : List (Expr α))
deriving Inhabited

namespace Expr

variable {α β : Type}

mutual

/-- Change every leaf. -/
def map (f : α → β) : Expr α → Expr β
  | .empty => .empty
  | .leaf a => .leaf (f a)
  | .capture body => .capture (map f body)
  | .repeated body least most eager => .repeated (map f body) least most eager
  | .concat parts => .concat (mapAll f parts)
  | .alternation branches => .alternation (mapAll f branches)

/-- Change every leaf of several expressions. -/
def mapAll (f : α → β) : List (Expr α) → List (Expr β)
  | [] => []
  | e :: rest => map f e :: mapAll f rest

end

mutual

/-- Whether two expressions are the same.  Captures differ, as each has a number of its own. -/
def isSame [DecidableEq α] : Expr α → Expr α → Bool
  | .empty, .empty => true
  | .leaf a, .leaf b => a == b
  | .repeated body least most eager, .repeated body' least' most' eager' =>
      isSame body body' && least == least' && most == most' && eager == eager'
  | .concat parts, .concat parts' => areSame parts parts'
  | .alternation branches, .alternation branches' => areSame branches branches'
  | _, _ => false

/-- Whether two lists have the same expressions. -/
def areSame [DecidableEq α] : List (Expr α) → List (Expr α) → Bool
  | [], [] => true
  | e :: rest, e' :: rest' => isSame e e' && areSame rest rest'
  | _, _ => false

end

end Expr

/-- A regular expression with leaves for texts. -/
abbrev Pattern :=
  Expr Leaf

namespace Pattern

/-! ## Lengths -/

mutual

/-- Whether a pattern matches nothing but the empty text. -/
def isLengthless : Pattern → Bool
  | .empty => true
  | .leaf (.look ..) => true
  | .leaf _ => false
  | .capture body => isLengthless body
  | .repeated body _ most _ => most.isSome && isLengthless body
  | .concat parts => areLengthless parts
  | .alternation branches => areLengthless branches

/-- Whether several patterns match nothing but the empty text. -/
def areLengthless : List Pattern → Bool
  | [] => true
  | e :: rest => isLengthless e && areLengthless rest

end

mutual

/-- The least number of characters of a match, unless a part that has to match cannot. -/
def shortest? : Pattern → Option Nat
  | .empty => some 0
  | .leaf (.literal text) => some text.length
  | .leaf (.one set) => if set = ∅ then none else some 1
  | .leaf (.look ..) => some 0
  | .capture body => shortest? body
  | .repeated body least _ _ => (shortest? body).map (least * ·)
  | .concat parts => shortestTogether? parts
  | .alternation branches => shortestOf? branches

/-- The least number of characters of a match of several patterns in a row. -/
def shortestTogether? : List Pattern → Option Nat
  | [] => some 0
  | e :: rest => do return (← shortest? e) + (← shortestTogether? rest)

/-- The least number of characters of a match of any of several patterns. -/
def shortestOf? : List Pattern → Option Nat
  | [] => none
  | [e] => shortest? e
  | e :: rest => do return min (← shortest? e) (← shortestOf? rest)

end

/-! ## Normal form -/

/-- The parts of a sequence without empty ones; those of a sequence in it stand in its place. -/
def flatten (parts : List Pattern) : List Pattern :=
  parts.flatMap fun part =>
    match part with
    | .empty => []
    | .concat inner => inner
    | part => [part]

/-- Make one text of neighbouring texts. -/
def joinTexts : List Pattern → List Pattern
  | [] => []
  | .leaf (.literal text) :: rest =>
      match joinTexts rest with
      | .leaf (.literal more) :: rest => .leaf (.literal (text ++ more)) :: rest
      | rest => .leaf (.literal text) :: rest
  | part :: rest => part :: joinTexts rest

/-- A sequence. -/
def sequence (parts : List Pattern) : Pattern :=
  match joinTexts (flatten parts) with
  | [] => .empty
  | [part] => part
  | parts => .concat parts

/-- One character of a set. -/
def ofSet (set : Charset) : Pattern :=
  .leaf (.ofSet set)

/-- The character of a text of one character. -/
def single? : Pattern → Option Char
  | .leaf (.literal [c]) => some c
  | _ => none

/-- The set of a pattern for one character. -/
def set? : Pattern → Option Charset
  | .leaf (.one set) => some set
  | _ => none

/-- The parts of a sequence. -/
def parts? : Pattern → Option (List Pattern)
  | .concat parts => some parts
  | _ => none

/-- The branches of a choice; those of a choice in it stand in its place. -/
def flattenBranches (branches : List Pattern) : List Pattern :=
  branches.flatMap fun branch =>
    match branch with
    | .alternation inner => inner
    | branch => [branch]

/-- The single character or set that a choice between several branches stands for. -/
def merged? (branches : List Pattern) : Option Pattern :=
  match branches.mapM single? with
  | some characters => some (ofSet (Class.ofCodes (characters.map Char.toNat)))
  | none => (branches.mapM set?).map fun sets => ofSet (.unionAll sets)

/-- A choice between branches that have no first part in common. -/
def plainChoice (branches : List Pattern) : Pattern :=
  match flattenBranches branches with
  | [] => ofSet ∅
  | [branch] => branch
  | branches => (merged? branches).getD (.alternation branches)

/-- The parts that two sequences begin with alike. -/
def commonStart : List Pattern → List Pattern → List Pattern
  | part :: rest, part' :: rest' =>
      if part.isSame part' then part :: commonStart rest rest' else []
  | _, _ => []

/-- The parts that all branches of a choice begin with. -/
def sharedStart (branches : List Pattern) : List Pattern :=
  match branches.mapM parts? with
  | some (first :: rest) => rest.foldl commonStart first
  | _ => []

/-- A choice.  Parts that all branches begin with stand before it. -/
def choice (branches : List Pattern) : Pattern :=
  match flattenBranches branches with
  | [] => ofSet ∅
  | [branch] => branch
  | branches =>
      match merged? branches with
      | some found => found
      | none =>
          match sharedStart branches with
          | [] => .alternation branches
          | start =>
              let ends := branches.map fun branch =>
                sequence (((parts? branch).getD []).drop start.length)
              sequence (start ++ [plainChoice ends])

/-- A repetition.  What matches nothing but the empty text is not repeated. -/
def repetition (body : Pattern) (least : Nat) (most : Option Nat) (eager : Bool) : Pattern :=
  let (least, most) :=
    if body.isLengthless then (min least 1, some (min (most.getD 1) 1)) else (least, most)
  if least = 0 ∧ most = some 0 then .empty
  else if least = 1 ∧ most = some 1 then body
  else .repeated body least most eager

/-- A part that is to match once stands for itself. -/
theorem repetition_once (body : Pattern) (eager : Bool) :
    repetition body 1 (some 1) eager = body := by
  by_cases h : body.isLengthless = true <;> simp [repetition, h]

end Pattern

end Regex
end SchemaForm
