import SchemaForm.Power
import SchemaForm.Regex.Expr

/-!
# Matching

Sets of positions in a text are natural numbers whose bits are the positions.
A character set moves every position past a matching character one step on, an
assertion keeps the positions where it holds, and an expression maps the
positions where a match may start to those where it may end.
-/

namespace SchemaForm
namespace Regex

open Text (Charset)

/-- A leaf for a known text: steps past the characters at the given positions one after another, or
a stay at positions. -/
inductive Move where
  | steps (positions : List Nat)
  | stay (positions : Nat)
deriving DecidableEq, Repr

/-- The positions below a bound with a property. -/
def positionsWhere (bound : Nat) (holds : Nat → Bool) : Nat :=
  (List.range bound).foldl (fun found i => if holds i then found ||| 1 <<< i else found) 0

/-- Whether an assertion holds between two characters. -/
def Look.holds (look : Look) (word : Charset) (before after : Option Char) : Bool :=
  let wordBefore := before.any word.contains
  let wordAfter := after.any word.contains
  match look with
  | .textStart => before.isNone
  | .textEnd => after.isNone
  | .lineStart => before.isNone || before == some '\n'
  | .lineEnd => after.isNone || after == some '\n'
  | .anyLineStart =>
      before.isNone || before == some '\n' || (before == some '\r' && after != some '\n')
  | .anyLineEnd =>
      after.isNone || after == some '\r' || (after == some '\n' && before != some '\r')
  | .wordBoundary => wordBefore != wordAfter
  | .noWordBoundary => wordBefore == wordAfter
  | .wordStart => !wordBefore && wordAfter
  | .wordEnd => wordBefore && !wordAfter
  | .noWordBefore => !wordBefore
  | .noWordAfter => !wordAfter

/-- A leaf for a text. -/
def Leaf.toMove (text : Array Char) : Leaf → Move
  | .literal expected =>
      .steps (expected.map fun c => positionsWhere text.size fun i => text[i]? == some c)
  | .one set => .steps [positionsWhere text.size fun i => (text[i]?).any set.contains]
  | .look assertion word =>
      .stay (positionsWhere (text.size + 1) fun i =>
        assertion.holds word (if i = 0 then none else text[i - 1]?) text[i]?)

/-- The positions that a move leads to from others. -/
def Move.run : Move → Nat → Nat
  | .steps masks, positions => masks.foldl (fun reached mask => (reached &&& mask) <<< 1) positions
  | .stay mask, positions => positions &&& mask

/-- Apply a map a number of times, at most until it changes nothing more. -/
def iterate (f : Nat → Nat) : Nat → Nat → Nat
  | 0, positions => positions
  | n + 1, positions =>
      let next := f positions
      if next = positions then positions else iterate f n next

/-- Collect the results of applying a map up to a number of times, at most until nothing new
appears. -/
def collect (f : Nat → Nat) : Nat → Nat → Nat
  | 0, positions => positions
  | n + 1, positions =>
      let next := positions ||| f positions
      if next = positions then positions else collect f n next

namespace Expr

mutual

/-- The positions where a match may end, given those where it may start.  A text with fewer than
`bound` positions needs no more repetitions than that. -/
def run (bound : Nat) : Expr Move → Nat → Nat
  | .empty, positions => positions
  | .leaf move, positions => move.run positions
  | .capture body, positions => run bound body positions
  | .repeated body least most _, positions =>
      let start := iterate (run bound body) least positions
      match most with
      | none => collect (run bound body) bound start
      | some most => collect (run bound body) (most - least) start
  | .concat parts, positions => runConcat bound parts positions
  | .alternation branches, positions => runAlternation bound branches positions

/-- The parts of a sequence in turn. -/
def runConcat (bound : Nat) : List (Expr Move) → Nat → Nat
  | [], positions => positions
  | part :: rest, positions => runConcat bound rest (run bound part positions)

/-- The branches of a choice side by side. -/
def runAlternation (bound : Nat) : List (Expr Move) → Nat → Nat
  | [], _ => 0
  | branch :: rest, positions =>
      run bound branch positions ||| runAlternation bound rest positions

end

end Expr

/-- Whether a pattern matches somewhere in a text. -/
def Pattern.occursIn (pattern : Pattern) (text : List Char) : Bool :=
  let subject := text.toArray
  let bound := subject.size + 1
  Expr.run bound (pattern.map (Leaf.toMove subject)) (twoTo bound - 1) != 0

end Regex
end SchemaForm
