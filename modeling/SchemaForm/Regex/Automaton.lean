import Std.Data.HashMap
import SchemaForm.Regex.Expr

/-!
# Sizes of automata

A pattern is refused if an automaton for it over the bytes of texts becomes too
large.  The size of the automaton is computed without building it: every state
takes as much as any other, and states that branch take more for each way out.
One automaton runs forward and keeps the places of captures; another one runs
backward and does not.

Main results:

- Theorem `Extent.size_copies`: copies in a row take their sizes together and their joints.
- Theorem `Bytes.length_ofCode`: a code point takes one to four bytes.
- Theorem `Bytes.spans_ne_nil`: the spans of a range of code points are not empty.
-/

namespace SchemaForm
namespace Regex

open Text (Charset)

/-! ## Bytes -/

namespace Bytes

/-- The bytes of a code point. -/
def ofCode (n : Nat) : List Nat :=
  if n < 0x80 then [n]
  else if n < 0x800 then [0xc0 + n / 0x40, 0x80 + n % 0x40]
  else if n < 0x10000 then [0xe0 + n / 0x1000, 0x80 + n / 0x40 % 0x40, 0x80 + n % 0x40]
  else
    [0xf0 + n / 0x40000, 0x80 + n / 0x1000 % 0x40, 0x80 + n / 0x40 % 0x40, 0x80 + n % 0x40]

/-- A code point takes one to four bytes. -/
theorem length_ofCode (n : Nat) : 1 ≤ (ofCode n).length ∧ (ofCode n).length ≤ 4 := by
  unfold ofCode
  repeat' split
  all_goals simp

/-- The bytes of a text. -/
def ofText (text : List Char) : List Nat :=
  text.flatMap fun c => ofCode c.toNat

/-- Where a range of code points splits at the number of bytes that they take. -/
def lengthSplit? (first last : Nat) : Option Nat :=
  [0x7f, 0x7ff, 0xffff].find? fun most => first ≤ most && most < last

/-- Where a range of code points of equal length splits so that its parts are products of ranges of
bytes. -/
def blockSplit? (first last : Nat) : Option Nat :=
  [0x40, 0x1000, 0x40000].findSome? fun block =>
    if first / block = last / block then none
    else if first % block ≠ 0 then some (first - first % block + block - 1)
    else if last % block ≠ block - 1 then some (last - last % block - 1)
    else none

/-- Where a range of code points splits, if it is no product of ranges of bytes. -/
def split? (first last : Nat) : Option Nat :=
  (lengthSplit? first last).or (if last < 0x80 then none else blockSplit? first last)

/-- The products of ranges of bytes that make up a range of code points, in order. -/
def spans (first last : Nat) : List (List (Nat × Nat)) :=
  match split? first last with
  | some middle =>
      if _h : first ≤ middle ∧ middle < last then
        spans first middle ++ spans (middle + 1) last
      else [(ofCode first).zip (ofCode last)]
  | none => [(ofCode first).zip (ofCode last)]
termination_by last - first

/-- The products of ranges of bytes that make up a set. -/
def spansOf (set : Charset) : List (List (Nat × Nat)) :=
  set.ranges.flatMap fun range => spans range.1 range.2

/-- The spans of a range of code points are not empty. -/
theorem spans_ne_nil (first last : Nat) : spans first last ≠ [] := by
  fun_induction spans first last with
  | case1 first last middle hSplit h ihLeft ihRight => simp [ihLeft]
  | case2 => simp
  | case3 => simp

end Bytes

/-! ## States -/

/-- What a state takes. -/
def stateSize : Nat :=
  32

/-- What each way out of a state takes that branches without reading. -/
def branchSize : Nat :=
  4

/-- What each way out of a state takes that branches by the byte it reads. -/
def rangeSize : Nat :=
  8

/-- What a part of an automaton takes, and whether it ends in a state that branches, which takes
more for what follows. -/
structure Extent where
  size : Nat
  branches : Bool
deriving DecidableEq, Repr

namespace Extent

/-- A part of one state. -/
def ofState : Extent :=
  ⟨stateSize, false⟩

/-- What is added where something follows a part. -/
def joint (e : Extent) : Nat :=
  if e.branches then branchSize else 0

/-- One part after another. -/
def andThen (e next : Extent) : Extent :=
  ⟨e.size + e.joint + next.size, next.branches⟩

/-- Parts in a row; of none, a state remains. -/
def inRow : List Extent → Extent
  | [] => .ofState
  | [e] => e
  | e :: rest => e.andThen (inRow rest)

/-- Copies of a part in a row; of none, a state remains. -/
def copies (e : Extent) : Nat → Extent
  | 0 => .ofState
  | n + 1 => ⟨(n + 1) * e.size + n * e.joint, e.branches⟩

/-- Branches side by side. -/
def sideBySide (es : List Extent) : Extent :=
  ⟨es.foldl (fun size e => size + branchSize + e.size + e.joint) (2 * stateSize), false⟩

/-- A part that may be left out. -/
def optional (e : Extent) : Extent :=
  ⟨2 * stateSize + 2 * branchSize + e.size + e.joint, false⟩

/-- A part any number of times. -/
def anyTimes (e : Extent) (mayBeEmpty : Bool) : Extent :=
  if mayBeEmpty then ⟨e.size + e.joint + 3 * stateSize + 4 * branchSize, false⟩
  else ⟨stateSize + branchSize + e.size + e.joint, true⟩

/-- A part a number of times or more, at least once. -/
def orMore (e : Extent) (least : Nat) : Extent :=
  let required := e.copies least
  ⟨required.size + required.joint + stateSize + branchSize, true⟩

/-- A part a number of times, and then up to `more` times. -/
def upTo (e : Extent) (least more : Nat) : Extent :=
  let required := e.copies least
  ⟨required.size + required.joint + stateSize +
    more * (stateSize + 2 * branchSize + e.size + e.joint), false⟩

/-- A part between two marks of its place. -/
def marked (e : Extent) : Extent :=
  ⟨e.size + e.joint + 2 * stateSize, false⟩

/-- Copies in a row take their sizes together and their joints. -/
theorem size_copies (e : Extent) (n : Nat) :
    (e.copies (n + 2)).size = (e.andThen (e.copies (n + 1))).size := by
  simp only [copies, andThen]
  grind

end Extent

/-! ## Sets of characters -/

namespace Bytes

/-- Products of ranges of bytes by the first range. -/
def byFirst : List (List (Nat × Nat)) → List ((Nat × Nat) × List (List (Nat × Nat)))
  | [] => []
  | [] :: rest => byFirst rest
  | (range :: tail) :: rest =>
      match byFirst rest with
      | (range', tails) :: more =>
          if range = range' then (range, tail :: tails) :: more
          else (range, [tail]) :: (range', tails) :: more
      | [] => [(range, [tail])]

/-- The states met so far, by their ways out: ranges of bytes and numbers of states. -/
abbrev States :=
  Std.HashMap (List (Nat × Nat × Nat)) Nat

/-- The number of the state that reads products of ranges with at most `length` bytes.  States with
equal ways out are one state, and the state after the last byte has the number zero. -/
def stateOf : (length : Nat) → List (List (Nat × Nat)) → StateM States Nat
  | 0, _ => return 0
  | length + 1, spans => do
      if spans.all List.isEmpty then return 0
      let waysOut ← (byFirst spans).mapM fun group => do
        return (group.1.1, group.1.2, ← stateOf length group.2)
      let states ← get
      match states[waysOut]? with
      | some number => return number
      | none =>
          let number := states.size + 1
          set (states.insert waysOut number)
          return number

/-- What the states take that read products of ranges of bytes from their first byte on. -/
def forwardSize (spans : List (List (Nat × Nat))) : Nat :=
  let states := ((stateOf 4 spans).run ∅).2
  states.fold (fun size waysOut _ => size + stateSize + rangeSize * waysOut.length) stateSize

/-- The number of ranges that two products begin with alike. -/
def sharedLength : List (Nat × Nat) → List (Nat × Nat) → Nat
  | range :: rest, range' :: rest' => if range = range' then sharedLength rest rest' + 1 else 0
  | _, _ => 0

/-- What the states take that read products of ranges of bytes from their last byte on.  Products
that begin alike share the states that are read last. -/
def backwardSize : List (List (Nat × Nat)) → Nat
  | [] => 2 * stateSize
  | [span] => 2 * stateSize + branchSize + stateSize * span.length
  | span :: next :: rest =>
      branchSize + stateSize * (span.length - sharedLength span next) +
        backwardSize (next :: rest)

end Bytes

/-- The way an automaton reads a text. -/
inductive Direction where
  | forward
  | backward
deriving DecidableEq, Repr

/-- The part for one character of a set. -/
def Direction.extentOfSet (direction : Direction) (set : Charset) : Extent :=
  if set.isAscii then ⟨2 * stateSize + rangeSize * set.ranges.length, false⟩
  else
    match direction with
    | .forward => ⟨Bytes.forwardSize (Bytes.spansOf set), false⟩
    | .backward => ⟨Bytes.backwardSize (Bytes.spansOf set), false⟩

/-! ## Choices between texts -/

/-- A tree of the texts of a choice.  A node is a row of ways out by the next byte, and of stops
where a text ends; the ways out between two stops form a group. -/
inductive TextTree where
  | done
  | way (byte : Nat) (child more : TextTree)
  | stop (more : TextTree)

namespace TextTree

/-- Whether a node has a stop. -/
def hasStop : TextTree → Bool
  | .done => false
  | .way _ _ more => hasStop more
  | .stop _ => true

/-- Whether a node has no way out. -/
def isLast : TextTree → Bool
  | .done => true
  | .way .. => false
  | .stop more => isLast more

/-- Add a stop to the end of a node. -/
def addStop : TextTree → TextTree
  | .done => .stop .done
  | .way byte child more => .way byte child (addStop more)
  | .stop more => .stop (addStop more)

/-- The tree of one text. -/
def ofBytes : List Nat → TextTree
  | [] => .stop .done
  | byte :: rest => .way byte (ofBytes rest) .done

/-- Add a text.  A way out is shared only within the last group of a node. -/
def insert : TextTree → List Nat → TextTree
  | tree, [] => if tree.isLast && tree.hasStop then tree else tree.addStop
  | .done, bytes => ofBytes bytes
  | .stop more, bytes => .stop (insert more bytes)
  | .way byte child more, first :: rest =>
      if byte = first && !more.hasStop then .way byte (insert child rest) more
      else .way byte child (insert more (first :: rest))

/-- The tree of several texts. -/
def ofTexts (texts : List (List Nat)) : TextTree :=
  texts.foldl insert .done

/-- What a group of ways out takes. -/
def groupSize (ways : Nat) : Nat :=
  if ways = 0 then 0
  else if ways = 1 then branchSize + stateSize
  else branchSize + stateSize + rangeSize * ways

/-- What the rest of a node takes after a number of ways out of the same group, with all nodes
below. -/
def sizeFrom : TextTree → (ways : Nat) → Nat
  | .done, ways => groupSize ways
  | .stop more, ways => groupSize ways + branchSize + sizeFrom more 0
  | .way _ child more, ways =>
      (if child.isLast then 0 else stateSize + sizeFrom child 0) + sizeFrom more (ways + 1)

/-- What the states for a tree take. -/
def size (tree : TextTree) : Nat :=
  2 * stateSize + sizeFrom tree 0

end TextTree

namespace Direction

/-- The bytes of a text in the order in which they are read. -/
def bytesOf (direction : Direction) (text : List Char) : List Nat :=
  match direction with
  | .forward => Bytes.ofText text
  | .backward => (Bytes.ofText text).reverse

/-- The texts of branches that are texts all. -/
def texts? (branches : List Pattern) : Option (List (List Char)) :=
  branches.mapM fun branch =>
    match branch with
    | .leaf (.literal text) => some text
    | _ => none

/-! ## Patterns -/

mutual

/-- The part for a pattern. -/
def extent (direction : Direction) : Pattern → Extent
  | .empty => .ofState
  | .leaf (.literal text) => ⟨stateSize * (Bytes.ofText text).length, false⟩
  | .leaf (.one set) => direction.extentOfSet set
  | .leaf (.look ..) => .ofState
  | .capture body =>
      match direction with
      | .forward => (extent .forward body).marked
      | .backward => extent .backward body
  | .repeated body least most _ =>
      let e := extent direction body
      match least, most with
      | 0, some 1 => e.optional
      | 0, none => e.anyTimes ((Pattern.shortest? body).getD 0 == 0)
      | least, none => e.orMore least
      | least, some most => if least = most then e.copies least else e.upTo least (most - least)
  | .concat parts =>
      match direction with
      | .forward => .inRow (extents .forward parts)
      | .backward => .inRow (extents .backward parts).reverse
  | .alternation branches =>
      match texts? branches with
      | some texts =>
          ⟨(TextTree.ofTexts (texts.map direction.bytesOf)).size, false⟩
      | none => .sideBySide (extents direction branches)

/-- The parts for several patterns. -/
def extents (direction : Direction) : List Pattern → List Extent
  | [] => []
  | e :: rest => extent direction e :: extents direction rest

end

/-- What an automaton for a pattern takes, with a state before it and one that ends the match. -/
def automatonSize (direction : Direction) (pattern : Pattern) : Nat :=
  let e := direction.extent pattern
  let whole :=
    match direction with
    | .forward => e.marked
    | .backward => e
  whole.size + whole.joint + 2 * stateSize

end Direction

/-- The most that an automaton may take. -/
def sizeLimit : Nat :=
  10 * 1024 * 1024

/-- Whether both automata for a pattern are small enough. -/
def Pattern.fits (pattern : Pattern) : Bool :=
  Direction.forward.automatonSize pattern ≤ sizeLimit &&
    Direction.backward.automatonSize pattern ≤ sizeLimit

end Regex
end SchemaForm
