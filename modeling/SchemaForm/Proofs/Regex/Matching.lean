import Mathlib.Data.Nat.Bitwise
import Mathlib.Logic.Function.Iterate
import SchemaForm.Regex.Matching

/-!
# What patterns match

A pattern relates the positions of a text where a match may start to those where it may end.
The relation is defined by the tree of the pattern.  Running a pattern on a set of positions
leads to exactly the positions that are related to one of the set: every part of the tree
realizes its relation.  The number of positions bounds the repetitions, because a repetition
that stays where it is can be left out.

Main results:

- Theorem `realizes_run`: running a pattern realizes its relation.
- Theorem `occursIn_iff`: a pattern occurs in a text where it matches between two positions.
- Theorem `matches_sequence`: a sequence matches what its parts match one after another.
- Theorem `occursIn_between`: between the assertions of both ends a pattern has to match the whole
  text.
-/

namespace SchemaForm
namespace Regex

open Text (Charset)

/-! ## Matches -/

/-- Whether a leaf matches between two positions of a text. -/
def Leaf.Matches (text : List Char) : Leaf → Nat → Nat → Prop
  | .literal expected, i, j => expected <+: text.drop i ∧ j = i + expected.length
  | .one set, i, j => (∃ c ∈ text[i]?, set.contains c = true) ∧ j = i + 1
  | .look assertion word, i, j =>
      assertion.holds word (text.take i).getLast? (text.drop i).head? = true ∧ j = i

/-- A relation between positions a number of times in a row. -/
def InRow (step : Nat → Nat → Prop) : Nat → Nat → Nat → Prop
  | 0, i, j => i = j
  | n + 1, i, k => ∃ j, step i j ∧ InRow step n j k

namespace Pattern

mutual

/-- Whether a pattern matches between two positions of a text. -/
def Matches (text : List Char) : Pattern → Nat → Nat → Prop
  | .empty, i, j => i = j
  | .leaf a, i, j => a.Matches text i j
  | .capture body, i, j => Matches text body i j
  | .repeated body least most _, i, j =>
      ∃ n, least ≤ n ∧ (∀ m ∈ most, n ≤ max least m) ∧ InRow (Matches text body) n i j
  | .concat parts, i, j => MatchInTurn text parts i j
  | .alternation branches, i, j => MatchAny text branches i j

/-- Whether several patterns match one after another between two positions. -/
def MatchInTurn (text : List Char) : List Pattern → Nat → Nat → Prop
  | [], i, j => i = j
  | part :: rest, i, k => ∃ j, Matches text part i j ∧ MatchInTurn text rest j k

/-- Whether one of several patterns matches between two positions. -/
def MatchAny (text : List Char) : List Pattern → Nat → Nat → Prop
  | [], _, _ => False
  | branch :: rest, i, j => Matches text branch i j ∨ MatchAny text rest i j

end

end Pattern

/-! ## Relations in a row -/

section InRow

variable {step : Nat → Nat → Prop}

theorem inRow_add (m n : Nat) {i k : Nat} :
    InRow step (m + n) i k ↔ ∃ j, InRow step m i j ∧ InRow step n j k := by
  induction m generalizing i with
  | zero => simp [InRow]
  | succ m ih =>
      simp only [Nat.add_right_comm m 1 n, InRow, ih]
      constructor
      · rintro ⟨j, hstep, l, hm, hn⟩
        exact ⟨l, ⟨j, hstep, hm⟩, hn⟩
      · rintro ⟨l, ⟨j, hstep, hm⟩, hn⟩
        exact ⟨j, hstep, l, hm, hn⟩

/-- A step that may be left out, a number of times, is that number of steps at most. -/
theorem inRow_optional (n : Nat) {i j : Nat} :
    InRow (fun i j => i = j ∨ step i j) n i j ↔ ∃ k ≤ n, InRow step k i j := by
  induction n generalizing i with
  | zero => simp [InRow]
  | succ n ih =>
      simp only [InRow, ih]
      constructor
      · rintro ⟨l, rfl | hstep, k, hk, hrow⟩
        · exact ⟨k, by omega, hrow⟩
        · exact ⟨k + 1, by omega, l, hstep, hrow⟩
      · rintro ⟨_ | k, hk, hrow⟩
        · exact ⟨i, .inl rfl, 0, by omega, hrow⟩
        · obtain ⟨l, hstep, hrow⟩ := hrow
          exact ⟨l, .inr hstep, k, by omega, hrow⟩

/-- Steps that lead forward need not be more than the positions between the ends: those that stay
are left out. -/
theorem inRow_shorten {limit n i j : Nat}
    (forward : ∀ i j, i ≤ limit → step i j → i ≤ j ∧ j ≤ limit) (hi : i ≤ limit)
    (h : InRow step n i j) : i ≤ j ∧ j ≤ limit ∧ ∃ k ≤ j - i, InRow step k i j := by
  induction n generalizing i with
  | zero =>
      cases h
      exact ⟨le_rfl, hi, 0, by omega, rfl⟩
  | succ n ih =>
      obtain ⟨l, hstep, hrow⟩ := h
      obtain ⟨hil, hl⟩ := forward i l hi hstep
      obtain ⟨hlj, hj, k, hk, hrow⟩ := ih hl hrow
      refine ⟨by omega, hj, ?_⟩
      rcases eq_or_lt_of_le hil with rfl | hlt
      · exact ⟨k, hk, hrow⟩
      · exact ⟨k + 1, by omega, l, hstep, hrow⟩

end InRow

/-! ## Maps that realize a relation -/

/-- A set of positions has none beyond a limit. -/
def Within (limit positions : Nat) : Prop :=
  ∀ i, positions.testBit i = true → i ≤ limit

/-- A map of sets of positions realizes a relation that leads forward up to a limit: it leads to the
positions that are related to one of the set. -/
structure Realizes (limit : Nat) (f : Nat → Nat) (step : Nat → Nat → Prop) : Prop where
  testBit_iff : ∀ positions, Within limit positions → ∀ j,
    (f positions).testBit j = true ↔ ∃ i, positions.testBit i = true ∧ step i j
  forward : ∀ i j, i ≤ limit → step i j → i ≤ j ∧ j ≤ limit

namespace Realizes

variable {limit : Nat} {f g : Nat → Nat} {step next : Nat → Nat → Prop}

theorem within (h : Realizes limit f step) {positions : Nat} (hpositions : Within limit positions) :
    Within limit (f positions) := by
  intro j hj
  obtain ⟨i, hi, hstep⟩ := (h.testBit_iff positions hpositions j).mp hj
  exact (h.forward i j (hpositions i hi) hstep).2

theorem of_iff (h : Realizes limit f step) (hiff : ∀ i j, i ≤ limit → (step i j ↔ next i j)) :
    Realizes limit f next where
  testBit_iff positions hpositions j := by
    rw [h.testBit_iff positions hpositions j]
    refine exists_congr fun i => and_congr_right fun hi => ?_
    exact hiff i j (hpositions i hi)
  forward i j hi hnext := h.forward i j hi ((hiff i j hi).mpr hnext)

theorem congr (h : Realizes limit f step) (heq : ∀ positions, g positions = f positions) :
    Realizes limit g step := by
  rwa [show g = f from funext heq]

theorem nowhere : Realizes limit (fun _ => 0) fun _ _ => False where
  testBit_iff positions _ j := by simp
  forward i j _ h := h.elim

theorem stay : Realizes limit (fun positions => positions) Eq where
  testBit_iff positions _ j := by simp
  forward i j hi h := by omega

theorem comp (hf : Realizes limit f step) (hg : Realizes limit g next) :
    Realizes limit (fun positions => g (f positions)) fun i k => ∃ j, step i j ∧ next j k where
  testBit_iff positions hpositions k := by
    rw [hg.testBit_iff _ (hf.within hpositions)]
    simp only [hf.testBit_iff positions hpositions]
    constructor
    · rintro ⟨j, ⟨i, hi, hstep⟩, hnext⟩
      exact ⟨i, hi, j, hstep, hnext⟩
    · rintro ⟨i, hi, j, hstep, hnext⟩
      exact ⟨j, ⟨i, hi, hstep⟩, hnext⟩
  forward i k hi h := by
    obtain ⟨j, hstep, hnext⟩ := h
    obtain ⟨hij, hj⟩ := hf.forward i j hi hstep
    obtain ⟨hjk, hk⟩ := hg.forward j k hj hnext
    exact ⟨hij.trans hjk, hk⟩

theorem or (hf : Realizes limit f step) (hg : Realizes limit g next) :
    Realizes limit (fun positions => f positions ||| g positions)
      fun i j => step i j ∨ next i j where
  testBit_iff positions hpositions j := by
    rw [Nat.testBit_or, Bool.or_eq_true, hf.testBit_iff positions hpositions,
      hg.testBit_iff positions hpositions]
    simp only [and_or_left, exists_or]
  forward i j hi h := h.elim (hf.forward i j hi) (hg.forward i j hi)

theorem inRow (h : Realizes limit f step) (n : Nat) : Realizes limit (f^[n]) (InRow step n) := by
  induction n with
  | zero => exact stay
  | succ n ih => exact h.comp ih

end Realizes

/-- Applying a map until nothing changes is applying it as often as it was to be. -/
theorem iterate_eq (f : Nat → Nat) (n positions : Nat) :
    iterate f n positions = f^[n] positions := by
  induction n generalizing positions with
  | zero => rfl
  | succ n ih =>
      rw [iterate, Function.iterate_succ_apply]
      split
      · rename_i hfixed
        rw [hfixed, Function.iterate_fixed hfixed]
      · exact ih _

/-- Collecting until nothing new appears is collecting as often as it was to be. -/
theorem collect_eq (f : Nat → Nat) (n positions : Nat) :
    collect f n positions = (fun reached => reached ||| f reached)^[n] positions := by
  induction n generalizing positions with
  | zero => rfl
  | succ n ih =>
      rw [collect, Function.iterate_succ_apply]
      split
      · rename_i hfixed
        rw [hfixed, Function.iterate_fixed hfixed]
      · exact ih _

theorem realizes_collect {limit : Nat} {f : Nat → Nat} {step : Nat → Nat → Prop}
    (h : Realizes limit f step) (n : Nat) :
    Realizes limit (collect f n) fun i j => ∃ k ≤ n, InRow step k i j := by
  rw [show collect f n = _ from funext (collect_eq f n)]
  exact ((Realizes.stay.or h).inRow n).of_iff fun i j _ => inRow_optional n

/-- A repetition realizes a number of steps between its bounds.  Without an upper bound as many
steps are enough as there are positions. -/
theorem realizes_repeated {limit : Nat} {f : Nat → Nat} {step : Nat → Nat → Prop}
    (h : Realizes limit f step) (least : Nat) (most : Option Nat) :
    Realizes limit
      (fun positions =>
        collect f (match most with | none => limit + 1 | some most => most - least)
          (f^[least] positions))
      fun i j => ∃ n, least ≤ n ∧ (∀ m ∈ most, n ≤ max least m) ∧ InRow step n i j := by
  refine ((h.inRow least).comp (realizes_collect h _)).of_iff fun i k hi => ?_
  constructor
  · rintro ⟨j, hleast, n, hn, hrow⟩
    refine ⟨least + n, by omega, ?_, (inRow_add least n).mpr ⟨j, hleast, hrow⟩⟩
    rintro m ⟨⟩
    dsimp only at hn
    omega
  · rintro ⟨n, hleast, hmost, hrow⟩
    obtain ⟨more, rfl⟩ := Nat.exists_eq_add_of_le hleast
    obtain ⟨j, hstart, hmore⟩ := (inRow_add least more).mp hrow
    obtain ⟨hij, hj, -⟩ := inRow_shorten h.forward hi hstart
    refine ⟨j, hstart, ?_⟩
    cases most with
    | none =>
        obtain ⟨-, hk, few, hfew, hrow⟩ := inRow_shorten h.forward hj hmore
        exact ⟨few, by dsimp only; omega, hrow⟩
    | some m =>
        have hm := hmost m rfl
        exact ⟨more, by dsimp only; omega, hmore⟩

/-! ## Leaves -/

/-- The set of the positions with a property has no others. -/
theorem testBit_positionsWhere (bound : Nat) (holds : Nat → Bool) (i : Nat) :
    (positionsWhere bound holds).testBit i = (decide (i < bound) && holds i) := by
  induction bound with
  | zero => simp [positionsWhere]
  | succ bound ih =>
      have hsucc : positionsWhere (bound + 1) holds =
          if holds bound then positionsWhere bound holds ||| 1 <<< bound
          else positionsWhere bound holds := by
        simp [positionsWhere, List.range_succ]
      rcases Nat.lt_trichotomy i bound with hlt | rfl | hgt
      · have hne : ¬ bound = i := by omega
        split at hsucc <;>
          simp [hsucc, ih, Nat.one_shiftLeft, hlt, hne, Nat.lt_succ_of_lt hlt]
      · split at hsucc <;> simp_all [Nat.one_shiftLeft]
      · have hne : ¬ bound = i := by omega
        have hle : ¬ i < bound + 1 := by omega
        split at hsucc <;>
          simp [hsucc, ih, Nat.one_shiftLeft, hne, hle, hgt.le]

/-- Passing the characters with a property realizes one step past such a character. -/
theorem realizes_pass (text : List Char) (holds : Char → Bool) :
    Realizes text.length
      (fun positions =>
        (positions &&& positionsWhere text.length fun i => (text[i]?).any holds) <<< 1)
      fun i j => (∃ c ∈ text[i]?, holds c = true) ∧ j = i + 1 where
  testBit_iff positions _ j := by
    rw [Nat.testBit_shiftLeft]
    cases j with
    | zero => simp
    | succ j =>
        simp only [ge_iff_le, Nat.le_add_left, decide_true, Bool.true_and, Nat.add_sub_cancel,
          Nat.testBit_and, testBit_positionsWhere, Bool.and_eq_true, decide_eq_true_eq,
          Option.any_eq_true, Nat.add_right_cancel_iff]
        constructor
        · rintro ⟨hj, -, c, hc, hholds⟩
          exact ⟨j, hj, ⟨c, hc, hholds⟩, rfl⟩
        · rintro ⟨i, hi, ⟨c, hc, hholds⟩, rfl⟩
          exact ⟨hi, (List.getElem?_eq_some_iff.mp hc).1, c, hc, hholds⟩
  forward i j _ h := by
    obtain ⟨⟨c, hc, -⟩, rfl⟩ := h
    have hlt := (List.getElem?_eq_some_iff.mp hc).1
    omega

/-- A text comes next where its first character does and the others come after it. -/
theorem Leaf.matches_literal_cons {text expected : List Char} {c : Char} {i j : Nat} :
    Leaf.Matches text (.literal (c :: expected)) i j ↔
      c ∈ text[i]? ∧ Leaf.Matches text (.literal expected) (i + 1) j := by
  rw [Leaf.Matches, Leaf.Matches, ← List.head?_drop, ← List.tail_drop]
  cases text.drop i with
  | nil => simp
  | cons c' rest => simp [List.cons_prefix_cons, eq_comm, Nat.add_assoc, Nat.add_comm 1, and_assoc]

theorem realizes_literal (text expected : List Char) :
    Realizes text.length ((Leaf.literal expected).toMove text.toArray).run
      (Leaf.Matches text (.literal expected)) := by
  induction expected with
  | nil => exact Realizes.stay.of_iff fun i j _ => by simp [Leaf.Matches, eq_comm]
  | cons c rest ih =>
      have hrun : ((Leaf.literal (c :: rest)).toMove text.toArray).run = fun positions =>
          ((Leaf.literal rest).toMove text.toArray).run
            ((positions &&&
              positionsWhere text.length fun i => (text[i]?).any (· == c)) <<< 1) := by
        have hany (i : Nat) : (text[i]? == some c) = (text[i]?).any (· == c) := by
          cases text[i]? <;> simp
        funext positions
        simp [Leaf.toMove, Move.run, hany]
      rw [hrun]
      refine ((realizes_pass text (· == c)).comp ih).of_iff fun i j _ => ?_
      simp [Leaf.matches_literal_cons]

/-- A set keeps the positions where an assertion holds. -/
theorem realizes_look (text : List Char) (assertion : Look) (word : Charset) :
    Realizes text.length ((Leaf.look assertion word).toMove text.toArray).run
      (Leaf.Matches text (.look assertion word)) where
  testBit_iff positions hpositions j := by
    have hbefore (hj : j ≤ text.length) :
        (text.take j).getLast? = if j = 0 then none else text[j - 1]? := by
      rw [List.getLast?_take]
      split
      · rfl
      · rw [List.getElem?_eq_getElem (by omega), Option.some_or]
    simp only [Leaf.toMove, Move.run, Nat.testBit_and, Bool.and_eq_true, testBit_positionsWhere,
      Leaf.Matches, List.size_toArray, List.getElem?_toArray, List.head?_drop, decide_eq_true_eq]
    constructor
    · rintro ⟨hj, hle, hholds⟩
      exact ⟨j, hj, by rwa [hbefore (by omega)], rfl⟩
    · rintro ⟨i, hi, hholds, rfl⟩
      have hle := hpositions j hi
      exact ⟨hi, by omega, by rwa [hbefore hle] at hholds⟩
  forward i j hi h := by
    obtain ⟨-, rfl⟩ := h
    exact ⟨le_rfl, hi⟩

/-- A leaf realizes its relation. -/
theorem realizes_leaf (text : List Char) (a : Leaf) :
    Realizes text.length (a.toMove text.toArray).run (a.Matches text) := by
  cases a with
  | literal expected => exact realizes_literal text expected
  | one set =>
      have hrun : ((Leaf.one set).toMove text.toArray).run = fun positions =>
          (positions &&&
            positionsWhere text.length fun i => (text[i]?).any set.contains) <<< 1 := by
        funext positions
        simp [Leaf.toMove, Move.run]
      rw [hrun]
      exact realizes_pass text set.contains
  | look assertion word => exact realizes_look text assertion word

/-! ## Patterns -/

namespace Pattern

mutual

/-- Running a pattern on the positions of a text realizes its relation. -/
theorem realizes_run (text : List Char) : (pattern : Pattern) →
    Realizes text.length
      (Expr.run (text.length + 1) (Expr.map (Leaf.toMove text.toArray) pattern))
      (Matches text pattern)
  | .empty => by
      refine (Realizes.stay.congr fun positions => ?_).of_iff fun i j _ => ?_
      · rw [Expr.map, Expr.run]
      · rw [Matches]
  | .leaf a => by
      refine ((realizes_leaf text a).congr fun positions => ?_).of_iff fun i j _ => ?_
      · rw [Expr.map, Expr.run]
      · rw [Matches]
  | .capture body => by
      refine ((realizes_run text body).congr fun positions => ?_).of_iff fun i j _ => ?_
      · rw [Expr.map, Expr.run]
      · rw [Matches]
  | .repeated body least most eager => by
      have hbody := realizes_run text body
      refine (realizes_repeated hbody least most).congr (fun positions => ?_) |>.of_iff
        fun i j _ => ?_
      · rw [← iterate_eq]
        cases most <;> rw [Expr.map, Expr.run]
      · rw [Matches]
  | .concat parts => by
      refine ((realizes_runConcat text parts).congr fun positions => ?_).of_iff fun i j _ => ?_
      · rw [Expr.map, Expr.run]
      · rw [Matches]
  | .alternation branches => by
      refine ((realizes_runAlternation text branches).congr fun positions => ?_).of_iff
        fun i j _ => ?_
      · rw [Expr.map, Expr.run]
      · rw [Matches]

theorem realizes_runConcat (text : List Char) : (parts : List Pattern) →
    Realizes text.length
      (Expr.runConcat (text.length + 1) (Expr.mapAll (Leaf.toMove text.toArray) parts))
      (MatchInTurn text parts)
  | [] => by
      refine (Realizes.stay.congr fun positions => ?_).of_iff fun i j _ => ?_
      · rw [Expr.mapAll, Expr.runConcat]
      · rw [MatchInTurn]
  | part :: rest => by
      refine (((realizes_run text part).comp (realizes_runConcat text rest)).congr
        fun positions => ?_).of_iff fun i j _ => ?_
      · rw [Expr.mapAll, Expr.runConcat]
      · rw [MatchInTurn]

theorem realizes_runAlternation (text : List Char) : (branches : List Pattern) →
    Realizes text.length
      (Expr.runAlternation (text.length + 1) (Expr.mapAll (Leaf.toMove text.toArray) branches))
      (MatchAny text branches)
  | [] => by
      refine (Realizes.nowhere.congr fun positions => ?_).of_iff fun i j _ => ?_
      · rw [Expr.mapAll, Expr.runAlternation]
      · rw [MatchAny]
  | branch :: rest => by
      refine (((realizes_run text branch).or (realizes_runAlternation text rest)).congr
        fun positions => ?_).of_iff fun i j _ => ?_
      · rw [Expr.mapAll, Expr.runAlternation]
      · rw [MatchAny]

end

/-! ## Occurrences -/

/-- A pattern occurs in a text where it matches between two positions. -/
theorem occursIn_iff (pattern : Pattern) (text : List Char) :
    pattern.occursIn text = true ↔
      ∃ i j, i ≤ text.length ∧ pattern.Matches text i j := by
  have hall : Within text.length (twoTo (text.length + 1) - 1) := by
    intro i hi
    rw [twoTo, Nat.pow_eq, Nat.testBit_two_pow_sub_one, decide_eq_true_eq] at hi
    omega
  have hbit (i : Nat) : (twoTo (text.length + 1) - 1).testBit i = true ↔ i ≤ text.length := by
    rw [twoTo, Nat.pow_eq, Nat.testBit_two_pow_sub_one, decide_eq_true_eq]
    omega
  have hrun := (realizes_run text pattern).testBit_iff _ hall
  rw [occursIn, bne_iff_ne]
  simp only [List.size_toArray]
  constructor
  · intro hne
    obtain ⟨j, hj⟩ := Nat.exists_testBit_of_ne_zero hne
    obtain ⟨i, hi, hmatch⟩ := (hrun j).mp hj
    exact ⟨i, j, (hbit i).mp hi, hmatch⟩
  · rintro ⟨i, j, hi, hmatch⟩ hzero
    have hj := (hrun j).mpr ⟨i, (hbit i).mpr hi, hmatch⟩
    rw [hzero, Nat.zero_testBit] at hj
    cases hj

/-! ## Sequences -/

theorem matchInTurn_append {text : List Char} {parts rest : List Pattern} {i k : Nat} :
    MatchInTurn text (parts ++ rest) i k ↔
      ∃ j, MatchInTurn text parts i j ∧ MatchInTurn text rest j k := by
  induction parts generalizing i with
  | nil => simp [MatchInTurn]
  | cons part parts ih =>
      simp only [List.cons_append, MatchInTurn, ih]
      constructor
      · rintro ⟨j, hpart, l, hparts, hrest⟩
        exact ⟨l, ⟨j, hpart, hparts⟩, hrest⟩
      · rintro ⟨l, ⟨j, hpart, hparts⟩, hrest⟩
        exact ⟨j, hpart, l, hparts, hrest⟩

/-- Taking the parts of sequences for them keeps what matches. -/
theorem matchInTurn_flatten {text : List Char} (parts : List Pattern) {i k : Nat} :
    MatchInTurn text (flatten parts) i k ↔ MatchInTurn text parts i k := by
  induction parts generalizing i with
  | nil => rfl
  | cons part parts ih =>
      rw [flatten, List.flatMap_cons, ← flatten, matchInTurn_append, MatchInTurn]
      refine exists_congr fun j => and_congr ?_ ih
      cases part <;> simp [MatchInTurn, Matches]

/-- One text after another is a text. -/
theorem matches_literal_append {text first second : List Char} {i k : Nat} :
    Leaf.Matches text (.literal (first ++ second)) i k ↔
      ∃ j, Leaf.Matches text (.literal first) i j ∧ Leaf.Matches text (.literal second) j k := by
  induction first generalizing i with
  | nil => simp [Leaf.Matches]
  | cons c first ih =>
      simp only [List.cons_append, Leaf.matches_literal_cons, ih]
      simp only [and_assoc, exists_and_left]

/-- Joining neighbouring texts keeps what matches. -/
theorem matchInTurn_joinTexts {text : List Char} (parts : List Pattern) {i k : Nat} :
    MatchInTurn text (joinTexts parts) i k ↔ MatchInTurn text parts i k := by
  fun_induction joinTexts parts generalizing i with
  | case1 => rfl
  | case2 first rest second rest' hjoined ih =>
      simp only [hjoined, MatchInTurn, Matches] at ih
      simp only [MatchInTurn, Matches, matches_literal_append, ← ih]
      constructor
      · rintro ⟨l, ⟨j, hfirst, hsecond⟩, hrest⟩
        exact ⟨j, hfirst, l, hsecond, hrest⟩
      · rintro ⟨j, hfirst, l, hsecond, hrest⟩
        exact ⟨l, ⟨j, hfirst, hsecond⟩, hrest⟩
  | case3 first rest hjoined ih => simp only [MatchInTurn, ih]
  | case4 part rest hpart ih => simp only [MatchInTurn, ih]

/-- A sequence matches what its parts match one after another. -/
theorem matches_sequence {text : List Char} (parts : List Pattern) {i j : Nat} :
    (sequence parts).Matches text i j ↔ MatchInTurn text parts i j := by
  rw [← matchInTurn_flatten parts, ← matchInTurn_joinTexts (flatten parts), sequence]
  split
  · rename_i hparts
    simp [hparts, Matches, MatchInTurn]
  · rename_i part hparts
    simp [hparts, MatchInTurn]
  · rw [Matches]

/-! ## Whole texts -/

/-- A pattern between the ends of the text occurs where it matches the whole text. -/
theorem occursIn_between (body : Pattern) (first last : Charset) (text : List Char) :
    (sequence [.leaf (.look .textStart first), body, .leaf (.look .textEnd last)]).occursIn text =
        true ↔
      body.Matches text 0 text.length := by
  rw [occursIn_iff]
  simp only [matches_sequence, MatchInTurn, Matches, Leaf.Matches, Look.holds]
  constructor
  · rintro ⟨i, j, hi, l, ⟨hstart, hl⟩, k, hbody, l', ⟨hend, hl'⟩, hj⟩
    subst l l'
    rw [Option.isNone_iff_eq_none, List.getLast?_eq_none_iff, List.take_eq_nil_iff] at hstart
    rw [Option.isNone_iff_eq_none, List.head?_eq_none_iff, List.drop_eq_nil_iff] at hend
    obtain ⟨-, hle⟩ := (realizes_run text body).forward _ _ hi hbody
    have hzero : i = 0 := by
      rcases hstart with rfl | rfl
      · rfl
      · simpa using hi
    have hlength : k = text.length := by omega
    rwa [← hzero, ← hlength]
  · intro hbody
    exact ⟨0, text.length, Nat.zero_le _, 0, by simp, text.length, hbody, text.length, by simp, rfl⟩

end Pattern
end Regex
end SchemaForm
