/-!
# Sets of code points

A set of code points is the ascending list of the bounds where membership
changes: the first member, the first code point past its run, the next member,
and so on.  All operations on two sets merge their bounds in one sweep.

Main results:

- Theorem `within_merge`: the merged bounds combine the memberships as the operation says.
- Theorem `contains_union`, Theorem `contains_difference`: the set operations in terms of members.
- Theorem `contains_unionAll`: a member of a union of many sets is in one of them.
-/

namespace SchemaForm
namespace Text

/-- A set of code points by the bounds where membership changes. -/
structure Charset where
  bounds : List Nat
  ascending : bounds.Pairwise (· < ·)
deriving DecidableEq, Repr

namespace Charset

/-! ## Sweeping over bounds -/

/-- Membership of `n`, given the membership before the first bound. -/
def within : Bool → List Nat → Nat → Bool
  | state, [], _ => state
  | state, bound :: rest, n => if n < bound then state else within (!state) rest n

/-- Put a bound in front if membership changes there. -/
def emit (before after : Bool) (bound : Nat) (rest : List Nat) : List Nat :=
  if before = after then rest else bound :: rest

/-- Bounds of a combination from the place on where the left set has no more bounds. -/
def mergeRest (op : Bool → Bool → Bool) (p : Bool) : Bool → List Nat → List Nat
  | _, [] => []
  | q, bound :: rest => emit (op p q) (op p !q) bound (mergeRest op p (!q) rest)

/-- Bounds of a combination up to the next bound `a` of the left set, and those that `next` gives
from there on. -/
def mergeUpTo (op : Bool → Bool → Bool) (p : Bool) (a : Nat)
    (next : Bool → List Nat → List Nat) : Bool → List Nat → List Nat
  | q, [] => emit (op p q) (op (!p) q) a (next q [])
  | q, b :: rest =>
      if a < b then emit (op p q) (op (!p) q) a (next q (b :: rest))
      else if b < a then emit (op p q) (op p !q) b (mergeUpTo op p a next (!q) rest)
      else emit (op p q) (op (!p) !q) a (next (!q) rest)

/-- Bounds of a combination of two sets, given the membership in both before all bounds. -/
def merge (op : Bool → Bool → Bool) : List Nat → Bool → Bool → List Nat → List Nat
  | [], p, q, right => mergeRest op p q right
  | a :: left, p, q, right => mergeUpTo op p a (merge op left !p) q right

theorem within_of_lt {bounds : List Nat} {state : Bool} {n : Nat}
    (h : ∀ bound ∈ bounds, n < bound) : within state bounds n = state := by
  cases bounds with
  | nil => rfl
  | cons bound rest => simp [within, h bound (by simp)]

theorem within_emit {before after : Bool} {bound : Nat} {rest : List Nat} {n : Nat}
    (h : ∀ x ∈ rest, bound < x) :
    within before (emit before after bound rest) n =
      if n < bound then before else within after rest n := by
  unfold emit
  by_cases hEq : before = after
  · subst hEq
    by_cases hn : n < bound
    · rw [if_pos rfl, if_pos hn]
      exact within_of_lt fun x hx => Nat.lt_trans hn (h x hx)
    · rw [if_pos rfl, if_neg hn]
  · have hNot : after = !before := by
      cases before <;> cases after <;> simp_all
    rw [if_neg hEq]
    simp [within, hNot]

theorem mem_emit {before after : Bool} {bound x : Nat} {rest : List Nat}
    (h : x ∈ emit before after bound rest) : x = bound ∨ x ∈ rest := by
  unfold emit at h
  split at h
  · exact .inr h
  · simpa using h

theorem pairwise_emit {before after : Bool} {bound : Nat} {rest : List Nat}
    (hRest : rest.Pairwise (· < ·)) (h : ∀ x ∈ rest, bound < x) :
    (emit before after bound rest).Pairwise (· < ·) := by
  unfold emit
  split
  · exact hRest
  · exact List.pairwise_cons.mpr ⟨h, hRest⟩

theorem mem_mergeRest {op : Bool → Bool → Bool} {p q : Bool} {right : List Nat} {x : Nat}
    (h : x ∈ mergeRest op p q right) : x ∈ right := by
  induction right generalizing q with
  | nil => simp [mergeRest] at h
  | cons b rest ih =>
      rcases mem_emit h with rfl | h
      · simp
      · exact List.mem_cons_of_mem _ (ih h)

theorem mem_mergeUpTo {op : Bool → Bool → Bool} {p q : Bool} {a : Nat}
    {next : Bool → List Nat → List Nat} {left right : List Nat} {x : Nat}
    (hNext : ∀ q right, x ∈ next q right → x ∈ left ∨ x ∈ right)
    (h : x ∈ mergeUpTo op p a next q right) : x ∈ a :: left ∨ x ∈ right := by
  induction right generalizing q with
  | nil =>
      rcases mem_emit h with rfl | h
      · simp
      · rcases hNext _ _ h with h | h <;> simp [h]
  | cons b rest ih =>
      unfold mergeUpTo at h
      split at h
      · rcases mem_emit h with rfl | h
        · simp
        · rcases hNext _ _ h with h | h
          · simp [h]
          · exact .inr h
      · split at h
        · rcases mem_emit h with rfl | h
          · simp
          · rcases ih h with h | h
            · exact .inl h
            · exact .inr (List.mem_cons_of_mem _ h)
        · rcases mem_emit h with rfl | h
          · simp
          · rcases hNext _ _ h with h | h <;> simp [h]

theorem mem_merge {op : Bool → Bool → Bool} {left right : List Nat} {p q : Bool} {x : Nat}
    (h : x ∈ merge op left p q right) : x ∈ left ∨ x ∈ right := by
  induction left generalizing p q right with
  | nil => exact .inr (mem_mergeRest h)
  | cons a left ih => exact mem_mergeUpTo (fun q right hx => ih hx) h

theorem mergeRest_sound {op : Bool → Bool → Bool} {p q : Bool} {right : List Nat}
    (h : right.Pairwise (· < ·)) :
    (mergeRest op p q right).Pairwise (· < ·) ∧
      ∀ n, within (op p q) (mergeRest op p q right) n = op p (within q right n) := by
  induction right generalizing q with
  | nil => exact ⟨List.Pairwise.nil, fun n => rfl⟩
  | cons b rest ih =>
      obtain ⟨hb, hRest⟩ := List.pairwise_cons.mp h
      obtain ⟨hAscending, hWithin⟩ := ih (q := !q) hRest
      have hAbove : ∀ x ∈ mergeRest op p (!q) rest, b < x := fun x hx => hb x (mem_mergeRest hx)
      refine ⟨pairwise_emit hAscending hAbove, fun n => ?_⟩
      show within (op p q) (emit (op p q) (op p !q) b (mergeRest op p (!q) rest)) n = _
      rw [within_emit hAbove, hWithin]
      by_cases hn : n < b <;> simp [within, hn]

theorem merge_sound {op : Bool → Bool → Bool} {left right : List Nat} {p q : Bool}
    (hLeft : left.Pairwise (· < ·)) (hRight : right.Pairwise (· < ·)) :
    (merge op left p q right).Pairwise (· < ·) ∧
      ∀ n, within (op p q) (merge op left p q right) n =
        op (within p left n) (within q right n) := by
  induction left generalizing p q right with
  | nil => exact mergeRest_sound hRight
  | cons a left ihLeft =>
      obtain ⟨ha, hLeft⟩ := List.pairwise_cons.mp hLeft
      induction right generalizing q with
      | nil =>
          obtain ⟨hAscending, hWithin⟩ := ihLeft (p := !p) (q := q) hLeft List.Pairwise.nil
          have hAbove : ∀ x ∈ merge op left (!p) q [], a < x := fun x hx =>
            (mem_merge hx).elim (ha x) (by simp)
          refine ⟨pairwise_emit hAscending hAbove, fun n => ?_⟩
          show within (op p q) (emit (op p q) (op (!p) q) a (merge op left (!p) q [])) n = _
          rw [within_emit hAbove, hWithin]
          by_cases hn : n < a <;> simp [within, hn]
      | cons b rest ihRight =>
          obtain ⟨hb, hRest⟩ := List.pairwise_cons.mp hRight
          show (mergeUpTo op p a (merge op left !p) q (b :: rest)).Pairwise (· < ·) ∧
            ∀ n, within (op p q) (mergeUpTo op p a (merge op left !p) q (b :: rest)) n = _
          unfold mergeUpTo
          by_cases hab : a < b
          · obtain ⟨hAscending, hWithin⟩ := ihLeft (p := !p) (q := q) hLeft hRight
            have hAbove : ∀ x ∈ merge op left (!p) q (b :: rest), a < x := fun x hx =>
              (mem_merge hx).elim (ha x) fun hx => by
                rcases List.mem_cons.mp hx with rfl | hx
                · exact hab
                · exact Nat.lt_trans hab (hb x hx)
            rw [if_pos hab]
            refine ⟨pairwise_emit hAscending hAbove, fun n => ?_⟩
            rw [within_emit hAbove, hWithin]
            by_cases hn : n < a
            · have hnb : n < b := Nat.lt_trans hn hab
              simp [within, hn, hnb]
            · simp [within, hn]
          · by_cases hba : b < a
            · obtain ⟨hAscending, hWithin⟩ := ihRight (q := !q) hRest
              have hAbove : ∀ x ∈ mergeUpTo op p a (merge op left !p) (!q) rest, b < x :=
                fun x hx => (mem_mergeUpTo (fun _ _ h => mem_merge h) hx).elim
                  (fun hx => by
                    rcases List.mem_cons.mp hx with rfl | hx
                    · exact hba
                    · exact Nat.lt_trans hba (ha x hx))
                  (hb x)
              rw [if_neg hab, if_pos hba]
              refine ⟨pairwise_emit hAscending hAbove, fun n => ?_⟩
              rw [within_emit hAbove]
              have hWithin := hWithin n
              change within _ (mergeUpTo op p a (merge op left !p) (!q) rest) n = _ at hWithin
              rw [hWithin]
              by_cases hn : n < b
              · have hna : n < a := Nat.lt_trans hn hba
                simp [within, hn, hna]
              · simp [within, hn]
            · have hEq : a = b := by omega
              subst hEq
              obtain ⟨hAscending, hWithin⟩ := ihLeft (p := !p) (q := !q) hLeft hRest
              have hAbove : ∀ x ∈ merge op left (!p) (!q) rest, a < x := fun x hx =>
                (mem_merge hx).elim (ha x) (hb x)
              rw [if_neg hab, if_neg hba]
              refine ⟨pairwise_emit hAscending hAbove, fun n => ?_⟩
              rw [within_emit hAbove, hWithin]
              by_cases hn : n < a <;> simp [within, hn]

/-- The merged bounds combine the memberships as the operation says. -/
theorem within_merge {op : Bool → Bool → Bool} {left right : List Nat} {p q : Bool}
    (hLeft : left.Pairwise (· < ·)) (hRight : right.Pairwise (· < ·)) (n : Nat) :
    within (op p q) (merge op left p q right) n = op (within p left n) (within q right n) :=
  (merge_sound hLeft hRight).2 n

/-! ## Sets and their members -/

/-- Whether a code point is a member. -/
def containsCode (set : Charset) (n : Nat) : Bool :=
  within false set.bounds n

/-- Whether a character is a member. -/
def contains (set : Charset) (c : Char) : Bool :=
  set.containsCode c.toNat

/-- No code point. -/
def empty : Charset :=
  ⟨[], List.Pairwise.nil⟩

theorem pairwise_pair {first past : Nat} (h : first < past) :
    [first, past].Pairwise (· < ·) :=
  List.Pairwise.cons (fun _ hx => List.mem_singleton.mp hx ▸ h)
    (List.Pairwise.cons (fun _ hx => nomatch hx) List.Pairwise.nil)

/-- The code points from `first` to `last`. -/
def range (first last : Nat) : Charset :=
  if h : first ≤ last then ⟨[first, last + 1], pairwise_pair (Nat.lt_succ_of_le h)⟩ else empty

/-- One code point. -/
def single (n : Nat) : Charset :=
  range n n

/-- All characters: every code point but the halves of surrogate pairs. -/
def everything : Charset :=
  ⟨[0, 0xd800, 0xe000, 0x110000], by decide⟩

/-- The combination of two sets. -/
def combine (op : Bool → Bool → Bool) (left right : Charset) : Charset :=
  ⟨merge op left.bounds false false right.bounds,
    (merge_sound left.ascending right.ascending).1⟩

/-- The members of either set. -/
def union : Charset → Charset → Charset :=
  combine (· || ·)

/-- The members of both sets. -/
def intersection : Charset → Charset → Charset :=
  combine (· && ·)

/-- The members of the left set that are not in the right one. -/
def difference : Charset → Charset → Charset :=
  combine fun p q => p && !q

/-- The members of exactly one of the sets. -/
def symmetricDifference : Charset → Charset → Charset :=
  combine (· != ·)

/-- The characters that are no members. -/
def complement (set : Charset) : Charset :=
  everything.difference set

instance : EmptyCollection Charset :=
  ⟨empty⟩

instance : Union Charset :=
  ⟨union⟩

instance : Inter Charset :=
  ⟨intersection⟩

instance : SDiff Charset :=
  ⟨difference⟩

theorem containsCode_combine (op : Bool → Bool → Bool) (h : op false false = false)
    (left right : Charset) (n : Nat) :
    (combine op left right).containsCode n = op (left.containsCode n) (right.containsCode n) := by
  have hMerge := @within_merge op _ _ false false left.ascending right.ascending n
  rw [h] at hMerge
  exact hMerge

@[simp]
theorem contains_empty (c : Char) : (∅ : Charset).contains c = false :=
  rfl

@[simp]
theorem contains_range (first last : Nat) (c : Char) :
    (range first last).contains c = (decide (first ≤ c.toNat) && decide (c.toNat ≤ last)) := by
  unfold range
  split <;> rename_i h
  · by_cases h1 : c.toNat < first
    · simp [contains, containsCode, within, h1, Nat.not_le.mpr h1]
    · by_cases h2 : c.toNat < last + 1
      · simp [contains, containsCode, within, h1, h2, Nat.not_lt.mp h1, Nat.lt_succ_iff.mp h2]
      · simp [contains, containsCode, within, h1, h2]
        omega
  · simp only [contains, containsCode, empty, within, Bool.false_eq, Bool.and_eq_false_iff,
      decide_eq_false_iff_not]
    omega

@[simp]
theorem contains_union (left right : Charset) (c : Char) :
    (left ∪ right).contains c = (left.contains c || right.contains c) :=
  containsCode_combine _ rfl left right c.toNat

@[simp]
theorem contains_intersection (left right : Charset) (c : Char) :
    (left ∩ right).contains c = (left.contains c && right.contains c) :=
  containsCode_combine _ rfl left right c.toNat

@[simp]
theorem contains_difference (left right : Charset) (c : Char) :
    (left \ right).contains c = (left.contains c && !right.contains c) :=
  containsCode_combine _ rfl left right c.toNat

@[simp]
theorem contains_symmetricDifference (left right : Charset) (c : Char) :
    (left.symmetricDifference right).contains c = (left.contains c != right.contains c) :=
  containsCode_combine _ rfl left right c.toNat

/-- Every character is in the set of all. -/
theorem contains_everything (c : Char) : everything.contains c = true := by
  have h : c.toNat < 0xd800 ∨ (0xdfff < c.toNat ∧ c.toNat < 0x110000) := c.valid
  simp only [contains, containsCode, everything, within]
  grind

@[simp]
theorem contains_complement (set : Charset) (c : Char) :
    set.complement.contains c = !set.contains c := by
  have h := contains_difference everything set c
  rw [contains_everything, Bool.true_and] at h
  exact h

/-! ## Many sets at once -/

/-- Join neighbours. -/
def pairUp : List Charset → List Charset
  | left :: right :: rest => (left ∪ right) :: pairUp rest
  | sets => sets

/-- Join neighbours a number of times, then all that are left. -/
def joinRounds : Nat → List Charset → Charset
  | 0, sets => sets.foldr (· ∪ ·) ∅
  | rounds + 1, sets => joinRounds rounds (pairUp sets)

/-- The members of any of the sets.  Neighbours are joined first, so that a large set is swept
seldom. -/
def unionAll (sets : List Charset) : Charset :=
  joinRounds (Nat.log2 sets.length) sets

/-- The code points in any of the ranges. -/
def ofRanges (ranges : List (Nat × Nat)) : Charset :=
  unionAll (ranges.map fun pair => range pair.1 pair.2)

theorem any_pairUp (sets : List Charset) (c : Char) :
    (pairUp sets).any (·.contains c) = sets.any (·.contains c) := by
  fun_induction pairUp sets with
  | case1 left right rest ih => simp [ih, Bool.or_assoc]
  | case2 => rfl

theorem contains_joinRounds (rounds : Nat) (sets : List Charset) (c : Char) :
    (joinRounds rounds sets).contains c = sets.any (·.contains c) := by
  induction rounds generalizing sets with
  | zero =>
      unfold joinRounds
      induction sets with
      | nil => rfl
      | cons set rest ih => simp [ih]
  | succ rounds ih => rw [joinRounds, ih, any_pairUp]

/-- A member of a union of many sets is in one of them. -/
@[simp]
theorem contains_unionAll (sets : List Charset) (c : Char) :
    (unionAll sets).contains c = sets.any (·.contains c) :=
  contains_joinRounds _ sets c

/-! ## Runs -/

/-- First and last code points of the runs between bounds. -/
def runs : List Nat → List (Nat × Nat)
  | first :: past :: rest => (first, past - 1) :: runs rest
  | _ => []

/-- First and last code points of the runs of members. -/
def ranges (set : Charset) : List (Nat × Nat) :=
  runs set.bounds

/-- Whether no member is beyond ASCII. -/
def isAscii (set : Charset) : Bool :=
  set.ranges.all fun pair => pair.2 < 128

/-- The only member, if there is exactly one. -/
def only? (set : Charset) : Option Char :=
  match set.bounds with
  | [first, past] => if past = first + 1 then some (Char.ofNat first) else none
  | _ => none

/-! ## Written sets -/

/-- Decimal numbers between spaces, the first of which begins with the digits of `n`. -/
def numbers (n : Nat) : List Char → List Nat
  | [] => [n]
  | c :: rest =>
      if c = ' ' then n :: numbers 0 rest else numbers (10 * n + (c.toNat - '0'.toNat)) rest

/-- Bounds from the numbers of code points between them; the first bound is not below `start`. -/
def boundsFrom (start : Nat) : List Nat → List Nat
  | [] => []
  | gap :: rest => (start + gap) :: boundsFrom (start + gap + 1) rest

theorem le_of_mem_boundsFrom {start x : Nat} {gaps : List Nat}
    (h : x ∈ boundsFrom start gaps) : start ≤ x := by
  induction gaps generalizing start with
  | nil => simp [boundsFrom] at h
  | cons gap rest ih =>
      rcases List.mem_cons.mp h with rfl | h
      · omega
      · have := ih h
        omega

theorem pairwise_boundsFrom (start : Nat) (gaps : List Nat) :
    (boundsFrom start gaps).Pairwise (· < ·) := by
  induction gaps generalizing start with
  | nil => exact List.Pairwise.nil
  | cons gap rest ih =>
      exact List.pairwise_cons.mpr ⟨fun x hx => le_of_mem_boundsFrom hx, ih _⟩

/-- The set with the written gaps: the first bound, then the number of code points strictly
between each bound and the next. -/
def ofGaps (text : String) : Charset :=
  ⟨boundsFrom 0 (numbers 0 text.toList), pairwise_boundsFrom 0 _⟩

end Charset
end Text
end SchemaForm
