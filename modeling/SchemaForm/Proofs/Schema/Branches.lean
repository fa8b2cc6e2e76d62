import Mathlib.Data.List.Nodup
import Mathlib.Logic.Relation
import SchemaForm.Proofs.Result
import SchemaForm.Schema.Union

/-!
# Branches of a choice

A choice drops its branches for `null`, refuses more than two others, and looks at the one
with more keys first.  What it collapses to depends on the other branches alone, and not on
their order either when no two of them have equally many keys.

Main results:

- Theorem `eqvGen_addsNull_iff`: adding, removing and moving branches for `null` leads to the lists
  with the same candidates.
- Theorem `largestFirst_eq_of_perm`: of two branches with different numbers of keys the order does
  not matter.
- Theorem `collapseAnyOf_of_branches`: a choice collapses to what its candidates settle on.
- Theorem `collapseAnyOf_eq_of_branches`: neither branches for `null` nor the order of the others
  change what a choice collapses to.
-/

namespace SchemaForm
namespace Schema

open Result

variable {definitions : Option Schema} {field : String}

/-! ## Candidates -/

/-- The branches of a choice that do not stand for `null`. -/
def candidates (found : List Schema) : List Schema :=
  found.filter fun branch => !branch.isNullBranch

/-- One list of branches is another one with a branch for `null` put in somewhere. -/
inductive AddsNull : List Schema → List Schema → Prop
  | add (front back : List Schema) {null : Schema} (hnull : null.isNullBranch = true) :
      AddsNull (front ++ back) (front ++ null :: back)

/-- A branch for `null` is no candidate. -/
theorem AddsNull.candidates_eq {found more : List Schema} (h : AddsNull found more) :
    candidates found = candidates more := by
  cases h with
  | add front back hnull => simp [candidates, hnull]

/-- A list of branches comes from its candidates by adding branches for `null`. -/
theorem eqvGen_candidates (found : List Schema) :
    Relation.EqvGen AddsNull (candidates found) found := by
  -- The branches before the current one are kept in front of both lists.
  suffices h : ∀ front, Relation.EqvGen AddsNull (front ++ candidates found) (front ++ found) by
    simpa using h []
  induction found with
  | nil => exact fun front => .refl _
  | cons branch rest ih =>
      intro front
      cases hnull : branch.isNullBranch with
      | true =>
          have hadd : AddsNull (front ++ rest) (front ++ branch :: rest) := .add front rest hnull
          simpa [candidates, hnull] using (ih front).trans _ _ _ (.rel _ _ hadd)
      | false => simpa [candidates, hnull] using ih (front ++ [branch])

/-- Adding, removing and moving branches for `null` leads to the lists with the same candidates. -/
theorem eqvGen_addsNull_iff {found moved : List Schema} :
    Relation.EqvGen AddsNull found moved ↔ candidates found = candidates moved := by
  constructor
  · intro h
    induction h with
    | rel _ _ h => exact h.candidates_eq
    | refl _ => rfl
    | symm _ _ _ ih => exact ih.symm
    | trans _ _ _ _ _ ih ih' => exact ih.trans ih'
  · intro h
    have hmoved := eqvGen_candidates moved
    rw [← h] at hmoved
    exact ((eqvGen_candidates found).symm _ _).trans _ _ _ hmoved

/-! ## The order of candidates -/

/-- The branches of a list of at most two have their numbers of keys in falling order once the one
with more keys comes first. -/
theorem pairwise_largestFirst {found : List Schema} (hfew : found.length ≤ 2) :
    (largestFirst found).Pairwise fun first second => second.length ≤ first.length := by
  unfold largestFirst
  split
  · split_ifs with hless
    · simpa using Nat.le_of_lt hless
    · simpa using hless
  · rename_i hother
    match found, hfew with
    | [], _ => exact .nil
    | [only], _ => exact List.pairwise_singleton _ _
    | [first, second], _ => exact absurd rfl (hother first second)

/-- Putting the branch with more keys first keeps the branches. -/
theorem largestFirst_perm (found : List Schema) : (largestFirst found).Perm found := by
  unfold largestFirst
  split
  · split_ifs
    · exact .swap _ _ _
    · exact .refl _
  · exact .refl _

/-- Of at most two branches with different numbers of keys the order does not matter. -/
theorem largestFirst_eq_of_perm {found moved : List Schema} (hfew : found.length ≤ 2)
    (hdistinct : (found.map List.length).Nodup) (h : found.Perm moved) :
    largestFirst found = largestFirst moved := by
  have hperm : (largestFirst found).Perm (largestFirst moved) :=
    (largestFirst_perm found).trans (h.trans (largestFirst_perm moved).symm)
  refine hperm.eq_of_pairwise (fun first second hfirst hsecond hle hge => ?_)
    (pairwise_largestFirst hfew) (pairwise_largestFirst (h.length_eq ▸ hfew))
  -- Two branches that may stand in either order have equally many keys, so they are one branch.
  exact List.inj_on_of_nodup_map hdistinct ((largestFirst_perm found).mem_iff.mp hfirst)
    (h.mem_iff.mpr ((largestFirst_perm moved).mem_iff.mp hsecond)) (Nat.le_antisymm hge hle)

/-! ## The choice -/

/-- The type and schema that the candidates of a choice settle on, with what is taken over from the
property. -/
def settle (definitions : Option Schema) (field : String) (property : Schema)
    (found : List Schema) : Except SchemaError (String × Schema) := do
  checkFew field found
  let types ← alternatives definitions field (largestFirst found) []
  let (type, schema) ← onlyAlternative field types
  return (type, ["description", "title", "default"].foldl (inherit · property ·) schema)

/-- Schemas are read as themselves. -/
theorem mapM_ofJson_object (field : String) (found : List Schema) :
    (found.map Json.object).mapM (ofJson field) = .ok found := by
  induction found with
  | nil => rfl
  | cons branch rest ih =>
      simp only [List.map_cons, List.mapM_cons, ofJson, ok_bind, ih]
      rfl

/-- A choice between schemas collapses to what its candidates settle on. -/
theorem collapseAnyOf_of_branches {property : Schema} {found : List Schema}
    (h : property.get? "anyOf" = some (.array (found.map .object))) :
    collapseAnyOf definitions field property =
      settle definitions field property (candidates found) := by
  simp only [collapseAnyOf, branches, h, ok_bind, mapM_ofJson_object]
  rfl

/-- Too many candidates are refused whatever they are. -/
theorem settle_of_many {property : Schema} {found : List Schema} (h : 2 < found.length) :
    settle definitions field property found = .error ⟨field, .manyAlternatives found.length⟩ := by
  simp [settle, checkFew, h, bind, Except.bind]

/-- Candidates with different numbers of keys settle on the same in any order. -/
theorem settle_eq_of_perm {property : Schema} {found moved : List Schema}
    (hdistinct : (found.map List.length).Nodup) (h : found.Perm moved) :
    settle definitions field property found = settle definitions field property moved := by
  rcases Nat.lt_or_ge 2 found.length with hmany | hfew
  · rw [settle_of_many hmany, settle_of_many (h.length_eq ▸ hmany), h.length_eq]
  · simp only [settle, checkFew, largestFirst_eq_of_perm hfew hdistinct h, h.length_eq]

/-- Of a property around its branches only the other keys are read. -/
theorem settle_congr {property other : Schema}
    (h : ∀ key, key ≠ "anyOf" → other.get? key = property.get? key) (found : List Schema) :
    settle definitions field other found = settle definitions field property found := by
  simp only [settle, inherit, List.foldl_cons, List.foldl_nil, h "description" (by decide),
    h "title" (by decide), h "default" (by decide)]

/-- What a choice between schemas collapses to stays the same, result or error, when branches for
`null` are added, removed and moved, and also when all branches are put in another order, if no two
candidates have equally many keys. -/
theorem collapseAnyOf_eq_of_branches (definitions : Option Schema) (field : String)
    {property other : Schema} {found moved : List Schema}
    (hproperty : property.get? "anyOf" = some (.array (found.map .object)))
    (hother : other.get? "anyOf" = some (.array (moved.map .object)))
    (hkeys : ∀ key, key ≠ "anyOf" → other.get? key = property.get? key) :
    (Relation.EqvGen AddsNull found moved →
        collapseAnyOf definitions field other = collapseAnyOf definitions field property) ∧
      (((candidates found).map List.length).Nodup → found.Perm moved →
        collapseAnyOf definitions field other = collapseAnyOf definitions field property) := by
  rw [collapseAnyOf_of_branches hproperty, collapseAnyOf_of_branches hother, settle_congr hkeys]
  constructor
  · intro h
    rw [eqvGen_addsNull_iff.mp h]
  · intro hdistinct h
    exact (settle_eq_of_perm hdistinct (h.filter _)).symm

/-- A property that chooses between schemas. -/
def choiceOf (found : List Schema) : Schema :=
  [("title", .string "Due"), ("anyOf", .array (found.map .object))]

/-- A text, a point in time and `null` collapse to the point in time in any order. -/
theorem collapseAnyOf_due :
    let text : Schema := [("type", .string "string")]
    let time : Schema := [("type", .string "string"), ("format", .string "date-time")]
    let null : Schema := [("type", .string "null")]
    collapseAnyOf none "due" (choiceOf [time, text]) =
        .ok ("string", time ++ [("title", .string "Due")]) ∧
      collapseAnyOf none "due" (choiceOf [null, time, text, null]) =
          collapseAnyOf none "due" (choiceOf [time, text]) ∧
        collapseAnyOf none "due" (choiceOf [null, text, time, null]) =
          collapseAnyOf none "due" (choiceOf [null, time, text, null]) := by
  intro text time null
  have hkeys : ∀ (found moved : List Schema) (key : String), key ≠ "anyOf" →
      Entries.get? (choiceOf moved) key = Entries.get? (choiceOf found) key := by
    intro found moved key hkey
    simp [choiceOf, Entries.get?_cons, hkey]
  have hbranches (found : List Schema) :
      Entries.get? (choiceOf found) "anyOf" = some (.array (found.map .object)) := rfl
  refine ⟨rfl, ?_, ?_⟩
  · refine (collapseAnyOf_eq_of_branches none "due" (hbranches [time, text]) (hbranches _)
      (hkeys _ _)).1 ?_
    exact eqvGen_addsNull_iff.mpr rfl
  · refine (collapseAnyOf_eq_of_branches none "due" (hbranches [null, time, text, null])
      (hbranches _) (hkeys _ _)).2 ?_ ?_
    · have hcandidates : candidates [null, time, text, null] = [time, text] := rfl
      rw [hcandidates]
      decide
    · exact .cons null (.swap text time [null])

end Schema
end SchemaForm
