import SchemaForm.Proofs.Regex.Automaton
import SchemaForm.Proofs.Regex.Matching
import SchemaForm.Proofs.Regex.Reading.Pattern
import SchemaForm.Regex.Restriction

/-!
# Restrictions to whole texts

A restriction puts its pattern into a group between the ends of the text, as it is written.  The
pattern is then read as it is read on its own, and the restriction accepts the texts that it
matches as a whole.  But nothing keeps the pattern in its group: it may end in a comment, which
hides the bracket that closes the group, or close the group itself and open another one.

Main results:

- Theorem `readPiece?_whole_of_complete`: what is read of a pattern in its group.
- Theorem `closesGroup_of_read?_whole`: which patterns have a meaning only between the ends of the
  text.
- Theorem `ofPattern?_restricts`: which patterns make restrictions, and what these accept.
- Theorem `accepts_of_unread`: a pattern without a meaning makes a restriction.
-/

namespace SchemaForm
namespace Regex

/-! ## Patterns on their own -/

/-- What the reader of choices finds in a text on its own, and what it leaves. -/
def readPiece? (text : List Char) : Option (Piece × List Char) :=
  ((Reader.choice (text.length + 1) [] []).run ⟨text, {}, []⟩).map fun found =>
    (found.1, found.2.rest)

theorem readPiece?_eq_some_iff {text rest : List Char} {body : Piece} :
    readPiece? text = some (body, rest) ↔
      ∃ flags names, (Reader.choice (text.length + 1) [] []).run ⟨text, {}, []⟩ =
        some (body, ⟨rest, flags, names⟩) := by
  rw [readPiece?, Option.map_eq_some_iff]
  constructor
  · rintro ⟨⟨found, rest', flags, names⟩, hrun, heq⟩
    cases heq
    exact ⟨flags, names, hrun⟩
  · rintro ⟨flags, names, hrun⟩
    exact ⟨_, hrun, rfl⟩

theorem read?_eq_some_iff {text : List Char} {expr : Pattern} :
    read? text = some expr ↔
      ∃ piece, readPiece? text = some (piece, []) ∧ piece.height ≤ heightLimit ∧
        piece.pattern.fits = true ∧ piece.pattern = expr := by
  unfold read? readPiece?
  cases (Reader.choice (text.length + 1) [] []).run ⟨text, {}, []⟩ with
  | none => simp
  | some found =>
      obtain ⟨piece, place⟩ := found
      simp only [Option.ite_none_right_eq_some, Bool.and_eq_true, List.isEmpty_iff,
        decide_eq_true_eq, Option.some.injEq, Option.map_some, Prod.mk.injEq]
      grind

/-! ## Between the ends of the text -/

/-- The assertion at one of the ends of the text. -/
def Piece.ofEnd (look : Look) : Piece :=
  .ofPattern (.leaf (.look look Class.word))

/-- A part in a group between the ends of the text. -/
def Piece.anchored (body : Piece) : Piece :=
  .inRow [ofEnd .textStart, .group false body, ofEnd .textEnd]

/-- Whether a part leaves room for the two levels and the two states that its group and the ends of
the text take. -/
def Piece.LeavesRoom (body : Piece) : Prop :=
  body.height + 2 ≤ heightLimit ∧
    ∀ direction : Direction, direction.automatonSize body.pattern + 2 * stateSize ≤ sizeLimit

theorem Piece.height_anchored (body : Piece) : body.anchored.height = body.height + 2 := by
  simp [anchored, inRow, greatestHeight, group, ofEnd, ofPattern]

theorem Piece.fits_anchored_iff (body : Piece) :
    body.anchored.height ≤ heightLimit ∧ body.anchored.pattern.fits = true ↔ body.LeavesRoom := by
  rw [height_anchored, LeavesRoom, ← fits_between_iff .textStart .textEnd Class.word Class.word]
  rfl

theorem Piece.occursIn_anchored (body : Piece) (text : List Char) :
    body.anchored.pattern.occursIn text = true ↔ body.pattern.Matches text 0 text.length :=
  Pattern.occursIn_between body.pattern Class.word Class.word text

namespace Reader

theorem run_part_caret (rest : List Char) (names : List (List Char)) :
    part.run ⟨'^' :: rest, {}, names⟩ = some (.ofEnd .textStart, ⟨rest, {}, names⟩) :=
  rfl

theorem run_part_dollar (rest : List Char) (names : List (List Char)) :
    part.run ⟨'$' :: rest, {}, names⟩ = some (.ofEnd .textEnd, ⟨rest, {}, names⟩) :=
  rfl

/-- A group that keeps no place in the text starts with a question mark and a colon. -/
theorem run_afterOpening_plain (fuel : Nat) (branches pieces : List Piece) (rest : List Char)
    (names : List (List Char)) :
    (afterOpening fuel branches pieces).run ⟨'?' :: ':' :: rest, {}, names⟩ =
      (choice fuel [] [] >>= afterGroup fuel {} false branches pieces).run ⟨rest, {}, names⟩ := by
  have hstart : groupStart.run ⟨'?' :: ':' :: rest, {}, names⟩ =
      some (.plain, ⟨rest, {}, names⟩) :=
    rfl
  change (groupStart >>= fun kind => if kind = .flags then choice fuel branches (.empty :: pieces)
    else choice fuel [] [] >>= afterGroup fuel {} (kind == .capture) branches pieces).run
      ⟨'?' :: ':' :: rest, {}, names⟩ = _
  rw [StateT.run_bind, hstart]
  rfl

/-- Without the bracket that closes it, the contents of a group are not followed. -/
theorem run_afterGroup_of_head {fuel : Nat} {outside : Flags} {isCapture : Bool}
    {branches pieces : List Piece} {body : Piece} {place : Place}
    (h : place.rest.head? ≠ some ')') :
    (afterGroup fuel outside isCapture branches pieces body).run place = none := by
  obtain ⟨_ | ⟨c, rest⟩, flags, names⟩ := place
  · rfl
  · have hc : c ≠ ')' := fun hc => h (congrArg some hc)
    unfold afterGroup
    simp only [failure_bind]
    rw [StateT.run_bind, run_next_cons]
    dsimp only [Option.bind_eq_bind, Option.bind_some]
    rw [if_pos hc]
    rfl

/-- The end of the text follows the group. -/
theorem run_afterGroup_closing (fuel : Nat) (body : Piece) (flags : Flags)
    (names : List (List Char)) :
    (afterGroup (fuel + 2) {} false [] [.ofEnd .textStart] body).run ⟨closing 1, flags, names⟩ =
      some (body.anchored, ⟨[], {}, names⟩) := by
  change (choice (fuel + 2) [] [.group false body, .ofEnd .textStart]).run ⟨['$'], {}, names⟩ = _
  rw [choice_succ]
  change (part >>= fun piece => choice (fuel + 1) [] [piece, .group false body,
    .ofEnd .textStart]).run ⟨['$'], {}, names⟩ = _
  rw [StateT.run_bind, run_part_dollar]
  change (choice (fuel + 1) [] [.ofEnd .textEnd, .group false body, .ofEnd .textStart]).run
    ⟨[], {}, names⟩ = _
  rw [choice_succ]
  rfl

end Reader

open Reader

/-- The start of the text and the start of the group come before a pattern. -/
theorem readPiece?_whole (pattern : List Char) :
    readPiece? (whole pattern) =
      ((choice (pattern.length + 5) [] [] >>=
        afterGroup (pattern.length + 5) {} false [] [.ofEnd .textStart]).run
          ⟨pattern ++ closing 1, {}, []⟩).map fun found => (found.1, found.2.rest) := by
  have hlength : (whole pattern).length + 1 = pattern.length + 7 := by
    simp [whole]
  refine congrArg (Option.map _) ?_
  rw [hlength, choice_succ]
  change (part >>= fun piece => choice (pattern.length + 6) [] [piece]).run
    ⟨'^' :: '(' :: '?' :: ':' :: (pattern ++ closing 1), {}, []⟩ = _
  rw [StateT.run_bind, run_part_caret]
  change (choice (pattern.length + 6) [] [.ofEnd .textStart]).run
    ⟨'(' :: '?' :: ':' :: (pattern ++ closing 1), {}, []⟩ = _
  rw [choice_succ]
  exact run_afterOpening_plain _ _ _ _ _

/-- Whether the bracket that closes a group after a pattern is read as a part of the pattern, as it
is where the pattern ends in a comment. -/
def hidesBracket (pattern : List Char) : Bool :=
  (readPiece? (pattern ++ closing 1)).any fun found => found.2.isEmpty

/-- Whether a pattern has a closing bracket that no opening one belongs to. -/
def closesGroup (pattern : List Char) : Bool :=
  (readPiece? pattern).any fun found => found.2.head? == some ')'

/-- Whether a pattern leaves room for a group between the ends of the text. -/
def LeavesRoom (pattern : List Char) : Prop :=
  ∃ body, readPiece? pattern = some (body, []) ∧ body.LeavesRoom

section Whole

variable {pattern : List Char}

/-- A pattern is read alike on its own and in a group. -/
theorem agrees_group (pattern : List Char) :
    Agrees 1 (fun _ p => p.rest <:+ dollarSigns 1)
      ((choice (pattern.length + 1) [] []).run ⟨pattern, {}, []⟩)
      ((choice (pattern.length + 5) [] []).run ⟨pattern ++ closing 1, {}, []⟩) :=
  choicesAgree 1 _ _ [] [] _ _ (Nat.lt_succ_self _) (by simp [closing]) (.ahead pattern {} [])

/-- A pattern that is read to its end is found in its group if it does not hide the bracket. -/
theorem readPiece?_whole_of_complete {body : Piece} (h : readPiece? pattern = some (body, [])) :
    readPiece? (whole pattern) =
      if hidesBracket pattern then none else some (body.anchored, []) := by
  obtain ⟨flags, names, hshort⟩ := readPiece?_eq_some_iff.mp h
  obtain ⟨place', hlong, hbefore⟩ := (agrees_group pattern).of_some _ _ hshort
  have hsteps : (choice ((pattern ++ closing 1).length + 1) [] []).run
      ⟨pattern ++ closing 1, {}, []⟩ = some (body, place') :=
    (stepsSuffice _ _ [] [] _ (Nat.lt_succ_self _) (by simp [closing])).trans hlong
  have hhides : hidesBracket pattern = place'.rest.isEmpty := by
    rw [hidesBracket, readPiece?, hsteps]
    rfl
  rw [readPiece?_whole, StateT.run_bind, hlong, hhides]
  cases hbefore with
  | ahead =>
      exact congrArg (Option.map _) (run_afterGroup_closing (pattern.length + 3) body flags names)
  | hidden => rfl

/-- The comment at the end of a pattern with a meaning goes on over the bracket. -/
example : (read? "(?x)a#".toList).isSome = true ∧ hidesBracket "(?x)a#".toList = true := by
  decide +kernel

/-- A pattern that is not read on its own is not found in its group. -/
theorem readPiece?_whole_of_none (h : readPiece? pattern = none) :
    readPiece? (whole pattern) = none := by
  have hshort := Option.map_eq_none_iff.mp h
  rw [readPiece?_whole, Option.map_eq_none_iff, StateT.run_bind]
  cases hlong : (choice (pattern.length + 5) [] []).run ⟨pattern ++ closing 1, {}, []⟩ with
  | none => rfl
  | some found =>
      have hlost : found.2.rest <:+ ['$'] :=
        (agrees_group pattern).of_none hshort found.1 found.2 hlong
      refine run_afterGroup_of_head fun hhead => ?_
      have hmem := hlost.subset (List.mem_of_head? hhead)
      exact absurd hmem (by decide)

/-- A pattern that leaves something but no closing bracket is not found in its group. -/
theorem readPiece?_whole_of_rest {body : Piece} {c : Char} {rest : List Char}
    (h : readPiece? pattern = some (body, c :: rest)) (hc : c ≠ ')') :
    readPiece? (whole pattern) = none := by
  obtain ⟨flags, names, hshort⟩ := readPiece?_eq_some_iff.mp h
  obtain ⟨place', hlong, hbefore⟩ := (agrees_group pattern).of_some _ _ hshort
  cases hbefore
  have hafter : (afterGroup (pattern.length + 5) {} false [] [.ofEnd .textStart] body).run
      ⟨c :: rest ++ closing 1, flags, names⟩ = none :=
    run_afterGroup_of_head fun hhead => hc (Option.some.inj hhead)
  rw [readPiece?_whole, Option.map_eq_none_iff, StateT.run_bind, hlong]
  exact hafter

/-- When a pattern that is read to its end has a meaning between the ends of the text, and which. -/
theorem read?_whole_iff {body : Piece} (h : readPiece? pattern = some (body, [])) {expr : Pattern} :
    read? (whole pattern) = some expr ↔
      hidesBracket pattern = false ∧ body.LeavesRoom ∧ body.anchored.pattern = expr := by
  rw [read?_eq_some_iff, readPiece?_whole_of_complete h, ← body.fits_anchored_iff]
  cases hidesBracket pattern <;> simp [and_assoc]

/-- A pattern without a meaning on its own has one between the ends of the text only if it closes
the group. -/
theorem closesGroup_of_read?_whole {expr : Pattern} (halone : read? pattern = none)
    (hwhole : read? (whole pattern) = some expr) : closesGroup pattern = true := by
  obtain ⟨found, hfound, -⟩ := read?_eq_some_iff.mp hwhole
  cases hpiece : readPiece? pattern with
  | none =>
      rw [readPiece?_whole_of_none hpiece] at hfound
      cases hfound
  | some piece =>
      obtain ⟨body, _ | ⟨c, rest⟩⟩ := piece
      · obtain ⟨-, ⟨hheight, hsize⟩, -⟩ := (read?_whole_iff hpiece).mp hwhole
        have hfits : body.pattern.fits = true :=
          fits_iff.mpr fun direction => (Nat.le_add_right _ _).trans (hsize direction)
        rw [read?_eq_some_iff.mpr ⟨body, hpiece, (Nat.le_add_right _ 2).trans hheight, hfits, rfl⟩]
          at halone
        cases halone
      · by_cases hc : c = ')'
        · rw [closesGroup, hpiece, hc]
          rfl
        · rw [readPiece?_whole_of_rest hpiece hc] at hfound
          cases hfound

end Whole
end Regex

namespace Restriction

open Regex

theorem isSome_ofPattern?_iff {pattern : String} :
    (ofPattern? pattern).isSome = true ↔ ∃ expr, read? (whole pattern.toList) = some expr := by
  unfold ofPattern?
  split
  · rename_i expr hread
    simp [hread]
  · rename_i hread
    simp [hread]

theorem read?_of_ofPattern? {pattern : String} {restriction : Restriction}
    (h : ofPattern? pattern = some restriction) :
    read? (whole pattern.toList) = some restriction.expr := by
  rw [← pattern_ofPattern? h]
  exact restriction.read_pattern

/-- A pattern with a meaning makes a restriction exactly when the bracket after it is not hidden and
there is room for the group, and then the texts are accepted that it matches as a whole.  A pattern
without a meaning makes a restriction only if it closes the group that it is put into. -/
theorem ofPattern?_restricts (pattern : String) :
    (∀ expr, read? pattern.toList = some expr →
      ((ofPattern? pattern).isSome = true ↔
        hidesBracket pattern.toList = false ∧ LeavesRoom pattern.toList) ∧
      ∀ restriction, ofPattern? pattern = some restriction → ∀ text : String,
        restriction.accepts text = true ↔ expr.Matches text.toList 0 text.toList.length) ∧
    (read? pattern.toList = none → ∀ restriction, ofPattern? pattern = some restriction →
      closesGroup pattern.toList = true) := by
  refine ⟨fun expr halone => ?_, fun halone restriction h =>
    closesGroup_of_read?_whole halone (read?_of_ofPattern? h)⟩
  obtain ⟨body, hbody, -, -, rfl⟩ := read?_eq_some_iff.mp halone
  refine ⟨?_, fun restriction h text => ?_⟩
  · rw [isSome_ofPattern?_iff]
    simp [read?_whole_iff hbody, LeavesRoom, hbody]
  · obtain ⟨-, -, hexpr⟩ := (read?_whole_iff hbody).mp (read?_of_ofPattern? h)
    rw [accepts, ← hexpr]
    exact body.occursIn_anchored text.toList

/-- Texts that match `ab` as a whole are accepted, and a pattern that opens its own group after
closing the one around it makes a restriction. -/
theorem ofPattern?_restricts_letters :
    (∃ restriction, ofPattern? "ab" = some restriction ∧ ∀ text : String,
      restriction.accepts text = true ↔
        Pattern.Matches text.toList (.leaf (.literal ['a', 'b'])) 0 text.toList.length) ∧
    closesGroup "a)|(?:b".toList = true := by
  have hletters : read? "ab".toList = some (.leaf (.literal ['a', 'b'])) := by rfl
  obtain ⟨restriction, h⟩ := Option.isSome_iff_exists.mp
    (show (ofPattern? "ab").isSome = true by decide +kernel)
  obtain ⟨broken, hbroken⟩ := Option.isSome_iff_exists.mp
    (show (ofPattern? "a)|(?:b").isSome = true by decide +kernel)
  have hnone : read? "a)|(?:b".toList = none :=
    Option.isNone_iff_eq_none.mp (by decide +kernel)
  exact ⟨⟨restriction, h, ((ofPattern?_restricts "ab").1 _ hletters).2 restriction h⟩,
    (ofPattern?_restricts "a)|(?:b").2 hnone broken hbroken⟩

/-- A pattern without a meaning that makes a restriction, and one that accepts more than the texts
`a` and `b`. -/
theorem accepts_of_unread :
    (read? "a)|(?:b".toList).isNone = true ∧
      (ofPattern? "a)|(?:b").any (·.accepts "ax") = true := by
  decide +kernel

end Restriction
end SchemaForm
