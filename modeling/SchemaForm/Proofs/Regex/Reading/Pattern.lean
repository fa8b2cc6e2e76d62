import SchemaForm.Proofs.Regex.Reading.Bracket
import SchemaForm.Regex.Reading.Pattern

/-!
# Patterns before a closing bracket

A pattern is read alike at its end and before the bracket of a group, unless it ends in a comment.
The readers of its parts are steady, and the reader of choices is so by induction on the number
of steps.

Main results:

- Theorem `steady_groupStart`: the starts of groups are read steadily.
- Theorem `agrees_part`: so are parts without a repetition, but for a brace after `\b`.
- Theorem `stepsSuffice`: more steps than characters make no difference for choices.
- Theorem `choicesAgree`: choices are read steadily, however many steps are allowed.
-/

namespace SchemaForm
namespace Regex
namespace Reader

variable {lost : Nat → List Char}

/-! ## Repetitions -/

theorem agrees_skipBlanks {dollars : Nat} {place place' : Place}
    (hbefore : place.Before dollars place') :
    Agrees dollars (fun _ _ => False)
      ((modify fun place => { place with rest := place.rest.dropWhile Text.isBlank } :
        Reader Unit).run place)
      ((modify fun place => { place with rest := place.rest.dropWhile Text.isBlank } :
        Reader Unit).run place') := by
  cases hbefore with
  | hidden flags names => exact .found (.hidden flags names)
  | ahead rest flags names =>
      refine .found ?_
      dsimp only
      rw [dropWhile_isBlank_append]
      exact .ahead _ flags names

theorem shrinks_skipBlanks :
    Shrinks (modify fun place => { place with rest := place.rest.dropWhile Text.isBlank } :
      Reader Unit) := by
  intro place u place' hrun
  cases hrun
  exact List.dropWhile_suffix _

theorem shrinks_decimal? : Shrinks decimal? := by
  refine shrinks_skipBlanks.bind fun _ => shrinks_takeAllLetters.bind fun digits =>
    shrinks_skipBlanks.bind fun _ => shrinks_passSpace.bind fun _ => ?_
  split <;> exact (static_pure _).shrinks

theorem agrees_decimal? {dollars : Nat} {place place' : Place}
    (hbefore : place.Before dollars place') :
    Agrees dollars (fun _ _ => False) (decimal?.run place) (decimal?.run place') := by
  refine (agrees_skipBlanks hbefore).bind (fun _ p p' _ _ hp => ?_) fun _ _ _ _ h => h.elim
  refine (agrees_takeAllLetters (by decide) hp).bind (fun digits p p' _ _ hp => ?_)
    fun _ _ _ _ h => h.elim
  refine (agrees_skipBlanks hp).bind (fun _ p p' _ _ hp => ?_) fun _ _ _ _ h => h.elim
  refine (agrees_passSpace hp).bind (fun _ p p' _ _ hp => ?_) fun _ _ _ _ h => h.elim
  split
  · exact .found hp
  · exact .found hp

theorem steady_decimal? : Steady lost decimal? :=
  ⟨shrinks_decimal?, fun _ _ _ hbefore => (agrees_decimal? hbefore).weaken fun _ _ h => h.elim⟩

/-- The closing brace of bounds. -/
def closeBounds (found : Nat × Option Nat) : Reader (Nat × Option Nat) := do
  if (← next) ≠ '\x7d' then failure
  passWithSpace
  return found

theorem consumes_closeBounds (found : Nat × Option Nat) : Consumes (closeBounds found) := by
  unfold closeBounds
  simp only [failure_bind]
  refine shrinks_next.bind_consumes fun c => ?_
  split
  · exact consumes_failure
  · exact consumes_passWithSpace.bind fun _ => (static_pure _).shrinks

theorem steady_closeBounds (found : Nat × Option Nat) : Steady dollarSigns (closeBounds found) := by
  unfold closeBounds
  simp only [failure_bind]
  refine .next_bind_consumes (fun c => ?_) consumes_failure
  split
  · exact Steady.failure.at c
  · exact (steadyAt_passWithSpace c).bind fun _ => .pure _

/-- The bounds of a repetition after their opening brace. -/
def boundsBody : Reader (Nat × Option Nat) := do
  match ← decimal? with
  | none => failure
  | some least =>
      if (← next) = ',' then
        passWithSpace
        if (← next) = '\x7d' then closeBounds (least, none)
        else
          match ← decimal? with
          | none => failure
          | some most => if least ≤ most then closeBounds (least, some most) else failure
      else closeBounds (least, some least)

theorem bounds_eq :
    bounds = (do
      passWithSpace
      let _ ← next
      boundsBody) :=
  rfl

theorem consumes_boundsBody : Consumes boundsBody := by
  refine shrinks_decimal?.bind_consumes fun least => ?_
  split
  · exact consumes_failure
  · refine shrinks_next.bind_consumes fun c => ?_
    split
    · refine consumes_passWithSpace.bind fun _ => shrinks_next.bind fun c => ?_
      split
      · exact (consumes_closeBounds _).shrinks
      · refine shrinks_decimal?.bind fun most => ?_
        split
        · exact consumes_failure.shrinks
        · split
          · exact (consumes_closeBounds _).shrinks
          · exact consumes_failure.shrinks
    · exact consumes_closeBounds _

theorem steady_boundsBody : Steady dollarSigns boundsBody := by
  refine steady_decimal?.bind fun least => ?_
  split
  · exact .failure
  · refine .next_bind_consumes (fun c => ?_) (consumes_closeBounds _)
    split
    · refine (steadyAt_passWithSpace c).bind fun _ => .next_bind_consumes (fun c => ?_) ?_
      · split
        · exact (steady_closeBounds _).at c
        · refine Steady.at (steady_decimal?.bind fun most => ?_) c
          split
          · exact .failure
          · split
            · exact steady_closeBounds _
            · exact .failure
      · refine shrinks_decimal?.bind_consumes fun most => ?_
        split
        · exact consumes_failure
        · split
          · exact consumes_closeBounds _
          · exact consumes_failure
    · exact (steady_closeBounds _).at c

theorem consumes_bounds : Consumes bounds := by
  rw [bounds_eq]
  exact consumes_passWithSpace.bind fun _ => shrinks_next.bind fun _ => consumes_boundsBody.shrinks

theorem steadyAt_bounds (c : Char) : SteadyAt dollarSigns c bounds := by
  rw [bounds_eq]
  exact (steadyAt_passWithSpace c).bind fun _ =>
    .next_bind_consumes (fun c => steady_boundsBody.at c) consumes_boundsBody

/-- A brace right before the bracket has no bounds. -/
theorem run_bounds_of_braced {dollars : Nat} {place : Place} (h : Braced dollars place) :
    bounds.run place = none := by
  obtain ⟨rest, flags, names⟩ := place
  obtain ⟨after, rfl, hspaced⟩ := h
  rw [bounds_eq, StateT.run_bind, run_passWithSpace, hspaced]
  have hshort : decimal?.run ⟨[], flags, names⟩ = some (none, ⟨[], flags, names⟩) := by
    change (passSpace >>= fun _ => pure none).run ⟨[], flags, names⟩ = _
    rw [StateT.run_bind, run_passSpace, spaced_nil]
    rfl
  obtain ⟨place', hlong, -⟩ :=
    (agrees_decimal? (.ahead [] flags names)).of_some none ⟨[], flags, names⟩ hshort
  change boundsBody.run ⟨[] ++ closing dollars, flags, names⟩ = none
  rw [boundsBody, StateT.run_bind, hlong]
  rfl

/-- Repeat the last part of a sequence after its mark. -/
def repeatMarked (pieces : List Piece) (least : Nat) (most : Option Nat) (isMarked : Bool) :
    Reader (List Piece) := do
  let eager := isMarked == (← flags).swapGreed
  match pieces with
  | last :: rest =>
      if !last.isRepeatable then failure
      let pattern := Pattern.repetition last.pattern least most eager
      return ⟨pattern, last.height + 1, true⟩ :: rest
  | [] => failure

theorem repeatLast_eq (pieces : List Piece) (least : Nat) (most : Option Nat) :
    repeatLast pieces least most = (do
      let isMarked := (← peek?) == some '?'
      if isMarked then pass
      repeatMarked pieces least most isMarked) :=
  rfl

theorem static_repeatMarked (pieces : List Piece) (least : Nat) (most : Option Nat)
    (isMarked : Bool) : Static (repeatMarked pieces least most isMarked) := by
  refine static_flags.bind fun flags => ?_
  cases pieces with
  | nil => exact static_failure
  | cons last rest =>
      simp only [failure_bind]
      split
      · exact static_failure
      · exact static_pure _

theorem steady_repeatLast (pieces : List Piece) (least : Nat) (most : Option Nat) :
    Steady lost (repeatLast pieces least most) := by
  have hstatic := static_repeatMarked pieces least most
  rw [repeatLast_eq]
  refine .peek_bind (hstatic false).shrinks (fun c => ?_) fun dollars flags names => ?_
  · dsimp only
    split
    · exact (steadyAt_pass c).bind fun _ => (hstatic _).steady
    · exact (hstatic _).steady.at c
  · exact (hstatic false).agrees (.ahead [] flags names)

/-! ## Groups -/

/-- Whether a text may be the name of a group. -/
def isGroupName (name : List Char) : Bool :=
  match name with
  | [] => false
  | first :: rest => isNameLetter true first && rest.all (isNameLetter false)

/-- The name of a group goes up to the next closing angle bracket. -/
theorem run_groupName (rest : List Char) (flags : Flags) (names : List (List Char)) :
    groupName.run ⟨rest, flags, names⟩ =
      let name := rest.takeWhile (· != '>')
      if !isGroupName name || names.contains name then none
      else
        match rest.dropWhile (· != '>') with
        | [] => none
        | _ :: after => some ((), ⟨after, flags, name :: names⟩) := by
  unfold groupName
  simp only [failure_bind, StateT.run_bind, StateT.run_get, Option.pure_def, Option.bind_eq_bind,
    Option.bind_some]
  change (if (!isGroupName (rest.takeWhile (· != '>')) ||
    names.contains (rest.takeWhile (· != '>'))) = true then failure else _ : Reader Unit).run _ = _
  split
  · rfl
  · cases rest.dropWhile (· != '>') <;> rfl

theorem shrinks_groupName : Shrinks groupName := by
  rintro ⟨rest, flags, names⟩ u place' hrun
  rw [run_groupName] at hrun
  dsimp only at hrun
  split at hrun
  · cases hrun
  · split at hrun
    · cases hrun
    · rename_i c after hafter
      cases hrun
      exact (List.suffix_cons c after).trans (hafter ▸ List.dropWhile_suffix _)

theorem steady_groupName : Steady dollarSigns groupName := by
  refine ⟨shrinks_groupName, fun dollars place place' hbefore => ?_⟩
  cases hbefore with
  | hidden flags names => exact shrinks_groupName.agrees_hidden flags names
  | ahead rest flags names =>
      rw [run_groupName, run_groupName]
      dsimp only
      rcases span_append '>' (by decide) (by decide) rest dollars with
        ⟨htake, hdrop⟩ | ⟨hshort, hlong⟩
      · rw [htake, hdrop]
        split
        · exact .failed
        · cases rest.dropWhile (· != '>') with
          | nil =>
              refine .missed fun u p heq => ?_
              cases heq
              exact List.suffix_rfl
          | cons c after => exact .found (.ahead after flags _)
      · rw [hshort, hlong]
        dsimp only
        rw [ite_self, ite_self]
        exact .failed

/-- The letters of flags are read alike, or they go on to the bracket. -/
theorem flagLetters_append (rest seen : List Char) (value : Bool) (flags : Flags) (dollars : Nat) :
    (∃ flags' seen' c after,
      flagLetters rest seen value flags = some (flags', seen', c :: after) ∧
        flagLetters (rest ++ closing dollars) seen value flags =
          some (flags', seen', c :: after ++ closing dollars)) ∨
      flagLetters rest seen value flags = none ∧
        ∀ found, flagLetters (rest ++ closing dollars) seen value flags = some found →
          found.2.2 = closing dollars := by
  induction rest generalizing seen value flags with
  | nil =>
      refine .inr ⟨rfl, fun found hlong => ?_⟩
      rw [List.nil_append, closing, flagLetters, if_pos (.inr rfl)] at hlong
      split at hlong
      · cases hlong
      · cases hlong
        rfl
  | cons c rest ih =>
      have hnone : (none : Option (Flags × List Char × List Char)) = none ∧
          ∀ found : Flags × List Char × List Char, none = some found →
            found.2.2 = closing dollars :=
        ⟨rfl, fun _ h => by cases h⟩
      rw [List.cons_append, flagLetters, flagLetters]
      split
      · split
        · exact .inr hnone
        · exact .inl ⟨flags, seen, c, rest, rfl, rfl⟩
      · split
        · exact .inr hnone
        · split
          · exact ih (c :: seen) false flags
          · split
            · exact .inr hnone
            · exact ih (c :: seen) value _

theorem flagLetters_suffix {rest seen seen' after : List Char} {value : Bool}
    {flags flags' : Flags} (h : flagLetters rest seen value flags = some (flags', seen', after)) :
    after <:+ rest := by
  induction rest generalizing seen value flags with
  | nil => cases h
  | cons c rest ih =>
      rw [flagLetters] at h
      split at h
      · split at h
        · cases h
        · cases h
          exact List.suffix_rfl
      · split at h
        · cases h
        · split at h
          · exact (ih h).trans (List.suffix_cons c rest)
          · split at h
            · cases h
            · exact (ih h).trans (List.suffix_cons c rest)

/-- A change of flags after its question mark. -/
def flagChange : Reader GroupKind := do
  let place ← get
  match flagLetters place.rest [] true place.flags with
  | some (flags, seen, last :: rest) =>
      set { place with flags := flags, rest := rest }
      if last = ':' then return .plain
      else if seen.isEmpty then failure
      else return .flags
  | _ => failure

theorem run_flagChange (rest : List Char) (flags : Flags) (names : List (List Char)) :
    flagChange.run ⟨rest, flags, names⟩ =
      match flagLetters rest [] true flags with
      | some (flags, seen, last :: after) =>
          if last = ':' then some (.plain, ⟨after, flags, names⟩)
          else if seen.isEmpty then none
          else some (.flags, ⟨after, flags, names⟩)
      | _ => none := by
  unfold flagChange
  simp only [StateT.run_bind, StateT.run_get, Option.pure_def, Option.bind_eq_bind,
    Option.bind_some]
  split
  · split
    · rfl
    · split <;> rfl
  · rfl

theorem shrinks_flagChange : Shrinks flagChange := by
  rintro ⟨rest, flags, names⟩ kind place' hrun
  rw [run_flagChange] at hrun
  split at hrun
  · rename_i hletters
    have hsuffix := (List.suffix_cons _ _).trans (flagLetters_suffix hletters)
    split at hrun
    · cases hrun
      exact hsuffix
    · split at hrun
      · cases hrun
      · cases hrun
        exact hsuffix
  · cases hrun

theorem steady_flagChange : Steady dollarSigns flagChange := by
  refine ⟨shrinks_flagChange, fun dollars place place' hbefore => ?_⟩
  cases hbefore with
  | hidden flags names => exact shrinks_flagChange.agrees_hidden flags names
  | ahead rest flags names =>
      rw [run_flagChange, run_flagChange]
      rcases flagLetters_append rest [] true flags dollars with
        ⟨flags', seen, c, after, hshort, hlong⟩ | ⟨hshort, hlong⟩
      · rw [hshort, hlong, List.cons_append]
        dsimp only
        split
        · exact .found (.ahead after flags' names)
        · split
          · exact .failed
          · exact .found (.ahead after flags' names)
      · rw [hshort]
        refine .missed fun kind p heq => ?_
        split at heq
        · rename_i flags' seen last after hletters
          have hafter : last :: after = closing dollars := hlong _ hletters
          cases hafter
          rw [if_neg (by decide)] at heq
          split at heq
          · cases heq
          · cases heq
            exact List.suffix_rfl
        · cases heq

/-! ## Starts of groups -/

/-- The start of a group after the blanks at its front, if it does not look around. -/
def groupOpening : Reader GroupKind := do
  if ← passText ['?', 'P', '<'] then
    groupName
    return .capture
  else if ← passText ['?', '<'] then
    groupName
    return .capture
  else if ← passText ['?'] then flagChange
  else return .capture

theorem groupStart_eq :
    groupStart = (do
      passSpace
      let start := (← get).rest
      if ["?=", "?!", "?<=", "?<!"].any fun mark => mark.toList.isPrefixOf start then failure
      groupOpening) :=
  rfl

theorem steady_groupOpening : Steady dollarSigns groupOpening := by
  refine (steady_passText (by decide)).bind fun found => ?_
  split
  · exact steady_groupName.bind fun _ => .pure _
  · refine (steady_passText (by decide)).bind fun found => ?_
    split
    · exact steady_groupName.bind fun _ => .pure _
    · refine (steady_passText (by decide)).bind fun found => ?_
      split
      · exact steady_flagChange
      · exact .pure _

/-- The start of a group is read steadily. -/
theorem steady_groupStart : Steady dollarSigns groupStart := by
  rw [groupStart_eq]
  refine steady_passSpace.bind fun _ => ⟨shrinks_get.bind fun place => ?_,
    fun dollars place place' hbefore => ?_⟩
  · dsimp only
    split
    · exact consumes_failure.shrinks
    · exact steady_groupOpening.shrinks
  · have hmarks : ["?=", "?!", "?<=", "?<!"].any (fun mark => mark.toList.isPrefixOf place'.rest) =
        ["?=", "?!", "?<=", "?<!"].any (fun mark => mark.toList.isPrefixOf place.rest) := by
      cases hbefore with
      | hidden => rfl
      | ahead rest =>
          simp only [List.any_cons, List.any_nil]
          rw [isPrefixOf_append (by decide), isPrefixOf_append (by decide),
            isPrefixOf_append (by decide), isPrefixOf_append (by decide)]
    rw [StateT.run_bind, StateT.run_bind, StateT.run_get, StateT.run_get]
    dsimp only [Option.pure_def, Option.bind_eq_bind, Option.bind_some]
    rw [hmarks]
    split
    · exact .failed
    · exact steady_groupOpening.agrees _ _ _ hbefore

/-! ## Parts -/

theorem static_singleton (c : Char) (isByte : Bool) : Static (singleton c isByte) := by
  refine static_flags.bind fun flags => ?_
  simp only [failure_bind]
  split
  · exact static_failure
  · exact static_pure _

theorem static_assertion (look : Look) : Static (assertion look) :=
  static_flags.bind fun _ => static_pure _

/-- A part is an escape after a backslash, or it is read steadily from its first character on. -/
theorem exists_part :
    ∃ (k : Char → Flags → Reader Piece) (ofEscape : Escape → Reader Piece),
      part = (do
        let c ← next
        k c (← flags)) ∧
      (∀ flags, k '\\' flags = (do
        pass
        ofEscape (← escape))) ∧
      (∀ found, Static (ofEscape found)) ∧
      ∀ c flags, c ≠ '\\' → SteadyAt dollarSigns c (k c flags) ∧ Consumes (k c flags) := by
  have hpass {m : Reader Piece} (hm : Static m) (c : Char) :
      SteadyAt dollarSigns c (pass >>= fun _ => m) ∧ Consumes (pass >>= fun _ => m) :=
    ⟨(steadyAt_pass c).bind fun _ => hm.steady, consumes_pass.bind fun _ => hm.shrinks⟩
  refine ⟨_, _, rfl, fun flags => rfl, fun found => ?_, fun c flags hc => ?_⟩
  · cases found with
    | character c isByte => exact (static_singleton c isByte).bind fun _ => static_pure _
    | set set => exact static_pure _
    | look look => exact static_assertion look
  · split
    · exact ⟨(steadyAt_bracket '[').bind fun _ => .pure _,
        consumes_bracket.bind fun _ => (static_pure _).shrinks⟩
    · exact absurd rfl hc
    · exact hpass (static_anyCharacter.bind fun _ => static_pure _) '.'
    · exact hpass (static_assertion _) '^'
    · exact hpass (static_assertion _) '$'
    · exact hpass ((static_singleton c false).bind fun _ => static_pure _) c

theorem consumes_part : Consumes part := by
  obtain ⟨k, ofEscape, hpart, hescape, hstatic, hk⟩ := exists_part
  rw [hpart]
  refine shrinks_next.bind_consumes fun c => static_flags.shrinks.bind_consumes fun flags => ?_
  by_cases hc : c = '\\'
  · rw [hc, hescape]
    exact consumes_pass.bind fun _ => consumes_escape.shrinks.bind fun found =>
      (hstatic found).shrinks
  · exact (hk c flags hc).2

/-- Parts without a repetition are read steadily, but for a brace after `\b` where the pattern
ends. -/
theorem agrees_part (dollars : Nat) (c : Char) (rest : List Char) (flags : Flags)
    (names : List (List Char)) :
    Agrees dollars (fun _ p => p.rest <:+ dollarSigns dollars ∨ Braced dollars p)
      (part.run ⟨c :: rest, flags, names⟩)
      (part.run ⟨c :: rest ++ closing dollars, flags, names⟩) := by
  obtain ⟨k, ofEscape, hpart, hescape, hstatic, hk⟩ := exists_part
  have hrun (after : List Char) :
      part.run ⟨c :: after, flags, names⟩ = (k c flags).run ⟨c :: after, flags, names⟩ := by
    rw [hpart]
    rfl
  rw [List.cons_append, hrun, hrun]
  by_cases hc : c = '\\'
  · rw [hc, hescape]
    refine (agrees_escape (.ahead rest flags names)).bind
      (fun found p p' _ _ hp => (hstatic found).agrees hp) fun found p piece p' hgoesOn hrun => ?_
    rw [(hstatic found).eq_of_run hrun]
    exact hgoesOn.imp_right And.right
  · exact ((hk c flags hc).1.agrees dollars rest flags names).weaken fun _ _ hlost => .inl hlost

/-! ## Choices -/

/-- What follows the contents of a group. -/
def afterGroup (fuel : Nat) (outside : Flags) (isCapture : Bool) (branches pieces : List Piece)
    (body : Piece) : Reader Piece := do
  if (← next) ≠ ')' then failure
  setFlags outside
  pass
  choice fuel branches (.group isCapture body :: pieces)

/-- What follows the opening bracket of a group. -/
def afterOpening (fuel : Nat) (branches pieces : List Piece) : Reader Piece := do
  let outside ← flags
  let kind ← groupStart
  if kind = .flags then
    choice fuel branches (.empty :: pieces)
  else
    afterGroup fuel outside (kind == .capture) branches pieces (← choice fuel [] [])

theorem choice_succ (fuel : Nat) (branches pieces : List Piece) :
    choice (fuel + 1) branches pieces = (do
      passSpace
      match ← peek? with
      | none | some ')' =>
          return Piece.choice (Piece.inRow pieces.reverse :: branches).reverse
      | some '|' =>
          pass
          choice fuel (Piece.inRow pieces.reverse :: branches) []
      | some '(' =>
          pass
          afterOpening fuel branches pieces
      | some '?' =>
          pass
          choice fuel branches (← repeatLast pieces 0 (some 1))
      | some '*' =>
          pass
          choice fuel branches (← repeatLast pieces 0 none)
      | some '+' =>
          pass
          choice fuel branches (← repeatLast pieces 1 none)
      | some '\x7b' =>
          let (least, most) ← bounds
          choice fuel branches (← repeatLast pieces least most)
      | some _ =>
          let piece ← part
          choice fuel branches (piece :: pieces)) := by
  rw [choice]
  rfl

theorem shrinks_setFlags (flags : Flags) : Shrinks (setFlags flags) := by
  intro place u place' hrun
  cases hrun
  exact List.suffix_rfl

theorem consumes_afterGroup {fuel : Nat} {branches : List Piece}
    (hchoice : ∀ pieces, Shrinks (choice fuel branches pieces)) (outside : Flags)
    (isCapture : Bool) (pieces : List Piece) (body : Piece) :
    Consumes (afterGroup fuel outside isCapture branches pieces body) := by
  unfold afterGroup
  simp only [failure_bind]
  refine shrinks_next.bind_consumes fun c => ?_
  split
  · exact consumes_failure
  · exact (shrinks_setFlags outside).bind_consumes fun _ => consumes_pass.bind fun _ => hchoice _

theorem shrinks_choice (fuel : Nat) (branches pieces : List Piece) :
    Shrinks (choice fuel branches pieces) := by
  induction fuel generalizing branches pieces with
  | zero => exact consumes_failure.shrinks
  | succ fuel ih =>
      have hrepeat (least : Nat) (most : Option Nat) :
          Shrinks (repeatLast pieces least most >>= choice fuel branches) :=
        (@steady_repeatLast dollarSigns pieces least most).shrinks.bind fun _ => ih _ _
      rw [choice_succ]
      refine shrinks_passSpace.bind fun _ => shrinks_peek?.bind fun found => ?_
      split
      · exact (static_pure _).shrinks
      · exact (static_pure _).shrinks
      · exact consumes_pass.shrinks.bind fun _ => ih _ _
      · refine consumes_pass.shrinks.bind fun _ => static_flags.shrinks.bind fun outside =>
          steady_groupStart.shrinks.bind fun kind => ?_
        split
        · exact ih _ _
        · exact (ih [] []).bind fun body =>
            (consumes_afterGroup (ih branches) outside _ pieces body).shrinks
      · exact consumes_pass.shrinks.bind fun _ => hrepeat 0 (some 1)
      · exact consumes_pass.shrinks.bind fun _ => hrepeat 0 none
      · exact consumes_pass.shrinks.bind fun _ => hrepeat 1 none
      · exact consumes_bounds.shrinks.bind fun found => hrepeat found.1 found.2
      · exact consumes_part.shrinks.bind fun piece => ih _ _

/-! ## Numbers of steps -/

section Steps

variable {fuel fuel' : Nat} {place : Place}

/-- With more steps than characters, the number of steps makes no difference for choices. -/
def StepsSuffice (fuel fuel' : Nat) : Prop :=
  ∀ branches pieces place, place.rest.length < fuel → place.rest.length < fuel' →
    (choice fuel branches pieces).run place = (choice fuel' branches pieces).run place

/-- It makes none for choices after another reader. -/
theorem StepsSuffice.bind {α : Type} (h : StepsSuffice fuel fuel') {m : Reader α} (hm : Shrinks m)
    (next : α → List Piece × List Piece) (hfuel : place.rest.length < fuel)
    (hfuel' : place.rest.length < fuel') :
    (m >>= fun a => choice fuel (next a).1 (next a).2).run place =
      (m >>= fun a => choice fuel' (next a).1 (next a).2).run place := by
  refine run_bind_congr rfl fun a p hrun => ?_
  have hle := hm.length_le hrun
  exact h _ _ p (by omega) (by omega)

/-- It makes none for what follows an opening bracket. -/
theorem StepsSuffice.afterOpening (h : StepsSuffice fuel fuel') (hfuel : place.rest.length < fuel)
    (hfuel' : place.rest.length < fuel') (branches pieces : List Piece) :
    (afterOpening fuel branches pieces).run place =
      (afterOpening fuel' branches pieces).run place := by
  refine run_bind_congr rfl fun outside p hflags => run_bind_congr rfl fun kind q hstart => ?_
  have hp := static_flags.shrinks.length_le hflags
  have hq := steady_groupStart.shrinks.length_le hstart
  split
  · exact h branches (.empty :: pieces) q (by omega) (by omega)
  · refine run_bind_congr (h [] [] q (by omega) (by omega)) fun body r hbody => ?_
    have hr := (shrinks_choice _ _ _).length_le hbody
    unfold afterGroup
    simp only [failure_bind]
    refine run_bind_congr rfl fun c r' hnext => ?_
    have hr' := shrinks_next.length_le hnext
    split
    · rfl
    · exact h.bind ((shrinks_setFlags outside).bind fun _ => consumes_pass.shrinks)
        (fun _ => (branches, .group (kind == .capture) body :: pieces)) (by omega) (by omega)

end Steps

/-- As many steps as there are characters, and one more, suffice for choices. -/
theorem stepsSuffice (fuel fuel' : Nat) : StepsSuffice fuel fuel' := by
  induction fuel generalizing fuel' with
  | zero =>
      intro _ _ _ hfuel
      cases hfuel
  | succ fuel ih =>
      obtain _ | fuel' := fuel'
      · intro _ _ _ _ hfuel'
        cases hfuel'
      intro branches pieces place hfuel hfuel'
      rw [choice_succ, choice_succ]
      refine run_bind_congr rfl fun _ p hspace => ?_
      have hle := shrinks_passSpace.length_le hspace
      obtain ⟨rest, flags, names⟩ := p
      cases rest with
      | nil => rfl
      | cons c rest =>
          simp only [List.length_cons] at hle
          have hrest : rest.length < fuel := by omega
          have hrest' : rest.length < fuel' := by omega
          have hrepeat (least : Nat) (most : Option Nat) :
              (repeatLast pieces least most >>= choice fuel branches).run ⟨rest, flags, names⟩ =
                (repeatLast pieces least most >>= choice fuel' branches).run ⟨rest, flags, names⟩ :=
            (ih fuel').bind (@steady_repeatLast dollarSigns pieces least most).shrinks (branches, ·)
              hrest hrest'
          rw [StateT.run_bind, StateT.run_bind, run_peek?]
          dsimp only [Option.bind_eq_bind, Option.bind_some, List.head?_cons]
          split
          · rfl
          · rfl
          · exact ih fuel' (Piece.inRow pieces.reverse :: branches) [] ⟨rest, flags, names⟩ hrest
              hrest'
          · exact (ih fuel').afterOpening hrest hrest' branches pieces
          · exact hrepeat 0 (some 1)
          · exact hrepeat 0 none
          · exact hrepeat 1 none
          · refine run_bind_congr rfl fun found p hbounds => ?_
            have hlength : p.rest.length ≤ rest.length := (consumes_bounds _ _ _ hbounds).length_le
            exact (ih fuel').bind (@steady_repeatLast dollarSigns pieces found.1 found.2).shrinks
              (branches, ·) (by omega) (by omega)
          · refine run_bind_congr rfl fun piece p hpart => ?_
            have hlength : p.rest.length ≤ rest.length := (consumes_part _ _ _ hpart).length_le
            exact ih fuel' branches (piece :: pieces) p (by omega) (by omega)

/-! ## Choices before a closing bracket -/

/-- Choices are read alike with fewer steps than `fuel` and `fuel'`. -/
def ChoicesAgree (dollars fuel fuel' : Nat) : Prop :=
  ∀ branches pieces place place', place.rest.length < fuel → place'.rest.length < fuel' →
    place.Before dollars place' →
      Agrees dollars (fun _ p => p.rest <:+ dollarSigns dollars)
        ((choice fuel branches pieces).run place) ((choice fuel' branches pieces).run place')

section Choice

variable {dollars fuel fuel' : Nat} {place place' : Place}

/-- A reader that passes something is followed alike by choices. -/
theorem ChoicesAgree.bind {α : Type} (h : ChoicesAgree dollars fuel fuel') {m : Reader α}
    (hm : Steady dollarSigns m) (next : α → List Piece × List Piece)
    (hfuel : place.rest.length < fuel) (hfuel' : place'.rest.length < fuel')
    (hbefore : place.Before dollars place') :
    Agrees dollars (fun _ p => p.rest <:+ dollarSigns dollars)
      ((m >>= fun a => choice fuel (next a).1 (next a).2).run place)
      ((m >>= fun a => choice fuel' (next a).1 (next a).2).run place') := by
  refine (hm.agrees _ _ _ hbefore).bind (fun a p p' hrun hrun' hp => ?_)
    fun a p piece p' hlost hrun => (shrinks_choice _ _ _ _ _ _ hrun).trans hlost
  have hle := hm.shrinks.length_le hrun
  have hle' := hm.shrinks.length_le hrun'
  exact h _ _ p p' (by omega) (by omega) hp

/-- What follows the contents of a group is read alike. -/
theorem ChoicesAgree.afterGroup (h : ChoicesAgree dollars fuel fuel')
    (hfuel : place.rest.length < fuel) (hfuel' : place'.rest.length < fuel')
    (hbefore : place.Before dollars place') (outside : Flags) (isCapture : Bool)
    (branches pieces : List Piece) (body : Piece) :
    Agrees dollars (fun _ p => p.rest <:+ dollarSigns dollars)
      ((afterGroup fuel outside isCapture branches pieces body).run place)
      ((afterGroup fuel' outside isCapture branches pieces body).run place') := by
  cases hbefore with
  | hidden flags names => exact .failed
  | ahead rest flags names =>
      cases rest with
      | nil =>
          refine .missed fun piece p hrun => ?_
          exact consumes_afterGroup (shrinks_choice fuel' branches) outside isCapture pieces body
            _ _ _ hrun
      | cons c rest =>
          unfold Reader.afterGroup
          simp only [failure_bind]
          rw [List.cons_append, StateT.run_bind, StateT.run_bind, run_next_cons, run_next_cons]
          dsimp only [Option.bind_eq_bind, Option.bind_some]
          split
          · exact .failed
          · simp only [List.length_cons, List.cons_append] at hfuel hfuel'
            exact h branches (.group isCapture body :: pieces) ⟨rest, outside, names⟩
              ⟨rest ++ closing dollars, outside, names⟩ (by dsimp only; omega)
              (by dsimp only; omega) (.ahead rest outside names)

/-- A group and what follows it is read alike. -/
theorem ChoicesAgree.afterOpening (h : ChoicesAgree dollars fuel fuel')
    (hfuel : place.rest.length < fuel) (hfuel' : place'.rest.length < fuel')
    (hbefore : place.Before dollars place') (branches pieces : List Piece) :
    Agrees dollars (fun _ p => p.rest <:+ dollarSigns dollars)
      ((afterOpening fuel branches pieces).run place)
      ((afterOpening fuel' branches pieces).run place') := by
  refine (static_flags.agrees hbefore).bind (fun outside p p' hrun hrun' hp => ?_)
    fun _ _ _ _ h => False.elim h
  have hle := static_flags.shrinks.length_le hrun
  have hle' := static_flags.shrinks.length_le hrun'
  refine (steady_groupStart.agrees _ _ _ hp).bind (fun kind q q' hstart hstart' hq => ?_)
    fun kind q piece q' hlost hrun => ?_
  · have hstart := steady_groupStart.shrinks.length_le hstart
    have hstart' := steady_groupStart.shrinks.length_le hstart'
    split
    · exact h branches (.empty :: pieces) q q' (by omega) (by omega) hq
    · refine (h [] [] q q' (by omega) (by omega) hq).bind (fun body r r' hbody hbody' hr => ?_)
        fun body r piece r' hlost hrun => ?_
      · have hbody := (shrinks_choice _ _ _).length_le hbody
        have hbody' := (shrinks_choice _ _ _).length_le hbody'
        exact h.afterGroup (by omega) (by omega) hr outside _ branches pieces body
      · exact ((consumes_afterGroup (shrinks_choice fuel' branches) outside _ pieces body).shrinks
          _ _ _ hrun).trans hlost
  · refine List.IsSuffix.trans ?_ hlost
    split at hrun
    · exact shrinks_choice _ _ _ _ _ _ hrun
    · exact ((shrinks_choice fuel' [] []).bind fun body =>
        (consumes_afterGroup (shrinks_choice fuel' branches) outside _ pieces body).shrinks)
          _ _ _ hrun

end Choice

/-- A brace right before the bracket starts no choice. -/
theorem run_choice_of_braced {dollars : Nat} {place : Place} (h : Braced dollars place) (fuel : Nat)
    (branches pieces : List Piece) : (choice fuel branches pieces).run place = none := by
  have hbounds := run_bounds_of_braced h
  obtain ⟨rest, flags, names⟩ := place
  obtain ⟨after, rfl, -⟩ := h
  have hspaced : spaced flags ('\x7b' :: after) = '\x7b' :: after := by
    unfold spaced
    split <;> rfl
  cases fuel with
  | zero => rfl
  | succ fuel =>
      rw [choice_succ, StateT.run_bind, run_passSpace, hspaced]
      change (bounds >>= fun found => repeatLast pieces found.1 found.2 >>=
        choice fuel branches).run ⟨'\x7b' :: after, flags, names⟩ = none
      rw [StateT.run_bind, hbounds]
      rfl

/-- Choices are read steadily, however many steps are allowed. -/
theorem choicesAgree (dollars fuel fuel' : Nat) : ChoicesAgree dollars fuel fuel' := by
  induction fuel generalizing fuel' with
  | zero =>
      intro _ _ _ _ hfuel
      cases hfuel
  | succ fuel ih =>
      obtain _ | fuel' := fuel'
      · intro _ _ _ _ _ hfuel'
        cases hfuel'
      intro branches pieces place place' hfuel hfuel' hbefore
      rw [choice_succ, choice_succ]
      refine (agrees_passSpace hbefore).bind (fun _ p p' hrun hrun' hp => ?_)
        fun _ _ _ _ h => h.elim
      have hle := shrinks_passSpace.length_le hrun
      have hle' := shrinks_passSpace.length_le hrun'
      cases hp with
      | hidden flags names => exact .found (.hidden flags names)
      | ahead rest flags names =>
          cases rest with
          | nil => exact .found (.ahead [] flags names)
          | cons c rest =>
              simp only [List.length_cons, List.cons_append] at hle hle'
              have hbefore := @Place.Before.ahead dollars rest flags names
              have hrepeat (least : Nat) (most : Option Nat) :
                  Agrees dollars (fun _ p => p.rest <:+ dollarSigns dollars)
                    ((repeatLast pieces least most >>= choice fuel branches).run
                      ⟨rest, flags, names⟩)
                    ((repeatLast pieces least most >>= choice fuel' branches).run
                      ⟨rest ++ closing dollars, flags, names⟩) :=
                (ih fuel').bind (steady_repeatLast pieces least most) (branches, ·)
                  (by dsimp only; omega) (by dsimp only; omega) hbefore
              rw [List.cons_append, StateT.run_bind, StateT.run_bind, run_peek?, run_peek?]
              dsimp only [Option.bind_eq_bind, Option.bind_some, List.head?_cons]
              split
              · exact .found (.ahead (c :: rest) flags names)
              · exact .found (.ahead (c :: rest) flags names)
              · exact ih fuel' (Piece.inRow pieces.reverse :: branches) [] ⟨rest, flags, names⟩
                  ⟨rest ++ closing dollars, flags, names⟩ (by dsimp only; omega)
                  (by dsimp only; omega) hbefore
              · exact (ih fuel').afterOpening (by dsimp only; omega) (by dsimp only; omega) hbefore
                  branches pieces
              · exact hrepeat 0 (some 1)
              · exact hrepeat 0 none
              · exact hrepeat 1 none
              · refine ((steadyAt_bounds c).agrees dollars rest flags names).bind
                  (fun found p p' hrun hrun' hp => ?_) fun found p piece p' hlost hrun => ?_
                · have hlength : p.rest.length ≤ rest.length :=
                    (consumes_bounds _ _ _ hrun).length_le
                  have hlength' : p'.rest.length ≤ (rest ++ closing dollars).length :=
                    (consumes_bounds _ _ _ hrun').length_le
                  exact (ih fuel').bind (steady_repeatLast pieces found.1 found.2) (branches, ·)
                    (by omega) (by omega) hp
                · exact (((@steady_repeatLast dollarSigns pieces found.1 found.2).shrinks.bind
                    fun _ => shrinks_choice _ _ _) _ _ _ hrun).trans hlost
              · refine (agrees_part dollars c rest flags names).bind
                  (fun piece p p' hrun hrun' hp => ?_) fun piece p found p' hgoesOn hrun => ?_
                · have hlength : p.rest.length ≤ rest.length := (consumes_part _ _ _ hrun).length_le
                  have hlength' : p'.rest.length ≤ (rest ++ closing dollars).length :=
                    (consumes_part _ _ _ hrun').length_le
                  exact ih fuel' branches (piece :: pieces) p p' (by omega) (by omega) hp
                · rcases hgoesOn with hlost | hbraced
                  · exact (shrinks_choice _ _ _ _ _ _ hrun).trans hlost
                  · rw [run_choice_of_braced hbraced] at hrun
                    cases hrun

end Reader
end Regex
end SchemaForm
