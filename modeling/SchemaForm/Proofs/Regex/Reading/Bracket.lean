import SchemaForm.Proofs.Regex.Reading.Escape
import SchemaForm.Regex.Reading.Bracket

/-!
# Bracket classes before a closing bracket

A bracket class that is complete is read alike whatever follows it.  One that is not complete has
no meaning, and if the end of a group follows, its bracket is read as a character of the class.

Main results:

- Theorem `steady_bracketRange`: characters, classes and ranges in brackets are read steadily.
- Theorem `bodiesAgree`: so are the contents of classes, by induction on the number of steps; more
  steps than characters make no difference.
- Theorem `steadyAt_bracket`: classes are read steadily.
-/

namespace SchemaForm
namespace Regex
namespace Reader

open Text (Charset)

variable {lost : Nat → List Char} {β : Type}

/-! ## Named classes -/

/-- The rest of a class by name after its opening, which goes back to the start if it is none. -/
def classEnd (start : Place) (negated : Bool) : Reader (Option Charset) := do
  let rest := (← get).rest
  let name := rest.takeWhile (· != ':')
  modify fun place => { place with rest := rest.dropWhile (· != ':') }
  if ← passText [':', ']'] then
    match Class.ofAsciiName? (String.ofList name) with
    | some set => return some (← finishSet negated set)
    | none => pure ()
  set start
  return none

theorem namedAsciiClass?_eq :
    namedAsciiClass? = (do
      let start ← get
      if !(← passText ['[', ':']) then return none
      classEnd start (← passText ['^'])) :=
  rfl

/-- The name of a class goes up to the next colon. -/
theorem run_classEnd (start : Place) (negated : Bool) (rest : List Char) (flags : Flags)
    (names : List (List Char)) :
    (classEnd start negated).run ⟨rest, flags, names⟩ =
      if [':', ']'].isPrefixOf (rest.dropWhile (· != ':')) then
        match Class.ofAsciiName? (String.ofList (rest.takeWhile (· != ':'))) with
        | some set =>
            (finishSet negated set >>= fun set => pure (some set)).run
              ⟨(rest.dropWhile (· != ':')).drop 2, flags, names⟩
        | none => some (none, start)
      else some (none, start) := by
  unfold classEnd
  simp only [StateT.run_bind, StateT.run_get, StateT.run_modify, Option.pure_def,
    Option.bind_eq_bind, Option.bind_some, run_passText]
  split
  · cases Class.ofAsciiName? (String.ofList (rest.takeWhile (· != ':'))) <;> rfl
  · rfl

/-- There is no colon before the end of a group that is not in the pattern. -/
theorem agrees_classEnd {dollars : Nat} {start start' place place' : Place} (negated : Bool)
    (hstart : start.Before dollars start') (hbefore : place.Before dollars place') :
    Agrees dollars (fun _ _ => False) ((classEnd start negated).run place)
      ((classEnd start' negated).run place') := by
  cases hbefore with
  | hidden flags names =>
      rw [run_classEnd, run_classEnd]
      exact .found hstart
  | ahead rest flags names =>
      rw [run_classEnd, run_classEnd]
      rcases span_append ':' (by decide) (by decide) rest dollars with
        ⟨htake, hdrop⟩ | ⟨hshort, hlong⟩
      · rw [htake, hdrop, isPrefixOf_append (by decide)]
        split
        · rename_i hprefix
          have hlength := (List.isPrefixOf_iff_prefix.mp hprefix).length_le
          rw [List.drop_append_of_le_length (show 2 ≤ _ from hlength)]
          split
          · rename_i set _
            exact ((static_finishSet negated set).bind fun set => static_pure (some set)).agrees
              (.ahead _ flags names)
          · exact .found hstart
        · exact .found hstart
      · rw [hshort, hlong]
        exact .found hstart

theorem cases_classEnd {start place place' : Place} {negated : Bool} {found : Option Charset}
    (hrun : (classEnd start negated).run place = some (found, place')) :
    found = none ∧ place' = start ∨ found ≠ none ∧ place'.rest <:+ place.rest := by
  obtain ⟨rest, flags, names⟩ := place
  rw [run_classEnd] at hrun
  split at hrun
  · split at hrun
    · obtain ⟨set, p, hset, hpure⟩ := run_bind_eq_some.mp hrun
      cases hpure
      exact .inr ⟨by simp, ((static_finishSet _ _).shrinks _ _ _ hset).trans
        ((List.drop_suffix _ _).trans (List.dropWhile_suffix _))⟩
    · cases hrun
      exact .inl ⟨rfl, rfl⟩
  · cases hrun
    exact .inl ⟨rfl, rfl⟩

/-- A class by name passes a character, unless it is none and stays where it is. -/
theorem cases_namedAsciiClass? {place place' : Place} {found : Option Charset}
    (hrun : namedAsciiClass?.run place = some (found, place')) :
    found = none ∧ place' = place ∨ found ≠ none ∧ place'.rest <:+ place.rest.tail := by
  rw [namedAsciiClass?_eq] at hrun
  obtain ⟨start, p, hget, hrun⟩ := run_bind_eq_some.mp hrun
  cases hget
  obtain ⟨opens, p, hopens, hrun⟩ := run_bind_eq_some.mp hrun
  rw [run_passText] at hopens
  split at hopens
  · cases hopens
    obtain ⟨negated, p, hnegated, hrun⟩ := run_bind_eq_some.mp hrun
    rcases cases_classEnd hrun with hnone | ⟨hsome, hsuffix⟩
    · exact .inl hnone
    · have hdrop : place.rest.drop 2 <:+ place.rest.tail := by
        cases place.rest with
        | nil => exact List.suffix_rfl
        | cons c rest => exact List.drop_suffix 1 rest
      exact .inr ⟨hsome, hsuffix.trans ((shrinks_passText _ _ _ _ hnegated).trans hdrop)⟩
  · cases hopens
    cases hrun
    exact .inl ⟨rfl, rfl⟩

theorem shrinks_namedAsciiClass? : Shrinks namedAsciiClass? := by
  intro place found place' hrun
  rcases cases_namedAsciiClass? hrun with ⟨-, rfl⟩ | ⟨-, hsuffix⟩
  · exact List.suffix_rfl
  · exact hsuffix.trans (List.tail_suffix _)

theorem agrees_namedAsciiClass? {dollars : Nat} {place place' : Place}
    (hbefore : place.Before dollars place') :
    Agrees dollars (fun _ _ => False) (namedAsciiClass?.run place)
      (namedAsciiClass?.run place') := by
  rw [namedAsciiClass?_eq, StateT.run_bind, StateT.run_bind, StateT.run_get, StateT.run_get]
  dsimp only [Option.pure_def, Option.bind_eq_bind, Option.bind_some]
  refine (agrees_passText (by decide) hbefore).bind (fun opens p p' _ _ hp => ?_)
    fun _ _ _ _ h => h.elim
  split
  · exact .found hp
  · exact (agrees_passText (by decide) hp).bind
      (fun negated p p' _ _ hp => agrees_classEnd negated hbefore hp) fun _ _ _ _ h => h.elim

/-! ## The character after the next one -/

/-- A text without the blanks at its start, and without one number sign after them and the blanks
after it. -/
def afterSign (rest : List Char) : List Char :=
  match rest.dropWhile Text.isBlank with
  | '#' :: more => more.dropWhile Text.isBlank
  | _ => rest.dropWhile Text.isBlank

theorem run_peekSecond? (c : Char) (rest : List Char) (flags : Flags) (names : List (List Char)) :
    peekSecond?.run ⟨c :: rest, flags, names⟩ =
      some (if flags.extended ∧ afterSign rest ≠ [] then (afterSign rest).head? else rest.head?,
        ⟨c :: rest, flags, names⟩) := by
  unfold peekSecond?
  simp only [StateT.run_bind, StateT.run_get, Option.pure_def, Option.bind_eq_bind,
    Option.bind_some, List.tail_cons]
  cases flags.extended with
  | false => rfl
  | true =>
      change some (if (afterSign rest).isEmpty then rest.head? else (afterSign rest).head?, _) = _
      cases afterSign rest <;> rfl

theorem afterSign_append (rest : List Char) (dollars : Nat) :
    afterSign (rest ++ closing dollars) = afterSign rest ++ closing dollars := by
  unfold afterSign
  rw [dropWhile_isBlank_append]
  rcases rest.dropWhile Text.isBlank with _ | ⟨c, more⟩
  · rfl
  · by_cases hc : c = '#'
    · subst hc
      exact dropWhile_isBlank_append more dollars
    · simp [hc]

/-- A closing bracket or a hyphen that comes next is not dropped. -/
theorem head?_ne_of_afterSign {rest : List Char} (hnil : afterSign rest = []) {c : Char}
    (hc : c = ']' ∨ c = '-') : rest.head? ≠ some c := by
  intro hhead
  obtain ⟨more, rfl⟩ : ∃ more, rest = c :: more := by
    cases rest <;> simp_all
  have hfirst : afterSign (c :: more) = c :: more := by
    rcases hc with rfl | rfl <;> rfl
  rw [hfirst] at hnil
  cases hnil

/-- Whether a hyphen is taken for a range does not depend on the end of a group. -/
theorem run_peekSecond?_append (c : Char) (rest : List Char) (flags : Flags)
    (names : List (List Char)) (dollars : Nat) :
    ∃ second second',
      peekSecond?.run ⟨c :: rest, flags, names⟩ = some (second, ⟨c :: rest, flags, names⟩) ∧
        peekSecond?.run ⟨c :: rest ++ closing dollars, flags, names⟩ =
            some (second', ⟨c :: rest ++ closing dollars, flags, names⟩) ∧
          ∀ d, d = ']' ∨ d = '-' → (second = some d ↔ second' = some d) := by
  refine ⟨_, _, run_peekSecond? c rest flags names,
    run_peekSecond? c (rest ++ closing dollars) flags names, fun d hd => ?_⟩
  have hne : ')' ≠ d := by
    rcases hd with rfl | rfl <;> decide
  rw [afterSign_append]
  cases flags.extended with
  | false => cases rest <;> simp [closing, hne]
  | true =>
      cases hnil : afterSign rest with
      | nil => simp [closing, hne, head?_ne_of_afterSign hnil hd]
      | cons c' more => simp

/-! ## Items -/

theorem static_isAllowed (c : Char) (isByte : Bool) : Static (isAllowed c isByte) :=
  static_flags.bind fun _ => static_pure _

theorem static_itemSet (item : Escape) : Static (itemSet item) := by
  cases item with
  | character c isByte =>
      refine (static_isAllowed c isByte).bind fun allowed => ?_
      split
      · exact static_pure _
      · exact static_failure
  | set set => exact static_pure set
  | look assertion => exact static_failure

theorem consumes_bracketItem : Consumes bracketItem := by
  refine shrinks_next.bind_consumes fun c => consumes_pass.bind fun _ => ?_
  split
  · exact consumes_escape.shrinks
  · exact (static_pure _).shrinks

/-- Items are read steadily, but for an assertion, which is none. -/
theorem agrees_bracketItem {dollars : Nat} {place place' : Place}
    (hbefore : place.Before dollars place') :
    Agrees dollars
      (fun item p => p.rest <:+ dollarSigns dollars ∨ item = .look .wordBoundary)
      (bracketItem.run place) (bracketItem.run place') := by
  cases hbefore with
  | hidden flags names => exact consumes_bracketItem.shrinks.agrees_hidden flags names
  | ahead rest flags names =>
      cases rest with
      | nil => exact .missed fun _ _ hrun => .inl (consumes_bracketItem _ _ _ hrun)
      | cons c rest =>
          change Agrees dollars _
            ((if c = '\\' then escape else pure (.character c false)).run ⟨rest, flags, names⟩)
            ((if c = '\\' then escape else pure (.character c false)).run
              ⟨rest ++ closing dollars, flags, names⟩)
          split
          · exact (agrees_escape (.ahead rest flags names)).weaken fun _ _ h => h.imp_right And.left
          · exact .found (.ahead rest flags names)

/-- The characters from one item to another. -/
def rangeSet : Escape → Escape → Reader Charset
  | .character first isByte, .character last isByte' => do
      if !(← isAllowed first isByte) || !(← isAllowed last isByte') then failure
      if first ≤ last then return .everything ∩ .range first.toNat last.toNat else failure
  | _, _ => failure

/-- What follows an item: a hyphen and a second item, or nothing that belongs to it. -/
def afterItem (first : Escape) : Reader Charset := do
  passSpace
  let c ← next
  let second ← peekSecond?
  if c ≠ '-' ∨ second = some ']' ∨ second = some '-' then
    itemSet first
  else
    passWithSpace
    rangeSet first (← bracketItem)

theorem bracketRange_eq : bracketRange = bracketItem >>= afterItem :=
  rfl

theorem static_rangeSet (first last : Escape) : Static (rangeSet first last) := by
  unfold rangeSet
  split
  · refine (static_isAllowed _ _).bind fun _ => (static_isAllowed _ _).bind fun _ => ?_
    simp only [failure_bind]
    split
    · exact static_failure
    · split
      · exact static_pure _
      · exact static_failure
  · exact static_failure

/-- No range starts at an assertion. -/
theorem rangeSet_look_left (assertion : Look) (last : Escape) :
    rangeSet (.look assertion) last = failure := by
  cases last <;> rfl

/-- No range ends at an assertion. -/
theorem rangeSet_look_right (first : Escape) (assertion : Look) :
    rangeSet first (.look assertion) = failure := by
  cases first <;> rfl

theorem shrinks_peekSecond? : Shrinks peekSecond? := by
  refine shrinks_get.bind fun place => ?_
  dsimp only
  split <;> exact (static_pure _).shrinks

/-- An item and what is made of it is read steadily if nothing is made of an assertion. -/
theorem Steady.bracketItem_bind {k : Escape → Reader β} (hk : ∀ item, Steady closing (k item))
    (hlook : ∀ assertion place, (k (.look assertion)).run place = none) :
    Steady closing (bracketItem >>= k) := by
  refine ⟨consumes_bracketItem.shrinks.bind fun item => (hk item).shrinks,
    fun dollars place place' hbefore => ?_⟩
  refine (agrees_bracketItem hbefore).bind (fun item p p' _ _ hp => (hk item).agrees _ _ _ hp)
    fun item p set p' hgoesOn hrun => ?_
  rcases hgoesOn with hlost | rfl
  · exact ((hk item).shrinks _ _ _ hrun).trans (hlost.trans (dollarSigns_suffix dollars))
  · rw [hlook] at hrun
    cases hrun

theorem steady_rangeEnd (first : Escape) : Steady closing (bracketItem >>= rangeSet first) := by
  refine .bracketItem_bind (fun last => (static_rangeSet first last).steady)
    fun assertion place => ?_
  rw [rangeSet_look_right]
  rfl

/-- Whether a second item follows does not depend on the end of a group. -/
theorem steady_afterItem (first : Escape) : Steady closing (afterItem first) := by
  refine steady_passSpace.bind fun _ => .next_bind_closing fun c => ⟨?_, ?_⟩
  · refine shrinks_peekSecond?.bind fun second => ?_
    split
    · exact (static_itemSet first).shrinks
    · exact consumes_passWithSpace.shrinks.bind fun _ => (steady_rangeEnd first).shrinks
  · intro dollars rest flags names
    obtain ⟨second, second', hrun, hrun', hiff⟩ := run_peekSecond?_append c rest flags names dollars
    rw [StateT.run_bind, StateT.run_bind, hrun, hrun']
    dsimp only [Option.bind_eq_bind, Option.bind_some]
    simp only [hiff ']' (.inl rfl), hiff '-' (.inr rfl)]
    split
    · exact (static_itemSet first).agrees (.ahead (c :: rest) flags names)
    · exact ((steadyAt_passWithSpace c).bind fun _ => steady_rangeEnd first).agrees
        dollars rest flags names

/-- Nothing is made of an assertion, whatever follows it. -/
theorem run_afterItem_look (assertion : Look) (place : Place) :
    (afterItem (.look assertion)).run place = none := by
  refine Option.eq_none_iff_forall_not_mem.mpr fun found hrun => ?_
  obtain ⟨_, _, -, hrun⟩ := run_bind_eq_some.mp hrun
  obtain ⟨c, _, -, hrun⟩ := run_bind_eq_some.mp hrun
  obtain ⟨second, _, -, hrun⟩ := run_bind_eq_some.mp hrun
  split at hrun
  · cases hrun
  · obtain ⟨_, _, -, hrun⟩ := run_bind_eq_some.mp hrun
    obtain ⟨last, _, -, hrun⟩ := run_bind_eq_some.mp hrun
    rw [rangeSet_look_left] at hrun
    cases hrun

/-- A range that the pattern breaks off may end before the bracket. -/
theorem steady_bracketRange : Steady closing bracketRange := by
  rw [bracketRange_eq]
  exact .bracketItem_bind steady_afterItem run_afterItem_look

theorem consumes_bracketRange : Consumes bracketRange := by
  rw [bracketRange_eq]
  exact consumes_bracketItem.bind fun first => (steady_afterItem first).shrinks

/-! ## The start of a class -/

theorem run_leadingHyphens_cons (fuel : Nat) (items : Items) (c : Char) (rest : List Char)
    (flags : Flags) (names : List (List Char)) :
    (leadingHyphens (fuel + 1) items).run ⟨c :: rest, flags, names⟩ =
      if c = '-' then
        (leadingHyphens fuel (items.add hyphen 0)).run ⟨spaced flags rest, flags, names⟩
      else some (items, ⟨c :: rest, flags, names⟩) := by
  rw [leadingHyphens, StateT.run_bind, run_next_cons]
  dsimp only [Option.bind_eq_bind, Option.bind_some]
  split
  · rw [StateT.run_bind, run_passWithSpace]
    rfl
  · rfl

theorem shrinks_leadingHyphens (fuel : Nat) (items : Items) :
    Shrinks (leadingHyphens fuel items) := by
  induction fuel generalizing items with
  | zero => exact (static_pure items).shrinks
  | succ fuel ih =>
      refine shrinks_next.bind fun c => ?_
      split
      · exact consumes_passWithSpace.shrinks.bind fun _ => ih _
      · exact (static_pure items).shrinks

/-- The hyphens at the start of a class are read steadily if the class goes on after them. -/
theorem agrees_leadingHyphens {k : Items → Char → Reader β}
    (hk : ∀ items c, SteadyAt closing c (k items c)) {dollars fuel fuel' : Nat} (items : Items)
    {place place' : Place} (hfuel : place.rest.length ≤ fuel) (hfuel' : place'.rest.length ≤ fuel')
    (hbefore : place.Before dollars place') :
    Agrees dollars (fun _ p => p.rest <:+ closing dollars)
      ((leadingHyphens fuel items >>= fun items => next >>= k items).run place)
      ((leadingHyphens fuel' items >>= fun items => next >>= k items).run place') := by
  have hnil (fuel : Nat) (items : Items) (flags : Flags) (names : List (List Char)) :
      (leadingHyphens fuel items >>= fun items => next >>= k items).run ⟨[], flags, names⟩ =
        none := by
    cases fuel <;> rfl
  induction fuel using Nat.strong_induction_on generalizing fuel' items place place' with
  | _ fuel ih =>
      cases hbefore with
      | hidden flags names =>
          rw [hnil, hnil]
          exact .failed
      | ahead rest flags names =>
          cases rest with
          | nil =>
              rw [hnil]
              refine .missed fun b p hrun => ?_
              exact ((shrinks_leadingHyphens fuel' items).bind fun items =>
                shrinks_next.bind fun c => (hk items c).shrinks) _ _ _ hrun
          | cons c rest =>
              obtain _ | fuel := fuel
              · cases hfuel
              obtain _ | fuel' := fuel'
              · cases hfuel'
              rw [List.cons_append, StateT.run_bind, StateT.run_bind, run_leadingHyphens_cons,
                run_leadingHyphens_cons]
              split
              · have hshort := (spaced_suffix flags rest).length_le
                have hlong := (spaced_suffix flags (rest ++ closing dollars)).length_le
                simp only [List.length_cons, List.cons_append] at hfuel hfuel'
                exact ih fuel (by omega) (items.add hyphen 0) (by dsimp only; omega)
                  (by dsimp only; omega) (spaced_before dollars rest flags names)
              · exact (hk items c).agrees dollars rest flags names

/-- The start of a class after the mark that negates it. -/
def afterNegation (negated : Bool) : Reader (Bool × Items) := do
  let items ← leadingHyphens (← get).rest.length {}
  if items.count = 0 ∧ (← next) = ']' then
    passWithSpace
    let _ ← next
    return (negated, items.add (.single ']'.toNat) 0)
  else
    return (negated, items)

theorem bracketStart_eq :
    bracketStart = (do
      passWithSpace
      let negated := (← next) == '^'
      if negated then passWithSpace
      afterNegation negated) :=
  rfl

theorem steady_afterNegation (negated : Bool) : Steady closing (afterNegation negated) := by
  have hbracket (items : Items) (c : Char) : SteadyAt closing c (do
      if items.count = 0 ∧ c = ']' then
        passWithSpace
        let _ ← next
        return (negated, items.add (.single ']'.toNat) 0)
      else
        return (negated, items)) := by
    split
    · exact (steadyAt_passWithSpace c).bind fun _ =>
        .next_bind_closing fun c => (Steady.pure _).at c
    · exact (Steady.pure _).at c
  refine ⟨?_, fun dollars place place' hbefore => ?_⟩
  · exact shrinks_get.bind fun place => (shrinks_leadingHyphens _ _).bind fun items =>
      shrinks_next.bind fun c => (hbracket items c).shrinks
  · exact agrees_leadingHyphens hbracket {} le_rfl le_rfl hbefore

theorem consumes_bracketStart : Consumes bracketStart := by
  rw [bracketStart_eq]
  refine consumes_passWithSpace.bind fun _ => shrinks_next.bind fun c => ?_
  dsimp only
  split
  · exact consumes_passWithSpace.shrinks.bind fun _ => (steady_afterNegation _).shrinks
  · exact (steady_afterNegation _).shrinks

/-- The start of a class that the pattern breaks off may end before the bracket. -/
theorem steadyAt_bracketStart (c : Char) : SteadyAt closing c bracketStart := by
  rw [bracketStart_eq]
  refine (steadyAt_passWithSpace c).bind fun _ => .next_bind_closing fun c => ?_
  dsimp only
  split
  · exact (steadyAt_passWithSpace c).bind fun _ => steady_afterNegation _
  · exact (steady_afterNegation _).at c

/-! ## Classes -/

/-- A class in another one, and the contents after it. -/
def nestedClass (fuel : Nat) (pending : Option (SetOperation × Operand)) (items : Items) :
    Reader Operand := do
  let (negated, leading) ← bracketStart
  let inner ← bracketBody fuel none leading
  let set ← finishSet negated inner.set
  bracketBody fuel pending (items.add set (inner.height + 1))

/-- The contents after an operation. -/
def afterOperation (fuel : Nat) (pending : Option (SetOperation × Operand)) (items : Items)
    (operation : SetOperation) : Reader Operand := do
  bracketBody fuel (some (operation, joinOperand (← flags) pending items)) {}

/-- An operation between items or an item, and the contents after it. -/
def nextOperand (fuel : Nat) (pending : Option (SetOperation × Operand)) (items : Items) :
    Reader Operand := do
  if ← passText ['&', '&'] then afterOperation fuel pending items .intersection
  else if ← passText ['-', '-'] then afterOperation fuel pending items .difference
  else if ← passText ['~', '~'] then afterOperation fuel pending items .symmetricDifference
  else
    let set ← bracketRange
    bracketBody fuel pending (items.add set 0)

theorem bracketBody_succ (fuel : Nat) (pending : Option (SetOperation × Operand)) (items : Items) :
    bracketBody (fuel + 1) pending items = (do
      passSpace
      match ← next with
      | '[' =>
          match ← namedAsciiClass? with
          | some set => bracketBody fuel pending (items.add set 0)
          | none => nestedClass fuel pending items
      | ']' =>
          pass
          return joinOperand (← flags) pending items
      | _ => nextOperand fuel pending items) := by
  rw [bracketBody]
  rfl

theorem consumes_bracketBody (fuel : Nat) (pending : Option (SetOperation × Operand))
    (items : Items) : Consumes (bracketBody fuel pending items) := by
  induction fuel generalizing pending items with
  | zero => exact consumes_failure
  | succ fuel ih =>
      rw [bracketBody_succ]
      refine shrinks_passSpace.bind_consumes fun _ => shrinks_next.bind_consumes fun c => ?_
      split
      · refine shrinks_namedAsciiClass?.bind_consumes fun found => ?_
        split
        · exact ih _ _
        · exact consumes_bracketStart.bind fun found => (ih _ _).shrinks.bind fun inner =>
            (static_finishSet _ _).shrinks.bind fun set => (ih _ _).shrinks
      · exact consumes_pass.bind fun _ => static_flags.shrinks.bind fun _ => (static_pure _).shrinks
      · have hoperation (operation : SetOperation) :
            Consumes (afterOperation fuel pending items operation) :=
          static_flags.shrinks.bind_consumes fun _ => ih _ _
        refine (shrinks_passText _).bind_consumes fun found => ?_
        split
        · exact hoperation _
        · refine (shrinks_passText _).bind_consumes fun found => ?_
          split
          · exact hoperation _
          · refine (shrinks_passText _).bind_consumes fun found => ?_
            split
            · exact hoperation _
            · exact consumes_bracketRange.bind fun set => (ih _ _).shrinks

/-- The contents of classes are read alike with fewer steps than `fuel` and `fuel'`. -/
def BodiesAgree (dollars fuel fuel' : Nat) : Prop :=
  ∀ pending items place place', place.rest.length < fuel → place'.rest.length < fuel' →
    place.Before dollars place' →
      Agrees dollars (fun _ p => p.rest <:+ dollarSigns dollars)
        ((bracketBody fuel pending items).run place)
        ((bracketBody fuel' pending items).run place')

section Body

variable {dollars fuel fuel' : Nat} {rest : List Char}

/-- A class in another one is read steadily, and so is what follows it. -/
theorem BodiesAgree.nestedClass (h : BodiesAgree dollars fuel fuel') (hfuel : rest.length < fuel)
    (hfuel' : (rest ++ closing dollars).length < fuel')
    (pending : Option (SetOperation × Operand)) (items : Items) (c : Char) (flags : Flags)
    (names : List (List Char)) :
    Agrees dollars (fun _ p => p.rest <:+ dollarSigns dollars)
      ((nestedClass fuel pending items).run ⟨c :: rest, flags, names⟩)
      ((nestedClass fuel' pending items).run ⟨c :: rest ++ closing dollars, flags, names⟩) := by
  refine ((steadyAt_bracketStart c).agrees dollars rest flags names).bind
    (fun start p p' hrun hrun' hp => ?_) fun start p operand p' hlost hrun => ?_
  · have hle : p.rest.length ≤ rest.length := (consumes_bracketStart _ _ _ hrun).length_le
    have hle' : p'.rest.length ≤ (rest ++ closing dollars).length :=
      (consumes_bracketStart _ _ _ hrun').length_le
    refine (h none start.2 p p' (by omega) (by omega) hp).bind
      (fun inner q q' hinner hinner' hq => ?_) fun inner q operand q' hlost hrun => ?_
    · have hinner := (consumes_bracketBody _ _ _).shrinks.length_le hinner
      have hinner' := (consumes_bracketBody _ _ _).shrinks.length_le hinner'
      refine ((static_finishSet start.1 inner.set).agrees hq).bind
        (fun set r r' hset hset' hr => ?_) fun _ _ _ _ h => False.elim h
      have hset := (static_finishSet _ _).shrinks.length_le hset
      have hset' := (static_finishSet _ _).shrinks.length_le hset'
      exact h _ _ r r' (by omega) (by omega) hr
    · exact (((static_finishSet _ _).shrinks.bind fun set =>
        (consumes_bracketBody _ _ _).shrinks) _ _ _ hrun).trans hlost
  · have hconsumes := (consumes_bracketBody fuel' none start.2).bind fun inner =>
      (static_finishSet start.1 inner.set).shrinks.bind fun set =>
        (consumes_bracketBody fuel' pending (items.add set (inner.height + 1))).shrinks
    exact (hconsumes _ _ _ hrun).trans (tail_suffix_tail hlost)

/-- What follows a text that may be passed is read alike if it is so after the text and without
it. -/
theorem agrees_passText_bind {c : Char} {text : List Char} (htext : ')' ∉ c :: text)
    {goesOn : β → Place → Prop} {k k' : Bool → Reader β} {place place' : Place}
    (hbefore : place.Before dollars place')
    (htrue : ∀ p p', p.rest <:+ place.rest.tail → p'.rest <:+ place'.rest.tail →
      p.Before dollars p' → Agrees dollars goesOn ((k true).run p) ((k' true).run p'))
    (hfalse : Agrees dollars goesOn ((k false).run place) ((k' false).run place')) :
    Agrees dollars goesOn ((passText (c :: text) >>= k).run place)
      ((passText (c :: text) >>= k').run place') := by
  refine (agrees_passText htext hbefore).bind (fun found p p' hrun hrun' hp => ?_)
    fun _ _ _ _ h => h.elim
  cases found with
  | true => exact htrue p p' (suffix_of_passText hrun) (suffix_of_passText hrun') hp
  | false =>
      cases eq_of_passText hrun
      cases eq_of_passText hrun'
      exact hfalse

/-- Operations between items, and items, are read steadily, and so is what follows them. -/
theorem BodiesAgree.nextOperand (h : BodiesAgree dollars fuel fuel') (hfuel : rest.length < fuel)
    (hfuel' : (rest ++ closing dollars).length < fuel')
    (pending : Option (SetOperation × Operand)) (items : Items) (c : Char) (flags : Flags)
    (names : List (List Char)) :
    Agrees dollars (fun _ p => p.rest <:+ dollarSigns dollars)
      ((nextOperand fuel pending items).run ⟨c :: rest, flags, names⟩)
      ((nextOperand fuel' pending items).run ⟨c :: rest ++ closing dollars, flags, names⟩) := by
  have hoperation (operation : SetOperation) (p p' : Place) (hp : p.rest <:+ rest)
      (hp' : p'.rest <:+ rest ++ closing dollars) (hbefore : p.Before dollars p') :
      Agrees dollars (fun _ p => p.rest <:+ dollarSigns dollars)
        ((afterOperation fuel pending items operation).run p)
        ((afterOperation fuel' pending items operation).run p') := by
    have hle := hp.length_le
    have hle' := hp'.length_le
    refine (static_flags.agrees hbefore).bind (fun flags q q' hrun hrun' hq => ?_)
      fun _ _ _ _ h => False.elim h
    have hq := static_flags.shrinks.length_le hrun
    have hq' := static_flags.shrinks.length_le hrun'
    exact h _ _ q q' (by omega) (by omega) ‹_›
  have hbefore := @Place.Before.ahead dollars (c :: rest) flags names
  refine agrees_passText_bind (by decide) hbefore (hoperation .intersection) ?_
  refine agrees_passText_bind (by decide) hbefore (hoperation .difference) ?_
  refine agrees_passText_bind (by decide) hbefore (hoperation .symmetricDifference) ?_
  refine (steady_bracketRange.agrees _ _ _ hbefore).bind (fun set p p' hrun hrun' hp => ?_)
    fun set p operand p' hlost hrun => ?_
  · have hle : p.rest.length ≤ rest.length := (consumes_bracketRange _ _ _ hrun).length_le
    have hle' : p'.rest.length ≤ (rest ++ closing dollars).length :=
      (consumes_bracketRange _ _ _ hrun').length_le
    exact h _ _ p p' (by omega) (by omega) hp
  · exact (consumes_bracketBody _ _ _ _ _ _ hrun).trans (tail_suffix_tail hlost)

/-- The contents of classes are read steadily, however many steps are allowed. -/
theorem bodiesAgree (dollars fuel fuel' : Nat) : BodiesAgree dollars fuel fuel' := by
  induction fuel generalizing fuel' with
  | zero =>
      intro _ _ _ _ hfuel
      cases hfuel
  | succ fuel ih =>
      obtain _ | fuel' := fuel'
      · intro _ _ _ _ _ hfuel'
        cases hfuel'
      intro pending items place place' hfuel hfuel' hbefore
      rw [bracketBody_succ, bracketBody_succ]
      refine (agrees_passSpace hbefore).bind (fun _ p p' hrun hrun' hp => ?_)
        fun _ _ _ _ h => h.elim
      have hle := shrinks_passSpace.length_le hrun
      have hle' := shrinks_passSpace.length_le hrun'
      cases hp with
      | hidden flags names => exact .failed
      | ahead rest flags names =>
          cases rest with
          | nil =>
              -- The bracket is read as an item, which a class without an end cannot be.
              refine .missed fun operand p hrun => consumes_bracketBody (fuel' + 1) pending items
                ⟨closing dollars, flags, names⟩ operand p ?_
              rw [bracketBody_succ, StateT.run_bind, run_passSpace, spaced_closing]
              exact hrun
          | cons c rest =>
              simp only [List.length_cons, List.cons_append] at hle hle'
              rw [List.cons_append, StateT.run_bind, StateT.run_bind, run_next_cons, run_next_cons]
              dsimp only [Option.bind_eq_bind, Option.bind_some]
              split
              · refine (agrees_namedAsciiClass? (.ahead ('[' :: rest) flags names)).bind
                  (fun found p p' hrun hrun' hp => ?_) fun _ _ _ _ h => h.elim
                rcases cases_namedAsciiClass? hrun with ⟨rfl, rfl⟩ | ⟨hfound, hsuffix⟩
                · obtain ⟨-, rfl⟩ := (cases_namedAsciiClass? hrun').resolve_right (by simp)
                  exact (ih fuel').nestedClass (by omega) (by omega) pending items '[' flags names
                · obtain ⟨set, rfl⟩ := Option.ne_none_iff_exists'.mp hfound
                  obtain ⟨-, hsuffix'⟩ := (cases_namedAsciiClass? hrun').resolve_left (by simp)
                  have hlength : p.rest.length ≤ rest.length := hsuffix.length_le
                  have hlength' : p'.rest.length ≤ (rest ++ closing dollars).length :=
                    hsuffix'.length_le
                  exact ih fuel' _ _ p p' (by omega) (by omega) hp
              · exact .found (.ahead rest flags names)
              · exact (ih fuel').nextOperand (by omega) (by omega) pending items c flags names

end Body

theorem consumes_bracket : Consumes bracket :=
  consumes_bracketStart.bind fun _ => shrinks_get.bind fun _ =>
    (consumes_bracketBody _ _ _).shrinks.bind fun _ =>
      (static_finishSet _ _).shrinks.bind fun _ => (static_pure _).shrinks

/-- A class is read steadily. -/
theorem steadyAt_bracket (c : Char) : SteadyAt dollarSigns c bracket := by
  refine ⟨consumes_bracket.shrinks, fun dollars rest flags names => ?_⟩
  refine ((steadyAt_bracketStart c).agrees dollars rest flags names).bind
    (fun start p p' hrun hrun' hp => ?_) fun start p operand p' hlost hrun => ?_
  · rw [StateT.run_bind, StateT.run_bind, StateT.run_get, StateT.run_get]
    dsimp only [Option.pure_def, Option.bind_eq_bind, Option.bind_some]
    refine (bodiesAgree dollars _ _ none start.2 p p' (by omega) (by omega) hp).bind
      (fun body q q' _ _ hq => ?_) fun body q operand q' hlost hrun => ?_
    · exact ((static_finishSet _ _).bind fun _ => static_pure _).agrees hq
    · exact (((static_finishSet _ _).bind fun _ => static_pure _).shrinks _ _ _ hrun).trans hlost
  · have hconsumes := shrinks_get.bind_consumes fun place =>
      (consumes_bracketBody (place.rest.length + 1) none start.2).bind fun body =>
        ((static_finishSet start.1 body.set).bind fun set =>
          static_pure (⟨set, body.height + 1⟩ : Operand)).shrinks
    exact (hconsumes _ _ _ hrun).trans (tail_suffix_tail hlost)

end Reader
end Regex
end SchemaForm
