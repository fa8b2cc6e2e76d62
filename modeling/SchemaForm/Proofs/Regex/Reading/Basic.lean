import Mathlib.Data.List.Infix
import Mathlib.Data.List.TakeWhile
import SchemaForm.Regex.Reading.Basic

/-!
# Reading before a closing bracket

Readers of parts of a pattern, once where the pattern ends and once where the bracket that closes
a group follows it.  A reader is steady if both readings agree: they find the same and leave
the same, the second one with the bracket after it.  There are two exceptions.  In a comment the
bracket is passed over with the comment.  Where the pattern ends too early, the first reading fails,
and the second one fails as well or passes the bracket as if it were a character of the pattern.

Main results:

- Theorem `Agrees.bind`: readings that agree go on to agree.
- Theorem `Steady.bind`, Theorem `Steady.next_bind`: how steady readers are put together.
- Theorem `steady_passSpace`, Theorem `steady_takeAllLetters`: the readers of blanks and letters are
  steady.
-/

namespace SchemaForm
namespace Regex

/-- What follows a pattern in a group: the bracket that closes the group, and dollar signs. -/
def closing (dollars : Nat) : List Char :=
  ')' :: List.replicate dollars '$'

/-- A place of a pattern, and the same place where the pattern is followed by the end of a group.
If it is the end of the pattern, the end of the group may have been passed over. -/
inductive Place.Before (dollars : Nat) : Place → Place → Prop where
  | ahead (rest : List Char) (flags : Flags) (names : List (List Char)) :
      Before dollars ⟨rest, flags, names⟩ ⟨rest ++ closing dollars, flags, names⟩
  | hidden (flags : Flags) (names : List (List Char)) :
      Before dollars ⟨[], flags, names⟩ ⟨[], flags, names⟩

namespace Reader

variable {α β : Type}

/-! ## What readers leave -/

theorem run_bind_eq_some {m : Reader α} {k : α → Reader β} {place : Place} {x : β × Place} :
    (m >>= k).run place = some x ↔
      ∃ a place', m.run place = some (a, place') ∧ (k a).run place' = some x := by
  rw [StateT.run_bind, Option.bind_eq_bind, Option.bind_eq_some_iff]
  exact Prod.exists

/-- Readers that find the same and go on alike from there find the same. -/
theorem run_bind_congr {m m' : Reader α} {k k' : α → Reader β} {place : Place}
    (hm : m.run place = m'.run place)
    (hk : ∀ a p, m.run place = some (a, p) → (k a).run p = (k' a).run p) :
    (m >>= k).run place = (m' >>= k').run place := by
  rw [StateT.run_bind, StateT.run_bind, ← hm]
  cases hrun : m.run place with
  | none => rfl
  | some found => exact hk found.1 found.2 hrun

/-- A reader leaves an end of what was left. -/
def Shrinks (m : Reader α) : Prop :=
  ∀ place a place', m.run place = some (a, place') → place'.rest <:+ place.rest

/-- A reader passes the next character at least. -/
def Consumes (m : Reader α) : Prop :=
  ∀ place a place', m.run place = some (a, place') → place'.rest <:+ place.rest.tail

theorem Consumes.shrinks {m : Reader α} (h : Consumes m) : Shrinks m :=
  fun place a place' hrun => (h place a place' hrun).trans (List.tail_suffix _)

theorem Shrinks.length_le {m : Reader α} (h : Shrinks m) {place place' : Place} {a : α}
    (hrun : m.run place = some (a, place')) : place'.rest.length ≤ place.rest.length :=
  (h _ _ _ hrun).length_le

theorem Shrinks.bind {m : Reader α} {k : α → Reader β} (hm : Shrinks m)
    (hk : ∀ a, Shrinks (k a)) : Shrinks (m >>= k) := by
  intro place b place' hrun
  obtain ⟨a, middle, hfirst, hsecond⟩ := run_bind_eq_some.mp hrun
  exact (hk a _ _ _ hsecond).trans (hm _ _ _ hfirst)

theorem Consumes.bind {m : Reader α} {k : α → Reader β} (hm : Consumes m)
    (hk : ∀ a, Shrinks (k a)) : Consumes (m >>= k) := by
  intro place b place' hrun
  obtain ⟨a, middle, hfirst, hsecond⟩ := run_bind_eq_some.mp hrun
  exact (hk a _ _ _ hsecond).trans (hm _ _ _ hfirst)

/-- What is left after the first character of an end is an end of what is left after the first
character. -/
theorem tail_suffix_tail {l l' : List α} (h : l <:+ l') : l.tail <:+ l'.tail := by
  obtain ⟨front, rfl⟩ := h
  cases front with
  | nil => exact List.suffix_rfl
  | cons a front => exact (List.tail_suffix l).trans (List.suffix_append front l)

theorem Shrinks.bind_consumes {m : Reader α} {k : α → Reader β} (hm : Shrinks m)
    (hk : ∀ a, Consumes (k a)) : Consumes (m >>= k) := by
  intro place b place' hrun
  obtain ⟨a, middle, hfirst, hsecond⟩ := run_bind_eq_some.mp hrun
  exact (hk a _ _ _ hsecond).trans (tail_suffix_tail (hm _ _ _ hfirst))

theorem consumes_failure : Consumes (failure : Reader α) := by
  intro place a place' hrun
  cases hrun

theorem shrinks_get : Shrinks (get : Reader Place) := by
  intro place found place' hrun
  cases hrun
  exact List.suffix_rfl

/-- A reader that only looks at the flags. -/
def Static (m : Reader α) : Prop :=
  ∃ find : Flags → Option α, ∀ place, m.run place = (find place.flags).map (·, place)

theorem static_pure (a : α) : Static (pure a : Reader α) :=
  ⟨fun _ => some a, fun _ => rfl⟩

theorem static_failure : Static (failure : Reader α) :=
  ⟨fun _ => none, fun _ => rfl⟩

theorem static_flags : Static flags :=
  ⟨fun flags => some flags, fun _ => rfl⟩

theorem Static.bind {m : Reader α} {k : α → Reader β} (hm : Static m) (hk : ∀ a, Static (k a)) :
    Static (m >>= k) := by
  obtain ⟨find, hfind⟩ := hm
  choose next hnext using hk
  refine ⟨fun flags => (find flags).bind fun a => next a flags, fun place => ?_⟩
  rw [StateT.run_bind, hfind]
  dsimp only
  cases find place.flags with
  | none => rfl
  | some a => exact hnext a place

theorem Static.eq_of_run {m : Reader α} (h : Static m) {place place' : Place} {a : α}
    (hrun : m.run place = some (a, place')) : place' = place := by
  obtain ⟨find, hfind⟩ := h
  rw [hfind, Option.map_eq_some_iff] at hrun
  obtain ⟨_, -, heq⟩ := hrun
  cases heq
  rfl

theorem Static.shrinks {m : Reader α} (h : Static m) : Shrinks m := by
  intro place a place' hrun
  rw [h.eq_of_run hrun]

/-! ## Readings that agree -/

/-- Two readings, without and with the end of a group after the pattern, agree: they find the same
at places that correspond, or the first one fails and the second one goes on from there. -/
structure Agrees (dollars : Nat) (goesOn : α → Place → Prop) (short long : Option (α × Place)) :
    Prop where
  of_some : ∀ a place, short = some (a, place) →
    ∃ place', long = some (a, place') ∧ place.Before dollars place'
  of_none : short = none → ∀ a place', long = some (a, place') → goesOn a place'

namespace Agrees

variable {dollars : Nat} {goesOn : α → Place → Prop} {goesOn' : β → Place → Prop}

theorem found {a : α} {place place' : Place} (h : place.Before dollars place') :
    Agrees dollars goesOn (some (a, place)) (some (a, place')) where
  of_some a' p heq := by
    cases heq
    exact ⟨place', rfl, h⟩
  of_none heq := by cases heq

theorem missed {long : Option (α × Place)}
    (h : ∀ a place', long = some (a, place') → goesOn a place') :
    Agrees dollars goesOn none long where
  of_some a p heq := by cases heq
  of_none _ := h

theorem failed : Agrees dollars goesOn none none :=
  missed fun _ _ heq => by cases heq

theorem weaken {goesOn' : α → Place → Prop} {short long : Option (α × Place)}
    (h : Agrees dollars goesOn short long) (hweaken : ∀ a p, goesOn a p → goesOn' a p) :
    Agrees dollars goesOn' short long :=
  ⟨h.of_some, fun hshort a p hlong => hweaken a p (h.of_none hshort a p hlong)⟩

/-- Readings that agree go on to agree. -/
theorem bind {m m' : Reader α} {k k' : α → Reader β} {place place' : Place}
    (h : Agrees dollars goesOn (m.run place) (m'.run place'))
    (hsome : ∀ a p p', m.run place = some (a, p) → m'.run place' = some (a, p') →
      p.Before dollars p' → Agrees dollars goesOn' ((k a).run p) ((k' a).run p'))
    (hnone : ∀ a p b p', goesOn a p → (k' a).run p = some (b, p') → goesOn' b p') :
    Agrees dollars goesOn' ((m >>= k).run place) ((m' >>= k').run place') := by
  cases hshort : m.run place with
  | none =>
      constructor
      · intro b p hrun
        obtain ⟨a, _, hfirst, -⟩ := run_bind_eq_some.mp hrun
        rw [hshort] at hfirst
        cases hfirst
      · intro _ b p' hrun
        obtain ⟨a, p, hfirst, hsecond⟩ := run_bind_eq_some.mp hrun
        exact hnone a p b p' (h.of_none hshort a p hfirst) hsecond
  | some found =>
      obtain ⟨a, p⟩ := found
      obtain ⟨p', hlong, hbefore⟩ := h.of_some a p hshort
      have hnext := hsome a p p' hshort hlong hbefore
      rw [StateT.run_bind, StateT.run_bind, hshort, hlong]
      exact hnext

end Agrees

/-! ## Steady readers -/

/-- The readings of a reader agree wherever the pattern ends.  Where the first one fails, what the
second one leaves is not more than `lost`. -/
structure Steady (lost : Nat → List Char) (m : Reader α) : Prop where
  shrinks : Shrinks m
  agrees : ∀ dollars place place', place.Before dollars place' →
    Agrees dollars (fun _ p => p.rest <:+ lost dollars) (m.run place) (m.run place')

/-- The readings of a reader agree wherever a character comes next. -/
structure SteadyAt (lost : Nat → List Char) (c : Char) (m : Reader α) : Prop where
  shrinks : Shrinks m
  agrees : ∀ dollars rest flags names,
    Agrees dollars (fun _ p => p.rest <:+ lost dollars) (m.run ⟨c :: rest, flags, names⟩)
      (m.run ⟨c :: rest ++ closing dollars, flags, names⟩)

/-- What is left when the bracket after a pattern has been passed. -/
def dollarSigns (dollars : Nat) : List Char :=
  List.replicate dollars '$'

variable {lost : Nat → List Char} {m : Reader α} {k : α → Reader β}

theorem dollarSigns_suffix (dollars : Nat) : dollarSigns dollars <:+ closing dollars :=
  List.suffix_cons _ _

theorem Steady.at (h : Steady lost m) (c : Char) : SteadyAt lost c m :=
  ⟨h.shrinks, fun dollars rest flags names =>
    h.agrees dollars _ _ (.ahead (c :: rest) flags names)⟩

theorem Static.agrees (h : Static m) {dollars : Nat} {goesOn : α → Place → Prop}
    {place place' : Place} (hbefore : place.Before dollars place') :
    Agrees dollars goesOn (m.run place) (m.run place') := by
  obtain ⟨find, hfind⟩ := h
  have hflags : place'.flags = place.flags := by
    cases hbefore <;> rfl
  rw [hfind, hfind, hflags]
  cases find place.flags with
  | none => exact .failed
  | some a => exact .found hbefore

theorem Static.steady (h : Static m) : Steady lost m :=
  ⟨h.shrinks, fun _ _ _ hbefore => h.agrees hbefore⟩

theorem Steady.pure (a : α) : Steady lost (pure a) :=
  (static_pure a).steady

theorem Steady.failure : Steady lost (failure : Reader α) :=
  static_failure.steady

theorem Steady.bind (hm : Steady lost m) (hk : ∀ a, Steady lost (k a)) : Steady lost (m >>= k) where
  shrinks := hm.shrinks.bind fun a => (hk a).shrinks
  agrees dollars place place' hbefore :=
    (hm.agrees dollars place place' hbefore).bind
      (fun a p p' _ _ hbefore => (hk a).agrees dollars p p' hbefore)
      fun a _ _ _ hlost hrun => ((hk a).shrinks _ _ _ hrun).trans hlost

theorem SteadyAt.bind {c : Char} (hm : SteadyAt lost c m) (hk : ∀ a, Steady lost (k a)) :
    SteadyAt lost c (m >>= k) where
  shrinks := hm.shrinks.bind fun a => (hk a).shrinks
  agrees dollars rest flags names :=
    (hm.agrees dollars rest flags names).bind
      (fun a p p' _ _ hbefore => (hk a).agrees dollars p p' hbefore)
      fun a _ _ _ hlost hrun => ((hk a).shrinks _ _ _ hrun).trans hlost

/-- Where the end of the group has been passed over, both readings are the same. -/
theorem Shrinks.agrees_hidden (hm : Shrinks m) {dollars : Nat} {goesOn : α → Place → Prop}
    (flags : Flags) (names : List (List Char)) :
    Agrees dollars goesOn (m.run ⟨[], flags, names⟩) (m.run ⟨[], flags, names⟩) := by
  cases hrun : m.run ⟨[], flags, names⟩ with
  | none => exact .failed
  | some found =>
      obtain ⟨a, rest, flags', names'⟩ := found
      have hrest : rest = [] := List.suffix_nil.mp (hm _ _ _ hrun)
      subst hrest
      exact .found (.hidden flags' names')

/-! ## Next characters -/

theorem run_next_cons (c : Char) (rest : List Char) (flags : Flags) (names : List (List Char)) :
    next.run ⟨c :: rest, flags, names⟩ = some (c, ⟨c :: rest, flags, names⟩) :=
  rfl

theorem run_peek? (place : Place) : peek?.run place = some (place.rest.head?, place) :=
  rfl

theorem shrinks_next : Shrinks next := by
  intro place c place' hrun
  obtain ⟨_ | ⟨c', rest⟩, flags, names⟩ := place
  · cases hrun
  · cases hrun
    exact List.suffix_rfl

/-- A reader that starts with the next character is steady if it is so whatever this character is.
Where the pattern ends, it goes on from the bracket. -/
theorem Steady.next_bind {k : Char → Reader β} (hk : ∀ c, SteadyAt lost c (k c))
    (hclosing : ∀ dollars flags names b p,
      (k ')').run ⟨closing dollars, flags, names⟩ = some (b, p) → p.rest <:+ lost dollars) :
    Steady lost (next >>= k) := by
  refine ⟨shrinks_next.bind fun c => (hk c).shrinks, fun dollars place place' hbefore => ?_⟩
  cases hbefore with
  | hidden flags names => exact .failed
  | ahead rest flags names =>
      cases rest with
      | nil => exact .missed (hclosing dollars flags names)
      | cons c rest => exact (hk c).agrees dollars rest flags names

/-- It may stop before the bracket. -/
theorem Steady.next_bind_closing {k : Char → Reader β} (hk : ∀ c, SteadyAt closing c (k c)) :
    Steady closing (next >>= k) :=
  .next_bind hk fun _ _ _ _ _ hrun => (hk ')').shrinks _ _ _ hrun

/-- If it would pass the bracket as a character, nothing but dollar signs is left. -/
theorem Steady.next_bind_consumes {k : Char → Reader β} (hk : ∀ c, SteadyAt dollarSigns c (k c))
    (hconsumes : Consumes (k ')')) : Steady dollarSigns (next >>= k) :=
  .next_bind hk fun _ _ _ _ _ hrun => hconsumes _ _ _ hrun

theorem shrinks_peek? : Shrinks peek? := by
  intro place found place' hrun
  cases hrun
  exact List.suffix_rfl

/-- A reader that looks for a next character is steady if it is so whatever this character is, and
if it does not tell the bracket from the end of the pattern. -/
theorem Steady.peek_bind {k : Option Char → Reader β} (hnone : Shrinks (k none))
    (hsome : ∀ c, SteadyAt lost c (k (some c)))
    (hclosing : ∀ dollars flags names,
      Agrees dollars (fun _ p => p.rest <:+ lost dollars) ((k none).run ⟨[], flags, names⟩)
        ((k (some ')')).run ⟨closing dollars, flags, names⟩)) :
    Steady lost (peek? >>= k) := by
  refine ⟨shrinks_peek?.bind fun found => ?_, fun dollars place place' hbefore => ?_⟩
  · cases found with
    | none => exact hnone
    | some c => exact (hsome c).shrinks
  · cases hbefore with
    | hidden flags names => exact hnone.agrees_hidden flags names
    | ahead rest flags names =>
        cases rest with
        | nil => exact hclosing dollars flags names
        | cons c rest => exact (hsome c).agrees dollars rest flags names

theorem consumes_pass : Consumes pass := by
  intro place u place' hrun
  cases hrun
  exact List.suffix_rfl

theorem steadyAt_pass (c : Char) : SteadyAt lost c pass where
  shrinks := consumes_pass.shrinks
  agrees _ rest flags names := .found (.ahead rest flags names)

/-! ## Blanks -/

/-- A comment hides the end of a group; blanks do not. -/
theorem dropSpace_closing (inComment : Bool) (dollars : Nat) :
    dropSpace inComment (closing dollars) = if inComment then [] else closing dollars := by
  have hdollars : dropSpace true (List.replicate dollars '$') = [] := by
    induction dollars with
    | zero => rfl
    | succ dollars ih => rw [List.replicate_succ, dropSpace]; exact ih
  cases inComment with
  | false => rfl
  | true => exact hdollars

/-- What blanks and comments leave of a pattern they also leave before the end of a group, unless
the pattern ends in a comment. -/
theorem dropSpace_append (inComment : Bool) (rest : List Char) (dollars : Nat) :
    dropSpace inComment (rest ++ closing dollars) = dropSpace inComment rest ++ closing dollars ∨
      dropSpace inComment rest = [] ∧ dropSpace inComment (rest ++ closing dollars) = [] := by
  fun_induction dropSpace inComment rest with
  | case1 inComment =>
      rw [List.nil_append, dropSpace_closing]
      cases inComment <;> simp
  | case2 c rest ih => simpa only [List.cons_append, dropSpace] using ih
  | case3 c rest hblank ih => simpa only [List.cons_append, dropSpace, hblank, if_true] using ih
  | case4 rest hblank ih => simpa [dropSpace, hblank] using ih
  | case5 c rest hblank hmark =>
      left
      simp [dropSpace, hblank, hmark]

theorem dropSpace_suffix (inComment : Bool) (rest : List Char) :
    dropSpace inComment rest <:+ rest := by
  fun_induction dropSpace inComment rest with
  | case1 => exact List.suffix_rfl
  | case2 c rest ih => exact ih.trans (List.suffix_cons c rest)
  | case3 c rest _ ih => exact ih.trans (List.suffix_cons c rest)
  | case4 rest _ ih => exact ih.trans (List.suffix_cons '#' rest)
  | case5 => exact List.suffix_rfl

/-- What is left after blanks and comments, which count for nothing in extended notation only. -/
def spaced (flags : Flags) (rest : List Char) : List Char :=
  if flags.extended then dropSpace false rest else rest

theorem run_passSpace (rest : List Char) (flags : Flags) (names : List (List Char)) :
    passSpace.run ⟨rest, flags, names⟩ = some ((), ⟨spaced flags rest, flags, names⟩) := by
  unfold spaced
  cases hextended : flags.extended <;> simp [passSpace, hextended]

theorem run_passWithSpace (c : Char) (rest : List Char) (flags : Flags)
    (names : List (List Char)) :
    passWithSpace.run ⟨c :: rest, flags, names⟩ = some ((), ⟨spaced flags rest, flags, names⟩) :=
  run_passSpace rest flags names

theorem spaced_suffix (flags : Flags) (rest : List Char) : spaced flags rest <:+ rest := by
  unfold spaced
  split
  · exact dropSpace_suffix false rest
  · exact List.suffix_rfl

@[simp]
theorem spaced_nil (flags : Flags) : spaced flags [] = [] := by
  simp [spaced, dropSpace_nil]

theorem spaced_before (dollars : Nat) (rest : List Char) (flags : Flags)
    (names : List (List Char)) :
    Place.Before dollars ⟨spaced flags rest, flags, names⟩
      ⟨spaced flags (rest ++ closing dollars), flags, names⟩ := by
  unfold spaced
  split
  · rcases dropSpace_append false rest dollars with happend | ⟨hshort, hlong⟩
    · rw [happend]
      exact .ahead _ flags names
    · rw [hshort, hlong]
      exact .hidden flags names
  · exact .ahead rest flags names

theorem shrinks_passSpace : Shrinks passSpace := by
  intro place u place' hrun
  rw [run_passSpace] at hrun
  cases hrun
  exact spaced_suffix _ _

theorem agrees_passSpace {dollars : Nat} {place place' : Place}
    (hbefore : place.Before dollars place') :
    Agrees dollars (fun _ _ => False) (passSpace.run place) (passSpace.run place') := by
  cases hbefore with
  | hidden flags names => exact shrinks_passSpace.agrees_hidden flags names
  | ahead rest flags names =>
      rw [run_passSpace, run_passSpace]
      exact .found (spaced_before dollars rest flags names)

theorem steady_passSpace : Steady lost passSpace :=
  ⟨shrinks_passSpace, fun _ _ _ hbefore => (agrees_passSpace hbefore).weaken fun _ _ h => h.elim⟩

/-- There are no blanks before the bracket. -/
theorem spaced_closing (flags : Flags) (dollars : Nat) :
    spaced flags (closing dollars) = closing dollars := by
  unfold spaced
  split
  · exact dropSpace_closing false dollars
  · rfl

theorem consumes_passWithSpace : Consumes passWithSpace :=
  consumes_pass.bind fun _ => shrinks_passSpace

theorem steadyAt_passWithSpace (c : Char) : SteadyAt lost c passWithSpace :=
  (steadyAt_pass c).bind fun _ => steady_passSpace

/-- Blanks alone do not hide the end of a group. -/
theorem dropWhile_isBlank_append (rest : List Char) (dollars : Nat) :
    (rest ++ closing dollars).dropWhile Text.isBlank =
      rest.dropWhile Text.isBlank ++ closing dollars := by
  have hclosing : (closing dollars).dropWhile Text.isBlank = closing dollars := rfl
  rw [List.dropWhile_append, hclosing]
  split
  · rename_i hnil
    rw [List.isEmpty_iff.mp hnil, List.nil_append]
  · rfl

/-! ## Letters -/

section Letters

variable (isLetter : Char → Bool)

theorem run_takeLetters_nil (fuel : Nat) (flags : Flags) (names : List (List Char)) :
    (takeLetters isLetter fuel).run ⟨[], flags, names⟩ = some ([], ⟨[], flags, names⟩) := by
  cases fuel <;> rfl

theorem run_takeLetters_cons (fuel : Nat) (c : Char) (rest : List Char) (flags : Flags)
    (names : List (List Char)) :
    (takeLetters isLetter (fuel + 1)).run ⟨c :: rest, flags, names⟩ =
      if isLetter c then
        (takeLetters isLetter fuel >>= fun letters => pure (c :: letters)).run
          ⟨spaced flags rest, flags, names⟩
      else some ([], ⟨c :: rest, flags, names⟩) := by
  rw [takeLetters, StateT.run_bind, run_peek?]
  dsimp only [Option.bind_eq_bind, Option.bind_some, List.head?_cons]
  split
  · rw [StateT.run_bind, run_passWithSpace]
    rfl
  · rfl

theorem shrinks_takeLetters (fuel : Nat) : Shrinks (takeLetters isLetter fuel) := by
  induction fuel with
  | zero => exact (static_pure []).shrinks
  | succ fuel ih =>
      rintro ⟨_ | ⟨c, rest⟩, flags, names⟩ letters place' hrun
      · rw [run_takeLetters_nil] at hrun
        cases hrun
        exact List.suffix_rfl
      · rw [run_takeLetters_cons] at hrun
        split at hrun
        · have hsuffix := (ih.bind fun letters => (static_pure (c :: letters)).shrinks) _ _ _ hrun
          exact hsuffix.trans ((spaced_suffix flags rest).trans (List.suffix_cons c rest))
        · cases hrun
          exact List.suffix_rfl

variable {isLetter}

theorem run_takeLetters_stop {c : Char} (hc : isLetter c = false) (fuel : Nat) (rest : List Char)
    (flags : Flags) (names : List (List Char)) :
    (takeLetters isLetter fuel).run ⟨c :: rest, flags, names⟩ =
      some ([], ⟨c :: rest, flags, names⟩) := by
  cases fuel with
  | zero => rfl
  | succ fuel => rw [run_takeLetters_cons, hc, if_neg (by decide)]

/-- Letters of all kinds leave nothing. -/
theorem run_takeLetters_all {fuel : Nat} {place : Place} (hfuel : place.rest.length ≤ fuel)
    (hall : ∀ c ∈ place.rest, isLetter c = true) :
    ∃ letters, (takeLetters isLetter fuel).run place =
      some (letters, ⟨[], place.flags, place.names⟩) := by
  induction fuel generalizing place with
  | zero =>
      obtain ⟨rest, flags, names⟩ := place
      cases List.length_eq_zero_iff.mp (Nat.le_zero.mp hfuel)
      exact ⟨[], run_takeLetters_nil isLetter 0 flags names⟩
  | succ fuel ih =>
      obtain ⟨_ | ⟨c, rest⟩, flags, names⟩ := place
      · exact ⟨[], run_takeLetters_nil isLetter _ flags names⟩
      · have hsuffix := spaced_suffix flags rest
        have hlength := hsuffix.length_le
        obtain ⟨letters, hrun⟩ := @ih ⟨spaced flags rest, flags, names⟩
          (by simp only [List.length_cons] at hfuel ⊢; omega)
          fun c' hc' => hall c' (List.mem_cons_of_mem c (hsuffix.subset hc'))
        refine ⟨c :: letters, ?_⟩
        rw [run_takeLetters_cons, if_pos (hall c List.mem_cons_self), StateT.run_bind, hrun]
        rfl

/-- Letters stop before the end of a group or pass all of it. -/
theorem run_takeLetters_closing (hclosing : isLetter ')' = true → isLetter '$' = true)
    {dollars fuel : Nat} (hfuel : (closing dollars).length ≤ fuel) (flags : Flags)
    (names : List (List Char)) :
    (takeLetters isLetter fuel).run ⟨closing dollars, flags, names⟩ =
        some ([], ⟨closing dollars, flags, names⟩) ∨
      isLetter ')' = true ∧ ∃ letters,
        (takeLetters isLetter fuel).run ⟨closing dollars, flags, names⟩ =
          some (letters, ⟨[], flags, names⟩) := by
  cases hbracket : isLetter ')' with
  | false => exact .inl (run_takeLetters_stop hbracket fuel _ flags names)
  | true =>
      have hall : ∀ c ∈ closing dollars, isLetter c = true := by
        intro c hc
        rcases List.mem_cons.mp hc with rfl | hc
        · exact hbracket
        · rw [List.eq_of_mem_replicate hc]
          exact hclosing hbracket
      exact .inr ⟨rfl, run_takeLetters_all hfuel hall⟩

/-- Letters stop in the pattern or where it ends, unless the bracket is a letter as well: then they
may pass all of the pattern with the end of the group. -/
theorem run_takeLetters_before (hclosing : isLetter ')' = true → isLetter '$' = true)
    {dollars fuel fuel' : Nat} {place place' : Place} (hfuel : place.rest.length ≤ fuel)
    (hfuel' : place'.rest.length ≤ fuel') (hbefore : place.Before dollars place') :
    ∃ letters p letters' p', (takeLetters isLetter fuel).run place = some (letters, p) ∧
      (takeLetters isLetter fuel').run place' = some (letters', p') ∧
      (letters = letters' ∧ p.Before dollars p' ∨
        isLetter ')' = true ∧ p.rest = [] ∧ p'.rest = []) := by
  induction fuel using Nat.strong_induction_on generalizing fuel' place place' with
  | _ fuel ih =>
      cases hbefore with
      | hidden flags names =>
          exact ⟨_, _, _, _, run_takeLetters_nil _ _ _ _, run_takeLetters_nil _ _ _ _,
            .inl ⟨rfl, .hidden flags names⟩⟩
      | ahead rest flags names =>
          cases rest with
          | nil =>
              obtain hlong | ⟨hbracket, letters', hlong⟩ :=
                run_takeLetters_closing hclosing hfuel' flags names
              · exact ⟨_, _, _, _, run_takeLetters_nil _ _ _ _, hlong,
                  .inl ⟨rfl, .ahead [] flags names⟩⟩
              · exact ⟨_, _, _, _, run_takeLetters_nil _ _ _ _, hlong, .inr ⟨hbracket, rfl, rfl⟩⟩
          | cons c rest =>
              obtain _ | fuel := fuel
              · cases hfuel
              obtain _ | fuel' := fuel'
              · cases hfuel'
              rw [List.cons_append, run_takeLetters_cons, run_takeLetters_cons]
              split
              · have hshort := (spaced_suffix flags rest).length_le
                have hlong := (spaced_suffix flags (rest ++ closing dollars)).length_le
                simp only [List.length_cons, List.cons_append] at hfuel hfuel'
                obtain ⟨letters, p, letters', p', hrun, hrun', hend⟩ :=
                  @ih fuel (by omega) fuel' ⟨spaced flags rest, flags, names⟩
                    ⟨spaced flags (rest ++ closing dollars), flags, names⟩
                    (by dsimp only; omega) (by dsimp only; omega)
                    (spaced_before dollars rest flags names)
                refine ⟨c :: letters, p, c :: letters', p', ?_, ?_, ?_⟩
                · rw [StateT.run_bind, hrun]
                  rfl
                · rw [StateT.run_bind, hrun']
                  rfl
                · rcases hend with ⟨rfl, hbefore⟩ | hend
                  · exact .inl ⟨rfl, hbefore⟩
                  · exact .inr hend
              · exact ⟨_, _, _, _, rfl, rfl, .inl ⟨rfl, .ahead (c :: rest) flags names⟩⟩

theorem shrinks_takeAllLetters : Shrinks (takeAllLetters isLetter) :=
  fun place letters place' hrun => shrinks_takeLetters isLetter _ place letters place' hrun

theorem run_takeAllLetters_before (isLetter : Char → Bool)
    (hclosing : isLetter ')' = true → isLetter '$' = true) {dollars : Nat} {place place' : Place}
    (hbefore : place.Before dollars place') :
    ∃ letters p letters' p', (takeAllLetters isLetter).run place = some (letters, p) ∧
      (takeAllLetters isLetter).run place' = some (letters', p') ∧
      (letters = letters' ∧ p.Before dollars p' ∨
        isLetter ')' = true ∧ p.rest = [] ∧ p'.rest = []) :=
  run_takeLetters_before hclosing le_rfl le_rfl hbefore

/-- Letters other than the bracket end where the group ends. -/
theorem agrees_takeAllLetters (hclosing : isLetter ')' = false) {dollars : Nat}
    {place place' : Place} (hbefore : place.Before dollars place') :
    Agrees dollars (fun _ _ => False) ((takeAllLetters isLetter).run place)
      ((takeAllLetters isLetter).run place') := by
  obtain ⟨letters, p, letters', p', hrun, hrun', ⟨rfl, hbefore⟩ | ⟨hletter, -⟩⟩ :=
    run_takeAllLetters_before isLetter (by simp [hclosing]) hbefore
  · rw [hrun, hrun']
    exact .found hbefore
  · rw [hclosing] at hletter
    cases hletter

theorem steady_takeAllLetters (hclosing : isLetter ')' = false) :
    Steady lost (takeAllLetters isLetter) :=
  ⟨shrinks_takeAllLetters, fun _ _ _ hbefore =>
    (agrees_takeAllLetters hclosing hbefore).weaken fun _ _ h => h.elim⟩

end Letters

/-! ## Texts -/

/-- A text without a bracket comes next before the end of a group where it comes next in the
pattern. -/
theorem isPrefixOf_append {text : List Char} (htext : ')' ∉ text) (rest : List Char)
    (dollars : Nat) : text.isPrefixOf (rest ++ closing dollars) = text.isPrefixOf rest := by
  induction text generalizing rest with
  | nil => rfl
  | cons c text ih =>
      rw [List.mem_cons, not_or] at htext
      cases rest with
      | nil => simp [closing, List.isPrefixOf, Ne.symm htext.1]
      | cons c' rest => simp [List.isPrefixOf, ih htext.2]

/-- A name that ends at a character of a pattern ends there whatever follows the pattern, and one
that passes all of it passes the end of a group, if that does not have the character. -/
theorem span_append (stop : Char) (hbracket : stop ≠ ')') (hdollar : stop ≠ '$')
    (rest : List Char) (dollars : Nat) :
    (rest ++ closing dollars).takeWhile (· != stop) = rest.takeWhile (· != stop) ∧
        (rest ++ closing dollars).dropWhile (· != stop) =
          rest.dropWhile (· != stop) ++ closing dollars ∨
      rest.dropWhile (· != stop) = [] ∧ (rest ++ closing dollars).dropWhile (· != stop) = [] := by
  induction rest with
  | nil =>
      refine .inr ⟨rfl, List.dropWhile_eq_nil_iff.mpr fun c hc => ?_⟩
      rw [List.nil_append, closing, List.mem_cons] at hc
      rcases hc with rfl | hc
      · simpa using hbracket.symm
      · rw [List.eq_of_mem_replicate hc]
        simpa using hdollar.symm
  | cons c rest ih =>
      by_cases hc : c = stop
      · simp [hc]
      · simpa [hc] using ih

theorem run_passText (text rest : List Char) (flags : Flags) (names : List (List Char)) :
    (passText text).run ⟨rest, flags, names⟩ =
      if text.isPrefixOf rest then some (true, ⟨rest.drop text.length, flags, names⟩)
      else some (false, ⟨rest, flags, names⟩) := by
  unfold passText
  simp only [StateT.run_bind, StateT.run_get, Option.pure_def, Option.bind_eq_bind,
    Option.bind_some]
  split <;> rfl

theorem shrinks_passText (text : List Char) : Shrinks (passText text) := by
  intro place found place' hrun
  rw [run_passText] at hrun
  split at hrun
  · cases hrun
    exact List.drop_suffix _ _
  · cases hrun
    exact List.suffix_rfl

/-- A text that is passed is not left. -/
theorem suffix_of_passText {c : Char} {text : List Char} {place place' : Place}
    (hrun : (passText (c :: text)).run place = some (true, place')) :
    place'.rest <:+ place.rest.tail := by
  obtain ⟨rest, flags, names⟩ := place
  rw [run_passText] at hrun
  split at hrun
  · cases hrun
    cases rest with
    | nil => exact List.suffix_rfl
    | cons c' rest => exact List.drop_suffix text.length rest
  · cases hrun

theorem eq_of_passText {text : List Char} {place place' : Place}
    (hrun : (passText text).run place = some (false, place')) : place' = place := by
  rw [run_passText] at hrun
  split at hrun
  · cases hrun
  · cases hrun
    rfl

theorem agrees_passText {text : List Char} (htext : ')' ∉ text) {dollars : Nat}
    {place place' : Place} (hbefore : place.Before dollars place') :
    Agrees dollars (fun _ _ => False) ((passText text).run place) ((passText text).run place') := by
  cases hbefore with
  | hidden flags names => exact (shrinks_passText text).agrees_hidden flags names
  | ahead rest flags names =>
      rw [run_passText, run_passText, isPrefixOf_append htext]
      split
      · rename_i hprefix
        rw [List.drop_append_of_le_length (List.isPrefixOf_iff_prefix.mp hprefix).length_le]
        exact .found (.ahead _ flags names)
      · exact .found (.ahead rest flags names)

theorem steady_passText {text : List Char} (htext : ')' ∉ text) : Steady lost (passText text) :=
  ⟨shrinks_passText text, fun _ _ _ hbefore =>
    (agrees_passText htext hbefore).weaken fun _ _ h => h.elim⟩

/-! ## Sets -/

theorem static_finishSet (negated : Bool) (set : Text.Charset) : Static (finishSet negated set) :=
  static_flags.bind fun flags => by
    dsimp only
    generalize (if negated then domain flags \ foldSet flags set else foldSet flags set) = finished
    split
    · exact static_failure.bind fun _ => static_pure _
    · exact static_pure _

theorem static_anyCharacter : Static anyCharacter :=
  static_flags.bind fun flags => by
    dsimp only
    split
    · exact static_failure
    · split
      · exact static_pure _
      · split <;> exact static_pure _

end Reader
end Regex
end SchemaForm
