import SchemaForm.Proofs.Regex.Reading.Basic
import SchemaForm.Regex.Reading.Escape

/-!
# Escapes before a closing bracket

The readers of escapes are steady, but for one place.  An opening brace after `\b` may start the
name of an assertion.  If the pattern ends after the brace, it has no meaning.  If the end of a
group follows, the brace is left to be read as a repetition, which fails in turn.

Main results:

- Theorem `steady_hexEscape`, Theorem `steady_propertyEscape`: numbers of characters and names of
  properties are read steadily.
- Theorem `agrees_escape`: so are all escapes, but for a brace after `\b`.
-/

namespace SchemaForm
namespace Regex
namespace Reader

open Text (Charset)

variable {β : Type} {lost : Nat → List Char}

/-! ## Numbers of characters -/

theorem static_hexCharacter (digits : List Char) : Static (hexCharacter digits) := by
  unfold hexCharacter
  simp only [failure_bind]
  split
  · exact static_failure
  · split
    · exact static_pure _
    · exact static_failure

theorem steady_hexDigits (count : Nat) : Steady dollarSigns (hexDigits count) := by
  induction count with
  | zero => exact .pure []
  | succ count ih =>
      rw [hexDigits]
      simp only [failure_bind]
      refine .next_bind_consumes (fun c => ?_) ?_
      · split
        · exact Steady.failure.at c
        · exact (steadyAt_passWithSpace c).bind fun _ => ih.bind fun _ => .pure _
      · exact consumes_failure

theorem consumes_hexDigits (count : Nat) : Consumes (hexDigits (count + 1)) := by
  rw [hexDigits]
  simp only [failure_bind]
  refine shrinks_next.bind_consumes fun c => ?_
  split
  · exact consumes_failure
  · exact consumes_passWithSpace.bind fun _ =>
      (steady_hexDigits count).shrinks.bind fun _ => (static_pure _).shrinks

theorem steady_hexEscape (count : Nat) : Steady dollarSigns (hexEscape (count + 1)) := by
  unfold hexEscape
  simp only [failure_bind]
  refine steady_passSpace.bind fun _ => .next_bind_consumes (fun c => ?_) ?_
  · split
    · refine (steadyAt_passWithSpace c).bind fun _ =>
        (steady_takeAllLetters (by decide)).bind fun digits => .next_bind_consumes (fun c => ?_) ?_
      · split
        · exact Steady.failure.at c
        · exact (steadyAt_passWithSpace c).bind fun _ =>
            (static_hexCharacter digits).steady.bind fun _ => .pure _
      · exact consumes_failure
    · exact ((steady_hexDigits _).bind fun _ =>
        (static_hexCharacter _).steady.bind fun _ => .pure _).at c
  · exact (consumes_hexDigits count).bind fun _ =>
      (static_hexCharacter _).shrinks.bind fun _ => (static_pure _).shrinks

/-! ## Properties -/

/-- The letters of a name up to its closing brace are read steadily if what reads on needs the
brace. -/
theorem Steady.takeUntil_bind {k : List Char → Reader β}
    (hk : ∀ name, Steady dollarSigns (k name))
    (hend : ∀ name place, place.rest = [] → (k name).run place = none) :
    Steady dollarSigns (takeAllLetters (· != '\x7d') >>= k) := by
  refine ⟨shrinks_takeAllLetters.bind fun name => (hk name).shrinks,
    fun dollars place place' hbefore => ?_⟩
  obtain ⟨name, p, name', p', hrun, hrun', ⟨rfl, hbefore⟩ | ⟨-, hp, hp'⟩⟩ :=
    run_takeAllLetters_before (· != '\x7d') (fun _ => rfl) hbefore
  · rw [StateT.run_bind, StateT.run_bind, hrun, hrun']
    exact (hk name).agrees dollars p p' hbefore
  · rw [StateT.run_bind, StateT.run_bind, hrun, hrun']
    dsimp only [Option.bind_eq_bind, Option.bind_some]
    rw [hend name p hp, hend name' p' hp']
    exact .failed

theorem static_property (negated : Bool) (name : List Char) :
    Static (do
      if !(← flags).unicode then failure
      match namedSet name with
      | none => failure
      | some (set, inverted) => finishSet (negated != inverted) (.everything ∩ set)) := by
  refine static_flags.bind fun flags => ?_
  simp only [failure_bind]
  split
  · exact static_failure
  · split
    · exact static_failure
    · exact static_finishSet _ _

theorem steady_propertyEscape (negated : Bool) : Steady dollarSigns (propertyEscape negated) := by
  unfold propertyEscape
  refine steady_passSpace.bind fun _ => .next_bind_consumes (fun c => ?_) ?_
  · dsimp only
    split
    · refine (steadyAt_passWithSpace c).bind fun _ => .takeUntil_bind (fun name => ?_) ?_
      · refine .peek_bind ?_ (fun c => ?_) fun dollars flags names => ?_
        · exact consumes_failure.shrinks
        · exact (steadyAt_pass c).bind fun _ => (static_property negated name).steady
        · exact .missed fun _ _ hrun =>
            (consumes_pass.bind fun _ => (static_property negated name).shrinks) _ _ _ hrun
      · rintro name ⟨rest, flags, names⟩ rfl
        rfl
    · split
      · exact Steady.failure.at c
      · exact (steadyAt_passWithSpace c).bind fun _ => (static_property negated [c]).steady
  · exact consumes_passWithSpace.bind fun _ => (static_property negated _).shrinks

/-! ## Classes and assertions -/

theorem static_letterClass (inUnicode inAscii : Charset) (negated : Bool) :
    Static (letterClass inUnicode inAscii negated) := by
  refine static_flags.bind fun flags => ?_
  simp only [failure_bind]
  split
  · split
    · exact static_failure
    · exact static_pure _
  · exact static_pure _

/-- An opening brace with nothing after it but blanks and the end of a group. -/
def Braced (dollars : Nat) (place : Place) : Prop :=
  ∃ rest, place.rest = '\x7b' :: rest ∧ spaced place.flags rest = closing dollars

/-- Letters of the names of assertions. -/
def isAssertionLetter (c : Char) : Bool :=
  c.isAlpha || c == '-'

/-- The name of an assertion from its first letter on. -/
def assertionName : Reader Look := do
  let name ← takeAllLetters isAssertionLetter
  if (← next) ≠ '\x7d' then failure
  pass
  match String.ofList name with
  | "start" => return .wordStart
  | "end" => return .wordEnd
  | "start-half" => return .noWordBefore
  | "end-half" => return .noWordAfter
  | _ => failure

theorem steady_assertionName : Steady dollarSigns assertionName := by
  unfold assertionName
  simp only [failure_bind]
  refine (steady_takeAllLetters (by decide)).bind fun name =>
    .next_bind_consumes (fun c => ?_) consumes_failure
  split
  · exact Steady.failure.at c
  · refine (steadyAt_pass c).bind fun _ => ?_
    split
    all_goals first | exact .pure _ | exact .failure

theorem exists_of_head? {rest : List Char} (h : ¬ rest.head? ≠ some '\x7b') :
    ∃ after, rest = '\x7b' :: after := by
  cases rest <;> simp_all

/-- After `\b` a brace is left where it is if no name follows it. -/
theorem run_wordAssertion (rest : List Char) (flags : Flags) (names : List (List Char)) :
    wordAssertion.run ⟨rest, flags, names⟩ =
      if rest.head? ≠ some '\x7b' then some (.wordBoundary, ⟨rest, flags, names⟩)
      else
        match spaced flags rest.tail with
        | [] => none
        | c :: after =>
            if isAssertionLetter c then assertionName.run ⟨c :: after, flags, names⟩
            else some (.wordBoundary, ⟨rest, flags, names⟩) := by
  rw [wordAssertion, StateT.run_bind, run_peek?]
  dsimp only [Option.bind_eq_bind, Option.bind_some]
  split
  · rfl
  · rename_i hbrace
    obtain ⟨after, rfl⟩ := exists_of_head? hbrace
    simp only [StateT.run_bind, StateT.run_get, Option.pure_def, Option.bind_eq_bind,
      Option.bind_some, run_passWithSpace, List.tail_cons]
    cases spaced flags after with
    | nil => rfl
    | cons c more =>
        rw [run_next_cons]
        change (if (!isAssertionLetter c) = true then _ else assertionName : Reader Look).run _ =
          if isAssertionLetter c then _ else _
        cases isAssertionLetter c <;> rfl

theorem shrinks_wordAssertion : Shrinks wordAssertion := by
  rintro ⟨rest, flags, names⟩ look place' hrun
  rw [run_wordAssertion] at hrun
  split at hrun
  · cases hrun
    exact List.suffix_rfl
  · split at hrun
    · cases hrun
    · rename_i c after hspaced
      split at hrun
      · have hsuffix : c :: after <:+ rest :=
          hspaced ▸ (spaced_suffix flags rest.tail).trans (List.tail_suffix rest)
        exact (steady_assertionName.shrinks _ _ _ hrun).trans hsuffix
      · cases hrun
        exact List.suffix_rfl

/-- Assertions about words are read steadily, unless the pattern ends after an opening brace. -/
theorem agrees_wordAssertion {dollars : Nat} {place place' : Place}
    (hbefore : place.Before dollars place') :
    Agrees dollars
      (fun look p => p.rest <:+ dollarSigns dollars ∨ look = .wordBoundary ∧ Braced dollars p)
      (wordAssertion.run place) (wordAssertion.run place') := by
  cases hbefore with
  | hidden flags names => exact shrinks_wordAssertion.agrees_hidden flags names
  | ahead rest flags names =>
      have hhead : (rest ++ closing dollars).head? ≠ some '\x7b' ↔ rest.head? ≠ some '\x7b' := by
        cases rest <;> simp [closing]
      rw [run_wordAssertion, run_wordAssertion]
      simp only [hhead]
      split
      · exact .found (.ahead rest flags names)
      · rename_i hbrace
        obtain ⟨after, rfl⟩ := exists_of_head? hbrace
        have hbefore := spaced_before dollars after flags names
        simp only [List.cons_append, List.tail_cons]
        generalize spaced flags after = short at hbefore ⊢
        generalize hlong : spaced flags (after ++ closing dollars) = long at hbefore ⊢
        cases hbefore with
        | hidden => exact .failed
        | ahead =>
            cases short with
            | nil =>
                -- The bracket is no letter, so the brace is left before it.
                refine .missed fun look p heq => ?_
                cases heq
                exact .inr ⟨rfl, _, rfl, hlong⟩
            | cons c more =>
                dsimp only [List.cons_append]
                split
                · have hname := steady_assertionName.agrees dollars _ _
                    (.ahead (c :: more) flags names)
                  exact hname.weaken fun _ _ hlost => .inl hlost
                · exact .found (.ahead _ flags names)

/-! ## Escapes -/

/-- What follows the character after a backslash is read steadily, but for the assertion `\b`. -/
theorem exists_escape :
    ∃ k : Char → Reader Escape, escape = (next >>= fun c => pass >>= fun _ => k c) ∧
      k 'b' = (wordAssertion >>= fun look => pure (.look look)) ∧
      ∀ c, c ≠ 'b' → Steady dollarSigns (k c) := by
  refine ⟨_, rfl, rfl, fun c hc => ?_⟩
  split
  case h_20 => exact absurd rfl hc
  case h_24 =>
    split
    · exact .pure _
    · exact .failure
  all_goals first
    | exact .pure _
    | exact steady_hexEscape _
    | exact (steady_propertyEscape _).bind fun _ => .pure _
    | exact (static_letterClass _ _ _).steady.bind fun _ => .pure _

theorem consumes_escape : Consumes escape := by
  obtain ⟨k, hescape, hassertion, hk⟩ := exists_escape
  rw [hescape]
  refine shrinks_next.bind_consumes fun c => consumes_pass.bind fun _ => ?_
  by_cases hc : c = 'b'
  · rw [hc, hassertion]
    exact shrinks_wordAssertion.bind fun _ => (static_pure _).shrinks
  · exact (hk c hc).shrinks

/-- Escapes are read steadily, but for an opening brace after `\b` where the pattern ends. -/
theorem agrees_escape {dollars : Nat} {place place' : Place}
    (hbefore : place.Before dollars place') :
    Agrees dollars
      (fun found p => p.rest <:+ dollarSigns dollars ∨
        found = .look .wordBoundary ∧ Braced dollars p)
      (escape.run place) (escape.run place') := by
  cases hbefore with
  | hidden flags names => exact consumes_escape.shrinks.agrees_hidden flags names
  | ahead rest flags names =>
      obtain ⟨k, hescape, hassertion, hk⟩ := exists_escape
      cases rest with
      | nil =>
          have hshort : escape.run ⟨[], flags, names⟩ = none := by
            rw [hescape]
            rfl
          rw [hshort]
          exact .missed fun _ _ hrun => .inl (consumes_escape _ _ _ hrun)
      | cons c rest =>
          have hrun (after : List Char) :
              escape.run ⟨c :: after, flags, names⟩ = (k c).run ⟨after, flags, names⟩ := by
            rw [hescape]
            rfl
          rw [List.cons_append, hrun, hrun]
          by_cases hc : c = 'b'
          · rw [hc, hassertion]
            refine (agrees_wordAssertion (.ahead rest flags names)).bind
              (fun look p p' _ _ hbefore => .found hbefore) fun look p found p' hgoesOn heq => ?_
            cases heq
            rcases hgoesOn with hlost | ⟨rfl, hbraced⟩
            · exact .inl hlost
            · exact .inr ⟨rfl, hbraced⟩
          · exact ((hk c hc).agrees _ _ _ (.ahead rest flags names)).weaken fun _ _ hlost =>
              .inl hlost

end Reader
end Regex
end SchemaForm
