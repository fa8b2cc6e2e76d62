import Mathlib.Data.List.Forall2
import SchemaForm.Proofs.Result

/-!
# Results of two runs

Two runs end alike when both fail, for whatever reasons, or both succeed with
related values.  Runs whose steps end alike end alike.

Main results:

- Theorem `Alike.bind`, Theorem `Alike.map`: steps that end alike can be put together.
- Theorem `Alike.mapM`: so can the steps for the items of two lists.
- Theorem `alike_eq_iff`: with equal values, two runs end alike when they have the same values.
-/

namespace SchemaForm
namespace Result

variable {ε ε' δ δ' α β γ κ : Type} {related : α → β → Prop} {others : γ → κ → Prop}

/-- Two computations that both fail, or both succeed with related values. -/
inductive Alike (related : α → β → Prop) : Except ε α → Except δ β → Prop where
  | ok {a : α} {b : β} (h : related a b) : Alike related (.ok a) (.ok b)
  | error (first : ε) (second : δ) : Alike related (.error first) (.error second)

/-- With equal values, two computations end alike when they have the same values. -/
theorem alike_eq_iff {x : Except ε α} {y : Except δ α} :
    Alike (· = ·) x y ↔ ∀ a, x = .ok a ↔ y = .ok a := by
  constructor
  · intro h a
    cases h with
    | ok h =>
        subst h
        simp only [Except.ok.injEq]
    | error first second => exact iff_of_false nofun nofun
  · intro h
    cases x with
    | ok a =>
        rw [(h a).mp rfl]
        exact .ok rfl
    | error first =>
        cases y with
        | ok a => exact absurd ((h a).mpr rfl) nofun
        | error second => exact .error first second

/-- A computation ends like itself. -/
theorem Alike.refl (x : Except ε α) : Alike (· = ·) x x :=
  alike_eq_iff.mpr fun _ => Iff.rfl

/-- Where the first computation has a value, the second has a related one. -/
theorem Alike.exists_of_ok {x : Except ε α} {y : Except δ β} (h : Alike related x y) {a : α}
    (hx : x = .ok a) : ∃ b, y = .ok b ∧ related a b := by
  cases h with
  | ok h =>
      cases hx
      exact ⟨_, rfl, h⟩
  | error first second => cases hx

/-- Two runs whose first steps end alike end alike when their second ones do on related values. -/
theorem Alike.bind {x : Except ε α} {y : Except δ β} (h : Alike related x y)
    {f : α → Except ε γ} {g : β → Except δ κ}
    (hnext : ∀ a b, related a b → Alike others (f a) (g b)) : Alike others (x >>= f) (y >>= g) := by
  cases h with
  | ok h => exact hnext _ _ h
  | error first second => exact .error first second

/-- Steps that only change values, and related values to related ones, keep results alike. -/
theorem Alike.map {x : Except ε α} {y : Except δ β} (h : Alike related x y) {f : α → γ} {g : β → κ}
    (hvalues : ∀ a b, related a b → others (f a) (g b)) : Alike others (x.map f) (y.map g) := by
  cases h with
  | ok h => exact .ok (hvalues _ _ h)
  | error first second => exact .error first second

/-- Other views of the errors keep results alike. -/
theorem Alike.mapError {x : Except ε α} {y : Except δ β} (h : Alike related x y) (f : ε → ε')
    (g : δ → δ') : Alike related (x.mapError f) (y.mapError g) := by
  cases h with
  | ok h => exact .ok h
  | error first second => exact .error (f first) (g second)

/-- Two lists are worked through alike when their items are. -/
theorem Alike.mapM {f : α → Except ε γ} {g : β → Except δ κ}
    (hitem : ∀ a b, related a b → Alike others (f a) (g b)) {items : List α} {values : List β}
    (h : List.Forall₂ related items values) :
    Alike (List.Forall₂ others) (items.mapM f) (values.mapM g) := by
  induction h with
  | nil => exact .ok .nil
  | cons hfirst _ ih =>
      rw [List.mapM_cons, List.mapM_cons]
      refine (hitem _ _ hfirst).bind fun c d hvalue => ?_
      exact ih.bind fun rest more hrest => .ok (.cons hvalue hrest)

/-- Two lists are worked through with the same values when their items are. -/
theorem Alike.mapM_eq {f : α → Except ε γ} {g : β → Except δ γ}
    (hitem : ∀ a b, related a b → Alike (· = ·) (f a) (g b)) {items : List α} {values : List β}
    (h : List.Forall₂ related items values) : Alike (· = ·) (items.mapM f) (values.mapM g) := by
  have hvalues := Alike.mapM hitem h
  rwa [List.forall₂_eq_eq_eq] at hvalues

/-- Two computations end alike when one succeeds exactly when the other does, with related
values. -/
theorem alike_of_exists_iff {x : Except ε α} {y : Except δ β}
    (h : (∃ a, x = .ok a) ↔ ∃ b, y = .ok b)
    (hvalues : ∀ a b, x = .ok a → y = .ok b → related a b) : Alike related x y := by
  cases x with
  | ok a =>
      obtain ⟨b, rfl⟩ := h.mp ⟨a, rfl⟩
      exact .ok (hvalues a b rfl rfl)
  | error first =>
      cases y with
      | ok b =>
          obtain ⟨a, ha⟩ := h.mpr ⟨b, rfl⟩
          cases ha
      | error second => exact .error first second

/-- Of two computations that end alike, one succeeds exactly when the other does. -/
theorem Alike.exists_iff {x : Except ε α} {y : Except δ β} (h : Alike related x y) :
    (∃ a, x = .ok a) ↔ ∃ b, y = .ok b := by
  cases h with
  | ok h => exact iff_of_true ⟨_, rfl⟩ ⟨_, rfl⟩
  | error first second => exact iff_of_false nofun nofun

/-- Where two computations that end alike both have values, these are related. -/
theorem Alike.related_of_ok {x : Except ε α} {y : Except δ β} (h : Alike related x y) {a : α}
    {b : β} (hx : x = .ok a) (hy : y = .ok b) : related a b := by
  cases h with
  | ok h =>
      cases hx
      cases hy
      exact h
  | error first second => cases hx

end Result
end SchemaForm
