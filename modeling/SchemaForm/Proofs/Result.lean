import SchemaForm.Rule.Basic

/-!
# Results that succeeded

A computation in several steps succeeds exactly when each of its steps does.

Main results:

- Theorem `bind_eq_ok`: the value of two steps comes from a value of the first one.
- Theorem `map_eq_ok`, Theorem `mapError_eq_ok`: changing the value or the error keeps success.
- Theorem `bind_eq_error`: an error of two steps comes from one of them.
- Theorem `exists_of_succeeded`, Theorem `not_succeeded_iff`: a computation has a value if it
  succeeded, and otherwise an error.
- Theorem `passes_iff`, Theorem `failsWith_iff`: tests on computations can be computed.
-/

namespace SchemaForm
namespace Result

variable {ε δ α β : Type}

/-- Two steps succeed exactly when the first one does and the second one does on its value. -/
theorem bind_eq_ok {x : Except ε α} {f : α → Except ε β} {b : β} :
    (x >>= f) = .ok b ↔ ∃ a, x = .ok a ∧ f a = .ok b := by
  cases x with
  | error error => simp [bind, Except.bind]
  | ok a => simp [bind, Except.bind]

/-- The value of the first step goes to the second one. -/
@[simp]
theorem ok_bind (a : α) (f : α → Except ε β) : ((.ok a : Except ε α) >>= f) = f a :=
  rfl

/-- Only the values of the first step matter for what the second one does. -/
theorem bind_congr_ok {x : Except ε α} {f g : α → Except ε β} (h : ∀ a, x = .ok a → f a = g a) :
    (x >>= f) = (x >>= g) := by
  cases x with
  | error error => rfl
  | ok a => exact h a rfl

/-- A step that only changes the value keeps success. -/
theorem map_eq_ok {x : Except ε α} {f : α → β} {b : β} :
    x.map f = .ok b ↔ ∃ a, x = .ok a ∧ f a = b := by
  cases x with
  | error error => simp [Except.map]
  | ok a => simp [Except.map]

/-- A step that only changes the value hands the changed one on. -/
theorem map_bind (x : Except ε α) (f : α → β) {γ : Type} (g : β → Except ε γ) :
    (x.map f >>= g) = x >>= fun a => g (f a) := by
  cases x <;> rfl

/-- A step that only changes the value succeeds when the computation does. -/
theorem exists_map_eq_ok {x : Except ε α} {f : α → β} :
    (∃ b, x.map f = .ok b) ↔ ∃ a, x = .ok a := by
  cases x with
  | error error => simp [Except.map]
  | ok a => simp [Except.map]

/-- Another view of the error does not change a value. -/
@[simp]
theorem mapError_eq_ok {x : Except ε α} {f : ε → δ} {a : α} :
    x.mapError f = .ok a ↔ x = .ok a := by
  cases x with
  | error error => exact iff_of_false nofun nofun
  | ok value =>
      change (Except.ok value : Except δ α) = .ok a ↔ (Except.ok value : Except ε α) = .ok a
      simp only [Except.ok.injEq]

/-- Two steps fail exactly when the first one does, or the second one does on its value. -/
theorem bind_eq_error {x : Except ε α} {f : α → Except ε β} {error : ε} :
    (x >>= f) = .error error ↔ x = .error error ∨ ∃ a, x = .ok a ∧ f a = .error error := by
  cases x with
  | error first => simp [bind, Except.bind]
  | ok a => simp [bind, Except.bind]

/-- A step that only changes the value fails when the computation does. -/
theorem map_eq_error {x : Except ε α} {f : α → β} {error : ε} :
    x.map f = .error error ↔ x = .error error := by
  cases x with
  | error first => simp [Except.map]
  | ok a => simp [Except.map]

/-- Another view of the error is one of the error. -/
theorem mapError_eq_error {x : Except ε α} {f : ε → δ} {error : δ} :
    x.mapError f = .error error ↔ ∃ inner, x = .error inner ∧ f inner = error := by
  cases x with
  | error inner =>
      change (Except.error (f inner) : Except δ α) = .error error ↔
        ∃ found, (Except.error inner : Except ε α) = .error found ∧ f found = error
      simp only [Except.error.injEq, exists_eq_left']
  | ok a =>
      change (Except.ok a : Except δ α) = .error error ↔
        ∃ found, (Except.ok a : Except ε α) = .error found ∧ f found = error
      simp only [reduceCtorEq, false_and, exists_false]

/-- A value that is returned is the result. -/
theorem pure_eq_ok {a b : α} : (pure a : Except ε α) = .ok b ↔ a = b := by
  simp [pure, Except.pure]

/-- A computation that succeeded has a value. -/
theorem exists_of_succeeded {x : Except ε α} (h : Rule.succeeded x = true) : ∃ a, x = .ok a := by
  cases x with
  | error error => cases h
  | ok a => exact ⟨a, rfl⟩

/-- A computation succeeded when it has a value. -/
theorem succeeded_iff {x : Except ε α} : Rule.succeeded x = true ↔ ∃ a, x = .ok a := by
  cases x with
  | error error => simp [Rule.succeeded]
  | ok a => simp [Rule.succeeded]

/-- A computation that did not succeed has an error. -/
theorem not_succeeded_iff {x : Except ε α} :
    Rule.succeeded x = false ↔ ∃ error, x = .error error := by
  cases x with
  | error error => simp [Rule.succeeded]
  | ok a => simp [Rule.succeeded]

/-- Whether a computation has a value that passes a test. -/
def passes (x : Except ε α) (test : α → Bool) : Bool :=
  match x with
  | .ok a => test a
  | .error _ => false

/-- A computation that passes a test has a value that does. -/
theorem passes_iff {x : Except ε α} {test : α → Bool} :
    passes x test = true ↔ ∃ a, x = .ok a ∧ test a = true := by
  cases x with
  | error error => simp [passes]
  | ok a => simp [passes]

/-- Whether a computation has an error that passes a test. -/
def failsWith (x : Except ε α) (test : ε → Bool) : Bool :=
  match x with
  | .ok _ => false
  | .error error => test error

/-- A computation that fails as tested has an error that passes the test. -/
theorem failsWith_iff {x : Except ε α} {test : ε → Bool} :
    failsWith x test = true ↔ ∃ error, x = .error error ∧ test error = true := by
  cases x with
  | error error => simp [failsWith]
  | ok a => simp [failsWith]

end Result
end SchemaForm
