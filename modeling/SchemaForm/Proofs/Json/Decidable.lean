import SchemaForm.Proofs.Json.Proper

/-!
# Decisions about documents

Whether documents are equal and whether they are proper can be computed.

Main results:

- Theorem `isSame_iff`: equality of documents is decided.
- Theorem `isProper_iff`: propriety of documents is decided.
-/

namespace SchemaForm
namespace Json

/-! ## Equality -/

mutual

/-- Whether two documents are the same. -/
def isSame : Json → Json → Bool
  | .null, .null => true
  | .bool first, .bool second => first == second
  | .number first, .number second => decide (first = second)
  | .string first, .string second => first == second
  | .array first, .array second => areSame first second
  | .object first, .object second => haveSame first second
  | _, _ => false

/-- Whether two lists of documents are the same. -/
def areSame : List Json → List Json → Bool
  | [], [] => true
  | first :: rest, second :: others => isSame first second && areSame rest others
  | _, _ => false

/-- Whether two lists of entries are the same. -/
def haveSame : List (String × Json) → List (String × Json) → Bool
  | [], [] => true
  | (name, first) :: rest, (other, second) :: others =>
      name == other && isSame first second && haveSame rest others
  | _, _ => false

end

mutual

/-- Documents are the same when they are equal. -/
theorem isSame_iff (first second : Json) : isSame first second = true ↔ first = second := by
  cases first with
  | array items =>
      cases second with
      | array others => simp [isSame, areSame_iff items others]
      | _ => simp [isSame]
  | object entries =>
      cases second with
      | object others => simp [isSame, haveSame_iff entries others]
      | _ => simp [isSame]
  | _ => cases second <;> simp [isSame]

theorem areSame_iff (items others : List Json) : areSame items others = true ↔ items = others := by
  cases items with
  | nil => cases others <;> simp [areSame]
  | cons first rest =>
      cases others with
      | nil => simp [areSame]
      | cons second others => simp [areSame, isSame_iff first second, areSame_iff rest others]

theorem haveSame_iff (entries others : List (String × Json)) :
    haveSame entries others = true ↔ entries = others := by
  cases entries with
  | nil => cases others <;> simp [haveSame]
  | cons first rest =>
      obtain ⟨name, first⟩ := first
      cases others with
      | nil => simp [haveSame]
      | cons second others =>
          simp [haveSame, isSame_iff first second.2, haveSame_iff rest others, Prod.ext_iff]

end

instance : DecidableEq Json := fun first second =>
  decidable_of_iff (isSame first second = true) (isSame_iff first second)

/-! ## Propriety -/

instance (n : Number) : Decidable n.InRange :=
  match n with
  | .integer n =>
      inferInstanceAs
        (Decidable (Text.Integer.signed64.least ≤ n ∧ n ≤ Text.Integer.unsigned64.greatest))
  | .float x => inferInstanceAs (Decidable (x.isFinite = true))

mutual

/-- Whether a document is proper. -/
def isProper : Json → Bool
  | .number n => decide n.InRange
  | .array items => areProper items
  | .object entries => decide (Entries.names entries).Nodup && haveProper entries
  | _ => true

/-- Whether documents are proper. -/
def areProper : List Json → Bool
  | [] => true
  | item :: rest => isProper item && areProper rest

/-- Whether the values of entries are proper. -/
def haveProper : List (String × Json) → Bool
  | [] => true
  | (_, value) :: rest => isProper value && haveProper rest

end

mutual

/-- A document is found proper when it is. -/
theorem isProper_iff (value : Json) : isProper value = true ↔ value.Proper := by
  cases value with
  | number n =>
      simp only [isProper, decide_eq_true_eq]
      exact ⟨.number, Proper.inRange⟩
  | array items =>
      simp only [isProper, areProper_iff items]
      exact ⟨.array, fun h _ hitem => h.item hitem⟩
  | object entries =>
      simp only [isProper, Bool.and_eq_true, decide_eq_true_eq, haveProper_iff entries]
      exact ⟨fun h => .object h.1 h.2, fun h => ⟨h.nodup_names, fun _ hentry => h.entry hentry⟩⟩
  | null => exact iff_of_true rfl .null
  | bool b => exact iff_of_true rfl (.bool b)
  | string s => exact iff_of_true rfl (.string s)

theorem areProper_iff (items : List Json) :
    areProper items = true ↔ ∀ item ∈ items, item.Proper := by
  cases items with
  | nil => simp [areProper]
  | cons item rest => simp [areProper, isProper_iff item, areProper_iff rest]

theorem haveProper_iff (entries : List (String × Json)) :
    haveProper entries = true ↔ ∀ entry ∈ entries, entry.2.Proper := by
  cases entries with
  | nil => simp [haveProper]
  | cons entry rest =>
      obtain ⟨name, value⟩ := entry
      simp only [haveProper, Bool.and_eq_true, isProper_iff value, haveProper_iff rest,
        List.forall_mem_cons]

end

instance : DecidablePred Proper := fun value =>
  decidable_of_iff (isProper value = true) (isProper_iff value)

end Json
end SchemaForm
