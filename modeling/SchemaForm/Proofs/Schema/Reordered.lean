import SchemaForm.Proofs.Json.Reordered
import SchemaForm.Proofs.Result.Alike
import SchemaForm.Schema.Union

/-!
# Schemas in another order

Whatever is looked up in a schema, and whatever a union in it collapses to, does
not depend on the order of its keys: the same look-up in a schema whose keys
stand in another order fails as well, or leads to a schema that again differs
only in the order of keys.

Main results:

- Theorem `alike_follow`: references lead to the same definitions.
- Theorem `alike_collapseAllOf`, Theorem `alike_collapseAnyOf`, Theorem `alike_collapseTypes`:
  unions collapse alike.
-/

namespace SchemaForm
namespace Schema

open Result

/-- Schemas that differ only in the order of keys. -/
abbrev Reordered (first second : Schema) : Prop :=
  Entries.Reordered Json.Reordered first second

/-- Types with schemas that differ only in the order of keys. -/
def TypedAlike (first second : String × Schema) : Prop :=
  first.1 = second.1 ∧ Reordered first.2 second.2

variable {definitions others : Option Schema} {first second one other property written : Schema}
  {field : String}

/-! ## References -/

/-- Values in another order are schemas in another order, if they are schemas. -/
theorem alike_ofJson {value found : Json} (h : value.Reordered found) :
    Alike Reordered (ofJson field value) (ofJson field found) := by
  cases h with
  | object hfirst hsecond hvalues => exact .ok ⟨hfirst, hsecond, hvalues⟩
  | _ => exact .error _ _

/-- A reference leads to the same definition, if to any. -/
theorem alike_resolve (hdefinitions : Option.Rel Reordered definitions others)
    (reference : String) :
    Alike Reordered (resolve definitions field reference) (resolve others field reference) := by
  cases hdefinitions with
  | none => exact .error _ _
  | some h =>
      rcases h.cases_get? (referenceKey reference) with
        ⟨hone, hother⟩ | ⟨a, b, hone, hother, hvalue⟩
      · simp only [resolve, Option.bind_some, hone, hother]
        exact .error _ _
      · simp only [resolve, Option.bind_some, hone, hother]
        cases hvalue with
        | object hfirst hsecond hvalues => exact .ok ⟨hfirst, hsecond, hvalues⟩
        | _ => exact .error _ _

/-- The values of two reference keys lead to the same definition, if to any. -/
theorem alike_resolveValue (hdefinitions : Option.Rel Reordered definitions others)
    {reference found : Json} (h : reference.Reordered found) :
    Alike Reordered (resolveValue definitions field reference)
      (resolveValue others field found) := by
  cases h with
  | string text => exact alike_resolve hdefinitions text
  | _ => exact .error _ _

/-- Two schemas refer to the same definition, or both stand aside for others. -/
theorem alike_follow (hdefinitions : Option.Rel Reordered definitions others)
    (h : Reordered first second) (hother : Reordered one other) :
    Alike Reordered (follow definitions field first one) (follow others field second other) := by
  rcases h.cases_get? "$ref" with ⟨hfirst, hsecond⟩ | ⟨a, b, hfirst, hsecond, hvalue⟩
  · simp only [follow, hfirst, hsecond]
    exact .ok hother
  · simp only [follow, hfirst, hsecond]
    exact alike_resolveValue hdefinitions hvalue

/-- The same type is inferred. -/
theorem inferType?_eq (h : Reordered first second) : first.inferType? = second.inferType? := by
  rcases h.cases_get? "type" with ⟨hfirst, hsecond⟩ | ⟨a, b, hfirst, hsecond, hvalue⟩
  · simp only [inferType?, hfirst, hsecond, h.has_eq "enum"]
  · simp only [inferType?, hfirst, hsecond]
    cases hvalue <;> rfl

/-! ## Unions -/

/-- Taking over a key keeps schemas in another order. -/
theorem reordered_inherit (h : Reordered first second) (hproperty : Reordered property written)
    (key : String) : Reordered (inherit first property key) (inherit second written key) := by
  rcases hproperty.cases_get? key with ⟨hone, hother⟩ | ⟨a, b, hone, hother, hvalue⟩
  · simp only [inherit, hone, hother]
    exact h
  · simp only [inherit, hone, hother]
    exact h.putNew key hvalue

/-- The branches of a union are alike one by one. -/
theorem alike_branches (h : Reordered property written) (key : String) :
    Alike (List.Forall₂ Json.Reordered) (branches field property key)
      (branches field written key) := by
  rcases h.cases_get? key with ⟨hone, hother⟩ | ⟨a, b, hone, hother, hvalue⟩
  · simp only [branches, hone, hother]
    exact .error _ _
  · simp only [branches, hone, hother]
    cases hvalue with
    | array hitems => exact .ok hitems
    | _ => exact .error _ _

/-- Two unions have a single branch, or both have none or too many. -/
theorem alike_onlyBranch {found values : List Json}
    (h : List.Forall₂ Json.Reordered found values) :
    Alike Reordered (onlyBranch field found) (onlyBranch field values) := by
  cases h with
  | nil => exact .error _ _
  | cons hbranch hrest =>
      cases hrest with
      | nil => exact alike_ofJson hbranch
      | cons hsecond hothers => exact .error _ _

/-- Taking over a default keeps schemas in another order. -/
theorem reordered_withDefault (h : Reordered first second)
    (hproperty : Reordered property written) :
    Reordered (withDefault first property) (withDefault second written) := by
  rcases hproperty.cases_get? "default" with ⟨hone, hother⟩ | ⟨a, b, hone, hother, hvalue⟩
  · simp only [withDefault, hone, hother]
    exact h
  · simp only [withDefault, hone, hother]
    exact h.put "default" hvalue

/-- Unions with a single branch collapse alike. -/
theorem alike_collapseAllOf (hdefinitions : Option.Rel Reordered definitions others)
    (h : Reordered property written) :
    Alike Reordered (collapseAllOf definitions field property)
      (collapseAllOf others field written) := by
  refine (alike_branches h "allOf").bind fun found values hvalues => ?_
  refine (alike_onlyBranch hvalues).bind fun branch other hbranch => ?_
  refine (alike_follow hdefinitions hbranch (reordered_inherit hbranch h "description")).bind ?_
  exact fun resolved result hresolved => .ok (reordered_withDefault hresolved h)

/-! ## Choices -/

/-- The items of two lists are found to be objects alike. -/
theorem alike_hasObjectItems (hdefinitions : Option.Rel Reordered definitions others)
    (h : Reordered first second) :
    Alike (· = ·) (hasObjectItems definitions field first)
      (hasObjectItems others field second) := by
  rcases h.cases_get? "items" with ⟨hfirst, hsecond⟩ | ⟨a, b, hfirst, hsecond, hvalue⟩
  · simp only [hasObjectItems, hfirst, hsecond]
    exact .refl _
  · simp only [hasObjectItems, hfirst, hsecond]
    cases hvalue with
    | @object items values hnames hothers hvalues =>
        have hitems : Reordered items values := ⟨hnames, hothers, hvalues⟩
        rcases hitems.cases_get? "$ref" with ⟨hone, hother⟩ | ⟨c, d, hone, hother, hreference⟩
        · simp only [hone, hother, inferType?_eq hitems]
          exact .refl _
        · simp only [hone, hother]
          refine (alike_resolveValue hdefinitions hreference).bind fun resolved found hfound => ?_
          rw [inferType?_eq hfound]
          exact .refl _
    | _ => exact .refl _

/-- Both schemas list a choice, or both list none. -/
theorem hasChoices_eq (h : Reordered first second) : hasChoices first = hasChoices second := by
  rcases h.cases_get? "enum" with ⟨hfirst, hsecond⟩ | ⟨a, b, hfirst, hsecond, hvalue⟩
  · simp only [hasChoices, hfirst, hsecond]
  · simp only [hasChoices, hfirst, hsecond]
    cases hvalue with
    | array hitems => cases hitems <;> rfl
    | _ => rfl

/-- A branch stands for the same type and schema, if for any. -/
theorem alike_alternative? (hdefinitions : Option.Rel Reordered definitions others)
    (h : Reordered first second) :
    Alike (Option.Rel TypedAlike) (alternative? definitions field first)
      (alternative? others field second) := by
  rcases h.cases_get? "$ref" with ⟨hfirst, hsecond⟩ | ⟨a, b, hfirst, hsecond, hvalue⟩
  · simp only [alternative?, hfirst, hsecond, inferType?_eq h]
    split
    · exact .error _ _
    · exact .ok .none
    · refine (alike_hasObjectItems hdefinitions h).bind ?_
      rintro objects _ rfl
      split
      · exact .ok .none
      · exact .ok (.some ⟨rfl, h⟩)
    · exact .ok (.some ⟨rfl, h⟩)
  · simp only [alternative?, hfirst, hsecond]
    refine (alike_resolveValue hdefinitions hvalue).bind fun definition found hfound => ?_
    rw [hasChoices_eq hfound]
    split
    · rw [inferType?_eq hfound]
      cases found.inferType? with
      | none => exact .ok .none
      | some type => exact .ok (.some ⟨rfl, hfound⟩)
    · exact .ok .none

/-- Both branches stand for `null`, or none of them does. -/
theorem isNullBranch_eq (h : Reordered first second) :
    first.isNullBranch = second.isNullBranch := by
  rcases h.cases_get? "type" with ⟨hfirst, hsecond⟩ | ⟨a, b, hfirst, hsecond, hvalue⟩
  · simp only [isNullBranch, hfirst, hsecond]
  · simp only [isNullBranch, hfirst, hsecond]
    cases hvalue <;> rfl

/-- The branch with more keys is the same one. -/
theorem forall₂_largestFirst {found branches : List Schema}
    (h : List.Forall₂ Reordered found branches) :
    List.Forall₂ Reordered (largestFirst found) (largestFirst branches) := by
  cases h with
  | nil => exact .nil
  | cons hone hrest =>
      cases hrest with
      | nil => exact .cons hone .nil
      | cons htwo hothers =>
          cases hothers with
          | nil =>
              simp only [largestFirst, hone.length_eq, htwo.length_eq]
              split
              · exact .cons htwo (.cons hone .nil)
              · exact .cons hone (.cons htwo .nil)
          | cons hthree hmore => exact .cons hone (.cons htwo (.cons hthree hmore))

/-- The same types are known. -/
theorem any_type_eq {before known : List (String × Schema)}
    (h : List.Forall₂ TypedAlike before known) (type : String) :
    (before.any fun entry => entry.1 == type) = known.any fun entry => entry.1 == type := by
  induction h with
  | nil => rfl
  | cons hfirst _ ih => rw [List.any_cons, List.any_cons, hfirst.1, ih]

/-- The alternatives that are collected from branches are alike one by one. -/
theorem alike_alternatives (hdefinitions : Option.Rel Reordered definitions others)
    {found branches : List Schema} (h : List.Forall₂ Reordered found branches)
    {before known : List (String × Schema)} (hbefore : List.Forall₂ TypedAlike before known) :
    Alike (List.Forall₂ TypedAlike) (alternatives definitions field found before)
      (alternatives others field branches known) := by
  induction h generalizing before known with
  | nil => exact .ok hbefore
  | cons hbranch _ ih =>
      refine (alike_alternative? hdefinitions hbranch).bind fun x y halternative => ?_
      cases halternative with
      | none => exact ih hbefore
      | @some a b hsame =>
          obtain ⟨type, schema⟩ := a
          obtain ⟨_, found⟩ := b
          obtain ⟨rfl, hschema⟩ := hsame
          dsimp only
          rw [any_type_eq hbefore type]
          split
          · exact ih hbefore
          · exact ih (List.rel_append hbefore (.cons ⟨rfl, hschema⟩ .nil))

/-- Two choices have a single alternative, or both have none or too many. -/
theorem alike_onlyAlternative {found branches : List (String × Schema)}
    (h : List.Forall₂ TypedAlike found branches) :
    Alike TypedAlike (onlyAlternative field found) (onlyAlternative field branches) := by
  cases h with
  | nil => exact .error _ _
  | cons hfirst hrest =>
      cases hrest with
      | nil => exact .ok hfirst
      | cons hsecond hothers => exact .error _ _

/-- Two choices have at most two branches, or both have more. -/
theorem alike_checkFew {found branches : List Schema}
    (h : List.Forall₂ Reordered found branches) :
    Alike (· = ·) (checkFew field found) (checkFew field branches) := by
  unfold checkFew
  rw [h.length_eq]
  exact .refl _

/-- Choices with a single alternative collapse alike. -/
theorem alike_collapseAnyOf (hdefinitions : Option.Rel Reordered definitions others)
    (h : Reordered property written) :
    Alike TypedAlike (collapseAnyOf definitions field property)
      (collapseAnyOf others field written) := by
  refine (alike_branches h "anyOf").bind fun found values hvalues => ?_
  refine (Alike.mapM (fun _ _ hvalue => alike_ofJson hvalue) hvalues).bind ?_
  intro all branches hbranches
  have hcandidates : List.Forall₂ Reordered (all.filter fun branch => !isNullBranch branch)
      (branches.filter fun branch => !isNullBranch branch) := by
    refine List.rel_filter (fun branch other hbranch => ?_) hbranches
    simp only [isNullBranch_eq hbranch]
  refine (alike_checkFew hcandidates).bind fun _ _ _ => ?_
  refine (alike_alternatives hdefinitions (forall₂_largestFirst hcandidates) .nil).bind ?_
  intro alternatives others halternatives
  refine (alike_onlyAlternative halternatives).bind ?_
  rintro ⟨type, schema⟩ ⟨_, resolved⟩ ⟨rfl, hschema⟩
  refine .ok ⟨rfl, ?_⟩
  exact reordered_inherit (reordered_inherit (reordered_inherit hschema h _) h _) h _

/-! ## Lists of types -/

/-- The texts of two lists are the same. -/
theorem filterMap_asString?_eq {items values : List Json}
    (h : List.Forall₂ Json.Reordered items values) :
    items.filterMap Json.asString? = values.filterMap Json.asString? := by
  induction h with
  | nil => rfl
  | cons hfirst _ ih =>
      rw [List.filterMap_cons, List.filterMap_cons, ih]
      cases hfirst <;> rfl

/-- Lists of types collapse alike. -/
theorem alike_collapseTypes (h : Reordered first second) :
    Alike Reordered (collapseTypes field first) (collapseTypes field second) := by
  rcases h.cases_get? "type" with ⟨hfirst, hsecond⟩ | ⟨a, b, hfirst, hsecond, hvalue⟩
  · simp only [collapseTypes, hfirst, hsecond]
    exact .ok h
  · simp only [collapseTypes, hfirst, hsecond]
    cases hvalue with
    | array hitems =>
        simp only [filterMap_asString?_eq hitems]
        split
        · exact .error _ _
        · exact .ok (h.put "type" (.string _))
        · exact .error _ _
    | _ => exact .ok h

end Schema
end SchemaForm
