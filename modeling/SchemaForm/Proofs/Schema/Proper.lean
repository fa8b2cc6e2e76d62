import SchemaForm.Building.Compile
import SchemaForm.Proofs.Json.Proper
import SchemaForm.Proofs.Result

/-!
# Proper schemas

Whatever a builder takes out of a proper schema or puts together from its parts
is proper again: definitions that are referred to, collapsed unions, and
the schemas of properties and items.

Main results:

- Theorem `proper_collapseAllOf`, Theorem `proper_collapseAnyOf`: unions collapse to proper
  schemas.
- Theorem `proper_propertySchema`, Theorem `proper_itemSchema`: the schemas of the parts of a
  field are proper when the schema around them is.
-/

namespace SchemaForm

open Result

/-- Schemas that are proper as documents. -/
abbrev Schema.Proper (schema : Schema) : Prop :=
  Json.Proper (.object schema)

/-- Places whose definitions are proper. -/
def Scope.Proper (scope : Scope) : Prop :=
  ∀ definitions, scope.definitions = some definitions → Schema.Proper definitions

namespace Schema

variable {definitions : Option Schema} {field : String}

/-- A value that is a schema is proper as one. -/
theorem proper_ofJson {value : Json} {schema : Schema} (hvalue : value.Proper)
    (h : ofJson field value = .ok schema) : schema.Proper := by
  cases value with
  | object entries =>
      simp only [ofJson, Except.ok.injEq] at h
      exact h ▸ hvalue
  | _ => cases h

/-- A definition that is referred to is proper. -/
theorem proper_resolveValue (hdefinitions : ∀ found, definitions = some found → found.Proper)
    {reference : Json} {schema : Schema}
    (h : resolveValue definitions field reference = .ok schema) : schema.Proper := by
  simp only [resolveValue, bind_eq_ok] at h
  obtain ⟨text, -, h⟩ := h
  cases hfound : definitions with
  | none => simp [resolve, hfound] at h
  | some found =>
      rw [hfound, resolve_eq_ok_iff] at h
      exact (hdefinitions found hfound).get? h

/-- What is referred to, or stands in its place, is proper. -/
theorem proper_follow (hdefinitions : ∀ found, definitions = some found → found.Proper)
    {schema other result : Schema} (hother : other.Proper)
    (h : follow definitions field schema other = .ok result) : result.Proper := by
  simp only [follow] at h
  split at h
  · exact proper_resolveValue hdefinitions h
  · simp only [Except.ok.injEq] at h
    exact h ▸ hother

/-- Taking over a key of a proper property keeps a schema proper. -/
theorem proper_inherit {schema property : Schema} (hschema : schema.Proper)
    (hproperty : property.Proper) (key : String) : (inherit schema property key).Proper := by
  unfold inherit
  split
  · rename_i value hvalue
    unfold Entries.putNew
    split
    · exact hschema
    · exact Json.proper_put hschema (hproperty.get? hvalue)
  · exact hschema

/-- The branches of a proper union are proper. -/
theorem proper_branches {property : Schema} {key : String} {found : List Json}
    (hproperty : property.Proper) (h : branches field property key = .ok found) :
    ∀ branch ∈ found, branch.Proper := by
  simp only [branches] at h
  split at h
  · rename_i items hitems
    simp only [Except.ok.injEq] at h
    exact h ▸ fun branch hbranch => (hproperty.get? hitems).item hbranch
  · cases h

/-- A union with a single branch collapses to a proper schema. -/
theorem proper_collapseAllOf (hdefinitions : ∀ found, definitions = some found → found.Proper)
    {property schema : Schema} (hproperty : property.Proper)
    (h : collapseAllOf definitions field property = .ok schema) : schema.Proper := by
  simp only [collapseAllOf, bind_eq_ok, pure_eq_ok] at h
  obtain ⟨found, hfound, branch, hbranch, resolved, hresolved, rfl⟩ := h
  have hproper := proper_branches hproperty hfound
  have hbranch : branch.Proper := by
    unfold onlyBranch at hbranch
    split at hbranch
    · cases hbranch
    · exact proper_ofJson (hproper _ List.mem_cons_self) hbranch
    · cases hbranch
  have hresolved : resolved.Proper :=
    proper_follow hdefinitions (proper_inherit hbranch hproperty "description") hresolved
  unfold withDefault
  split
  · rename_i value hvalue
    exact Json.proper_put hresolved (hproperty.get? hvalue)
  · exact hresolved

/-- A branch stands for itself or for a definition, and both are proper. -/
theorem proper_alternative? (hdefinitions : ∀ found, definitions = some found → found.Proper)
    {branch schema : Schema} {type : String} (hbranch : branch.Proper)
    (h : alternative? definitions field branch = .ok (some (type, schema))) : schema.Proper := by
  unfold alternative? at h
  split at h
  · simp only [bind_eq_ok] at h
    obtain ⟨definition, hdefinition, h⟩ := h
    split at h
    · simp only [pure_eq_ok, Option.map_eq_some_iff, Prod.mk.injEq] at h
      obtain ⟨_, -, -, rfl⟩ := h
      exact proper_resolveValue hdefinitions hdefinition
    · simp [pure_eq_ok] at h
  · split at h
    · cases h
    · simp [pure_eq_ok] at h
    · simp only [bind_eq_ok] at h
      obtain ⟨objects, -, h⟩ := h
      split at h
      · simp [pure_eq_ok] at h
      · simp only [pure_eq_ok, Option.some.injEq, Prod.mk.injEq] at h
        exact h.2 ▸ hbranch
    · simp only [pure_eq_ok, Option.some.injEq, Prod.mk.injEq] at h
      exact h.2 ▸ hbranch

/-- The alternatives that are collected from proper branches are proper. -/
theorem proper_alternatives (hdefinitions : ∀ found, definitions = some found → found.Proper)
    {branches : List Schema} {before after : List (String × Schema)}
    (hbranches : ∀ branch ∈ branches, branch.Proper) (hbefore : ∀ entry ∈ before, entry.2.Proper)
    (h : alternatives definitions field branches before = .ok after) :
    ∀ entry ∈ after, entry.2.Proper := by
  induction branches generalizing before with
  | nil =>
      simp only [alternatives, pure_eq_ok] at h
      exact h ▸ hbefore
  | cons branch rest ih =>
      have hrest : ∀ branch ∈ rest, branch.Proper :=
        fun other hother => hbranches other (List.mem_cons_of_mem _ hother)
      simp only [alternatives, bind_eq_ok] at h
      obtain ⟨found, hfound, h⟩ := h
      cases found with
      | none => exact ih hrest hbefore h
      | some pair =>
          obtain ⟨type, schema⟩ := pair
          dsimp only at h
          split at h
          · exact ih hrest hbefore h
          · refine ih hrest ?_ h
            intro entry hentry
            rcases List.mem_append.mp hentry with hentry | hentry
            · exact hbefore entry hentry
            · rw [List.mem_singleton.mp hentry]
              exact proper_alternative? hdefinitions (hbranches branch List.mem_cons_self) hfound

/-- Reading a list of values as schemas keeps them proper. -/
theorem proper_mapM_ofJson {values : List Json} {schemas : List Schema}
    (hvalues : ∀ value ∈ values, value.Proper) (h : values.mapM (ofJson field) = .ok schemas) :
    ∀ schema ∈ schemas, schema.Proper := by
  induction values generalizing schemas with
  | nil =>
      simp only [List.mapM_nil, pure_eq_ok] at h
      simp [← h]
  | cons value rest ih =>
      simp only [List.mapM_cons, bind_eq_ok, pure_eq_ok] at h
      obtain ⟨schema, hschema, others, hothers, rfl⟩ := h
      intro found hfound
      rcases List.mem_cons.mp hfound with rfl | hfound
      · exact proper_ofJson (hvalues value List.mem_cons_self) hschema
      · exact ih (fun other hother => hvalues other (List.mem_cons_of_mem _ hother)) hothers
          found hfound

/-- The order of branches does not change which they are. -/
theorem mem_largestFirst {found : List Schema} {branch : Schema} :
    branch ∈ largestFirst found ↔ branch ∈ found := by
  unfold largestFirst
  split
  · split
    · simp [or_comm]
    · rfl
  · rfl

/-- A choice with a single alternative collapses to a proper schema. -/
theorem proper_collapseAnyOf (hdefinitions : ∀ found, definitions = some found → found.Proper)
    {property schema : Schema} {type : String} (hproperty : property.Proper)
    (h : collapseAnyOf definitions field property = .ok (type, schema)) : schema.Proper := by
  simp only [collapseAnyOf, bind_eq_ok, pure_eq_ok] at h
  obtain ⟨values, hvalues, all, hall, -, -, found, hfound, ⟨inferred, only⟩, honly, h⟩ := h
  have hall := proper_mapM_ofJson (proper_branches hproperty hvalues) hall
  have hfound : ∀ entry ∈ found, entry.2.Proper := by
    refine proper_alternatives hdefinitions ?_ (by simp) hfound
    intro branch hbranch
    exact hall branch (List.mem_filter.mp (mem_largestFirst.mp hbranch)).1
  have honly : only.Proper := by
    unfold onlyAlternative at honly
    split at honly
    · cases honly
    · simp only [Except.ok.injEq] at honly
      exact hfound (inferred, only) (by simp [honly])
    · cases honly
  simp only [List.foldl_cons, List.foldl_nil, Prod.mk.injEq] at h
  rw [← h.2]
  exact proper_inherit (proper_inherit (proper_inherit honly hproperty _) hproperty _) hproperty _

/-- A schema with a list of types collapses to a proper one. -/
theorem proper_collapseTypes {schema result : Schema} (hschema : schema.Proper)
    (h : collapseTypes field schema = .ok result) : result.Proper := by
  unfold collapseTypes at h
  split at h
  · split at h
    · cases h
    · simp only [Except.ok.injEq] at h
      exact h ▸ Json.proper_put hschema (.string _)
    · cases h
  · simp only [Except.ok.injEq] at h
    exact h ▸ hschema

end Schema

/-! ## Parts of fields -/

namespace Building

/-- Giving choices a type keeps a schema proper. -/
theorem proper_withTextChoices {schema : Schema} (h : schema.Proper) :
    (withTextChoices schema).Proper := by
  unfold withTextChoices
  split
  · exact Json.proper_put h (.string _)
  · exact h

/-- The schema of a property is proper. -/
theorem proper_propertySchema {scope : Scope} {field : String} {property schema : Schema}
    (hscope : scope.Proper) (hproperty : property.Proper)
    (h : propertySchema scope field property = .ok schema) : schema.Proper := by
  simp only [propertySchema, bind_eq_ok] at h
  obtain ⟨resolved, hresolved, collapsed, hcollapsed, h⟩ := h
  have hresolved : resolved.Proper := by
    unfold resolveProperty at hresolved
    split at hresolved
    · exact Schema.proper_collapseAllOf hscope hproperty hresolved
    · split at hresolved
      · simp only [bind_eq_ok, pure_eq_ok] at hresolved
        obtain ⟨⟨type, found⟩, hfound, rfl⟩ := hresolved
        have hproper := Schema.proper_collapseAnyOf hscope hproperty hfound
        unfold Entries.putNew
        split
        · exact hproper
        · exact Json.proper_put hproper (.string type)
      · exact Schema.proper_follow hscope hproperty hresolved
  have htyped := proper_withTextChoices (Schema.proper_collapseTypes hresolved hcollapsed)
  unfold checkHasType at h
  split at h
  · simp only [Except.ok.injEq] at h
    exact h ▸ htyped
  · cases h

/-- The schema of the items of a list is proper as it is written. -/
theorem proper_writtenItems {field : String} {schema items : Schema} (hschema : schema.Proper)
    (h : writtenItems field schema = .ok items) : items.Proper := by
  unfold writtenItems at h
  split at h
  · cases h
  · cases h
  · cases h
  · rename_i value hvalue
    exact Schema.proper_ofJson (hschema.get? hvalue) h

/-- The schema of the items of a list is proper. -/
theorem proper_itemSchema {scope : Scope} {field : String} {schema items : Schema}
    (hscope : scope.Proper) (hschema : schema.Proper)
    (h : itemSchema scope field schema = .ok items) : items.Proper := by
  simp only [itemSchema, bind_eq_ok] at h
  obtain ⟨written, hwritten, found, hfound, -, -, collapsed, hcollapsed, h⟩ := h
  have hwritten := proper_writtenItems hschema hwritten
  have hfound : found.Proper := Schema.proper_follow hscope hwritten hfound
  have htyped := proper_withTextChoices (Schema.proper_collapseTypes hfound hcollapsed)
  unfold checkItemType at h
  split at h
  · split at h
    · cases h
    · simp only [Except.ok.injEq] at h
      exact h ▸ htyped
  · cases h

/-- The definitions that a schema brings along are proper. -/
theorem proper_entering {scope : Scope} {schema : Schema} (hscope : scope.Proper)
    (hschema : schema.Proper) : (scope.entering schema).Proper := by
  unfold Scope.entering
  split
  · rename_i definitions hdefinitions
    intro found hfound
    simp only [Option.some.injEq] at hfound
    exact hfound ▸ hschema.get? hdefinitions
  · exact hscope

/-- A child has the definitions of the place above it. -/
theorem proper_child {scope next : Scope} {step : String} (hscope : scope.Proper)
    (h : scope.child step = .ok next) : next.Proper := by
  simp only [Scope.child] at h
  split at h
  · cases h
  · cases h
    exact hscope

/-- The properties that are read are those that the schema has. -/
theorem get?_of_readProperties {location : String} {schema properties : Schema}
    (h : readProperties location schema = .ok properties) :
    schema.get? "properties" = some (.object properties) := by
  unfold readProperties at h
  split at h
  · rename_i found hfound
    cases h
    exact hfound
  · cases h
  · cases h

/-- The properties of a proper schema are proper. -/
theorem proper_readProperties {location : String} {schema properties : Schema}
    (hschema : schema.Proper) (h : readProperties location schema = .ok properties) :
    properties.Proper :=
  hschema.get? (get?_of_readProperties h)

end Building
end SchemaForm
