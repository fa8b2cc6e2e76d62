import Mathlib.Data.List.Forall2
import SchemaForm.Proofs.Building.Nullable

/-!
# Spellings of a property

The schema of a property may be written as it is, as the only branch of `allOf`,
as a reference to its definition, as a branch that is such a reference, or under
a list of its type and `null`.  All of these lead to one schema in one scope, so
they build one field, or fail with one error.

Main results:

- Theorem `referenceKey_append`: a reference with a known beginning names the key after it.
- Theorem `propertySchema_of_spells`: a property is built from the schema that it spells.
- Theorem `buildProperties_of_spells`: a group may spell its properties anew.
- Theorem `buildProperty_of_spells`: all spellings of a property give the same field or error.
-/

namespace SchemaForm

open Result

namespace Schema

/-! ## References -/

/-- A text that begins with the given one is that and a rest. -/
theorem dropStart?_append (start key : String) : dropStart? start (start ++ key) = some key := by
  simp [dropStart?]

/-- A reference with a known beginning names the key after it. -/
theorem referenceKey_append {start : String} (h : start ∈ referenceStarts) (key : String) :
    referenceKey (start ++ key) = key := by
  have hcases : start = "#/components/schemas/" ∨ start = "#/$defs/" := by
    simpa [referenceStarts] using h
  rcases hcases with rfl | rfl
  · simp [referenceKey, referenceStarts, dropStart?_append]
  · have hother : dropStart? "#/components/schemas/" ("#/$defs/" ++ key) = none := by
      simp [dropStart?]
    simp [referenceKey, referenceStarts, dropStart?_append, hother]

/-! ## Spellings -/

/-- A reference to the definition with the given key. -/
def referTo (start key : String) : Schema :=
  [("$ref", .string (start ++ key))]

/-- A schema as the only branch of a union. -/
def onlyBranchOf (branch : Schema) : Schema :=
  [("allOf", .array [.object branch])]

/-- The schemas that stand for a given one as a property, where the given definitions are known. -/
inductive Spells (definitions : Option Schema) (schema : Schema) : Schema → Prop where
  | plain : Spells definitions schema schema
  | branch : Spells definitions schema (onlyBranchOf schema)
  | reference {start key : String} (hstart : start ∈ referenceStarts)
      (hkey : definitions.bind (fun found => Entries.get? found key) = some (.object schema)) :
      Spells definitions schema (referTo start key)
  | referenceBranch {start key : String} (hstart : start ∈ referenceStarts)
      (hkey : definitions.bind (fun found => Entries.get? found key) = some (.object schema)) :
      Spells definitions schema (onlyBranchOf (referTo start key))
  | typeOrNull {type : String} (htype : schema.get? "type" = some (.string type))
      (hnull : type ≠ "null") :
      Spells definitions schema (schema.put "type" (.array [.string type, .string "null"]))
  | nullOrType {type : String} (htype : schema.get? "type" = some (.string type))
      (hnull : type ≠ "null") :
      Spells definitions schema (schema.put "type" (.array [.string "null", .string type]))

/-- Whether a schema is neither a reference nor a union. -/
def isPlain (schema : Schema) : Bool :=
  !schema.has "$ref" && !schema.has "allOf" && !schema.has "anyOf"

variable {definitions : Option Schema} {location : String} {schema spelling : Schema}

/-- A plain schema has no key of a reference or a union. -/
theorem get?_of_isPlain (h : schema.isPlain = true) :
    schema.get? "$ref" = none ∧ schema.get? "allOf" = none ∧ schema.get? "anyOf" = none := by
  simpa [isPlain, Entries.has, and_assoc] using h

/-- A reference to a definition is followed to it. -/
theorem follow_referTo {start key : String} (hstart : start ∈ referenceStarts)
    (hkey : definitions.bind (fun found => Entries.get? found key) = some (.object schema))
    (other : Schema) : follow definitions location (referTo start key) other = .ok schema := by
  have hget : Entries.get? (referTo start key) "$ref" = some (.string (start ++ key)) := rfl
  rw [follow, hget]
  refine resolve_eq_ok.mpr ?_
  rw [referenceKey_append hstart]
  exact hkey

/-- A union without other keys stands for its only branch. -/
theorem collapseAllOf_onlyBranchOf (branch : Schema) :
    collapseAllOf definitions location (onlyBranchOf branch) =
      follow definitions location branch branch := by
  have hdescription : inherit branch (onlyBranchOf branch) "description" = branch := rfl
  have hdefault : ∀ resolved, withDefault resolved (onlyBranchOf branch) = resolved :=
    fun _ => rfl
  have honly : (branches location (onlyBranchOf branch) "allOf" >>= onlyBranch location) =
      .ok branch := rfl
  simp only [collapseAllOf, ← bind_assoc, honly, ok_bind, hdescription, hdefault, bind_pure]

/-- A list of a type and `null`, in either order, is collapsed to the type. -/
theorem collapseTypes_nullable {type : String} (htype : schema.get? "type" = some (.string type))
    (hnull : type ≠ "null") {types : List Json}
    (htypes : types ∈ [[.string type, .string "null"], [.string "null", .string type]]) :
    collapseTypes location (schema.put "type" (.array types)) = .ok schema := by
  have honly : (types.filterMap Json.asString?).filter (· ≠ "null") = [type] := by
    simp only [List.mem_cons, List.not_mem_nil, or_false] at htypes
    rcases htypes with rfl | rfl <;> simp [Json.asString?, hnull]
  simp only [collapseTypes, Entries.get?_put_self, honly, Entries.put_put]
  rw [Entries.put_of_get? htype]

end Schema

namespace Building

open Schema (Spells)

variable {scope : Scope} {location : String} {schema spelling : Schema}

/-- A plain property is resolved to itself. -/
theorem resolveProperty_of_get? (href : schema.get? "$ref" = none)
    (hallOf : schema.get? "allOf" = none) (hanyOf : schema.get? "anyOf" = none) :
    resolveProperty scope location schema = .ok schema := by
  simp [resolveProperty, Entries.has, hallOf, hanyOf, Schema.follow, href]

/-- The only branch of a union is resolved to itself, or to what it refers to. -/
theorem resolveProperty_onlyBranchOf (branch : Schema) :
    resolveProperty scope location (Schema.onlyBranchOf branch) =
      Schema.follow scope.definitions location branch branch :=
  Schema.collapseAllOf_onlyBranchOf branch

/-- A property that is a reference is resolved to what it refers to. -/
theorem resolveProperty_referTo (start key : String) :
    resolveProperty scope location (Schema.referTo start key) =
      Schema.follow scope.definitions location (Schema.referTo start key)
        (Schema.referTo start key) :=
  rfl

/-- A list of types does not make a plain property a reference or a union. -/
theorem resolveProperty_put_type (h : schema.isPlain = true) (types : Json) :
    resolveProperty scope location (schema.put "type" types) = .ok (schema.put "type" types) := by
  obtain ⟨href, hallOf, hanyOf⟩ := Schema.get?_of_isPlain h
  apply resolveProperty_of_get?
  · rwa [Entries.get?_put_of_ne schema types (by decide)]
  · rwa [Entries.get?_put_of_ne schema types (by decide)]
  · rwa [Entries.get?_put_of_ne schema types (by decide)]

/-- Every spelling of a plain schema is collapsed as the schema is. -/
theorem collapseTypes_resolveProperty_of_spells (hplain : schema.isPlain = true)
    (h : Spells scope.definitions schema spelling) :
    (resolveProperty scope location spelling >>= Schema.collapseTypes location) =
      Schema.collapseTypes location schema := by
  obtain ⟨href, hallOf, hanyOf⟩ := Schema.get?_of_isPlain hplain
  cases h with
  | plain => rw [resolveProperty_of_get? href hallOf hanyOf, ok_bind]
  | branch =>
      have hself : Schema.follow scope.definitions location schema schema = .ok schema := by
        simp [Schema.follow, href]
      rw [resolveProperty_onlyBranchOf, hself, ok_bind]
  | reference hstart hkey =>
      rw [resolveProperty_referTo, Schema.follow_referTo hstart hkey, ok_bind]
  | referenceBranch hstart hkey =>
      rw [resolveProperty_onlyBranchOf, Schema.follow_referTo hstart hkey, ok_bind]
  | typeOrNull htype hnull =>
      rw [resolveProperty_put_type hplain, ok_bind, Schema.collapseTypes_of_text location htype]
      exact Schema.collapseTypes_nullable htype hnull (by simp)
  | nullOrType htype hnull =>
      rw [resolveProperty_put_type hplain, ok_bind, Schema.collapseTypes_of_text location htype]
      exact Schema.collapseTypes_nullable htype hnull (by simp)

/-- A property is built from the schema that it spells. -/
theorem propertySchema_of_spells (hplain : schema.isPlain = true)
    (h : Spells scope.definitions schema spelling) :
    propertySchema scope location spelling = propertySchema scope location schema := by
  have hcollapse : ∀ property, propertySchema scope location property =
      (resolveProperty scope location property >>= Schema.collapseTypes location) >>=
        fun collapsed => checkHasType location (withTextChoices collapsed) := by
    intro property
    simp only [propertySchema, bind_assoc]
  rw [hcollapse, hcollapse, collapseTypes_resolveProperty_of_spells hplain h,
    collapseTypes_resolveProperty_of_spells hplain .plain]

variable {inner : Build} {required : List String} {name : String}

/-- Whatever builds the parts, a property is built from the schema that it spells. -/
theorem buildProperty_eq_of_spells (hplain : schema.isPlain = true)
    (h : Spells scope.definitions schema spelling) :
    buildProperty inner scope required name (.object spelling) =
      buildProperty inner scope required name (.object schema) := by
  unfold buildProperty
  refine bind_congr_ok fun next hnext => ?_
  -- The place of the property has the definitions of the group around it.
  obtain ⟨-, hdefinitions⟩ := Scope.eq_of_child hnext
  simp only [Schema.ofJson, ok_bind]
  rw [propertySchema_of_spells hplain (hdefinitions ▸ h)]

/-- Properties of the same names, each a spelling of the other's schema. -/
def SpellsEach (definitions : Option Schema) (schemas spellings : List (String × Json)) : Prop :=
  List.Forall₂ (fun written spelled => spelled.1 = written.1 ∧
    ∃ schema spelling : Schema, written.2 = .object schema ∧ spelled.2 = .object spelling ∧
      schema.isPlain = true ∧ Spells definitions schema spelling) schemas spellings

/-- A group may spell its properties anew. -/
theorem buildProperties_of_spells {schemas spellings : List (String × Json)}
    (h : SpellsEach scope.definitions schemas spellings) :
    buildProperties inner scope required spellings =
      buildProperties inner scope required schemas := by
  unfold SpellsEach at h
  induction h with
  | nil => rfl
  | @cons written spelled writtens spelleds hfirst hrest ih =>
      obtain ⟨name, value⟩ := written
      obtain ⟨name, value'⟩ := spelled
      obtain ⟨rfl, schema, spelling, rfl, rfl, hplain, hspells⟩ := hfirst
      simp only [buildProperties]
      rw [buildProperty_eq_of_spells hplain hspells, ih]

/-- All spellings of a property that is neither a reference nor a union give the same field or the
same error. -/
theorem buildProperty_of_spells (hplain : schema.isPlain = true)
    (h : Spells scope.definitions schema spelling) :
    buildProperty Scope.compile scope required name (.object spelling) =
      buildProperty Scope.compile scope required name (.object schema) :=
  buildProperty_eq_of_spells hplain h

/-! ### A palette -/

/-- A group that refers to the definition of a color. -/
def palette : Schema :=
  [("type", .string "object"),
    ("properties", .object [("main", .object (Schema.referTo "#/$defs/" "Color"))])]

/-- The definitions of a color and of a palette. -/
def paletteDefinitions : Schema :=
  colorDefinitions ++ [("Palette", .object palette)]

/-- The spellings of a palette. -/
def paletteSpellings : List Schema :=
  [Schema.onlyBranchOf palette,
    Schema.referTo "#/$defs/" "Palette",
    Schema.referTo "#/components/schemas/" "Palette",
    Schema.onlyBranchOf (Schema.referTo "#/$defs/" "Palette"),
    palette.put "type" (.array [.string "object", .string "null"]),
    palette.put "type" (.array [.string "null", .string "object"])]

/-- Every spelling of a palette is built into the same group. -/
theorem buildProperty_paletteSpellings :
    ∃ field,
      buildProperty Scope.compile ⟨Registry.standard, {}, some paletteDefinitions, 0, ""⟩ []
          "palette" (.object palette) = .ok field ∧
        ∀ spelling ∈ paletteSpellings,
          buildProperty Scope.compile ⟨Registry.standard, {}, some paletteDefinitions, 0, ""⟩ []
            "palette" (.object spelling) = .ok field := by
  have hsucceeds : Rule.succeeded
      (buildProperty Scope.compile ⟨Registry.standard, {}, some paletteDefinitions, 0, ""⟩ []
        "palette" (.object palette)) = true := by
    decide +kernel
  obtain ⟨field, hfield⟩ := exists_of_succeeded hsucceeds
  refine ⟨field, hfield, fun spelling hmem => ?_⟩
  rw [← hfield]
  apply buildProperty_of_spells (by decide)
  simp only [paletteSpellings, List.mem_cons, List.not_mem_nil, or_false] at hmem
  rcases hmem with rfl | rfl | rfl | rfl | rfl | rfl
  · exact .branch
  · exact .reference (by decide) rfl
  · exact .reference (by decide) rfl
  · exact .referenceBranch (by decide) rfl
  · exact .typeOrNull rfl (by decide)
  · exact .nullOrType rfl (by decide)

end Building
end SchemaForm
