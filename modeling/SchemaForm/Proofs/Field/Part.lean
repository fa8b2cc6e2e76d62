import SchemaForm.Proofs.Building.Built

/-!
# Parts of fields

The parts of a field are the field itself, the items of its lists and the fields
of its groups, at any depth.  What every group of a field keeps, the groups of its
parts keep as well.

Main results:

- Theorem `Field.induction`: induction over the parts of fields.
- Theorem `IsPart.inherits`: what each list and each group hands down to its parts.
- Theorem `HasDistinctNames.of_isPart`: the groups of a part have distinct names when those of the
  whole have.
- Theorem `hasDistinctNames_of_compile`: the groups of a form have distinct names.
-/

namespace SchemaForm

namespace Field

/-- Induction over the parts of fields. -/
@[elab_as_elim]
theorem induction {motive : Field → Prop} (boolean : ∀ spec, motive (.boolean spec))
    (string : ∀ spec, motive (.string spec)) (number : ∀ spec, motive (.number spec))
    (array : ∀ spec item, motive item → motive (.array spec item))
    (object : ∀ spec fields, (∀ field ∈ fields, motive field.2) → motive (.object spec fields))
    (field : Field) : motive field := by
  refine @Field.rec motive (fun fields => ∀ field ∈ fields, motive field.2)
    (fun field => motive field.2) boolean string number array object ?_ ?_ ?_ field
  · simp
  · intro field rest hfield hrest
    exact List.forall_mem_cons.mpr ⟨hfield, hrest⟩
  · intro _ _ hfield
    exact hfield

/-- The field itself, the items of lists and the fields of groups below it. -/
inductive IsPart (part : Field) : Field → Prop where
  | self : IsPart part part
  | item {spec : Spec} {item : Field} (hitem : IsPart part item) : IsPart part (.array spec item)
  | field {spec : Spec} {fields : List (String × Field)} {entry : String × Field}
      (hentry : entry ∈ fields) (hfield : IsPart part entry.2) : IsPart part (.object spec fields)

/-- What the items of lists and the fields of groups take over, all parts take over. -/
theorem IsPart.inherits {property : Field → Prop} {part field : Field} (hpart : part.IsPart field)
    (hitem : ∀ spec item, property (.array spec item) → property item)
    (hfields : ∀ spec fields, property (.object spec fields) → ∀ entry ∈ fields, property entry.2)
    (h : property field) : property part := by
  induction hpart with
  | self => exact h
  | item _ ih => exact ih (hitem _ _ h)
  | field hentry _ ih => exact ih (hfields _ _ h _ hentry)

/-- Fields in which the names of every group are distinct. -/
inductive HasDistinctNames : Field → Prop where
  | boolean (spec : Spec) : HasDistinctNames (.boolean spec)
  | string (spec : Spec) : HasDistinctNames (.string spec)
  | number (spec : Spec) : HasDistinctNames (.number spec)
  | array {spec : Spec} {item : Field} (hitem : HasDistinctNames item) :
      HasDistinctNames (.array spec item)
  | object {spec : Spec} {fields : List (String × Field)} (hnames : (Entries.names fields).Nodup)
      (hfields : ∀ entry ∈ fields, HasDistinctNames entry.2) :
      HasDistinctNames (.object spec fields)

/-- The groups of a part are groups of the whole. -/
theorem HasDistinctNames.of_isPart {part field : Field} (h : field.HasDistinctNames)
    (hpart : part.IsPart field) : part.HasDistinctNames := by
  refine hpart.inherits (fun _ _ hlist => ?_) (fun _ _ hgroup => ?_) h
  · cases hlist with
    | array hitem => exact hitem
  · cases hgroup with
    | object _ hfields => exact hfields

end Field

namespace Registry

/-- The builders beside those for the five kinds make fields whose groups have distinct names. -/
def KeepsNamesDistinct (registry : Registry) : Prop :=
  registry.Keeps True fun _ _ _ field => field.HasDistinctNames

/-- Where the other builders make no groups, their names are distinct. -/
theorem IsRegular.keepsNamesDistinct {registry : Registry} (h : registry.IsRegular) :
    registry.KeepsNamesDistinct := by
  intro key build hbuild context name required schema field _ _ _ hfield
  obtain ⟨hkind, -⟩ := h key build hbuild _ _ _ _ _ hfield
  rcases Field.cases_leaf hkind with ⟨spec, rfl⟩ | ⟨spec, rfl⟩ | ⟨spec, rfl⟩
  · exact .boolean spec
  · exact .string spec
  · exact .number spec

end Registry

namespace Building

variable {registry : Registry} {settings : Settings}

/-- The groups of a field that is built from a schema with distinct keys have distinct names. -/
theorem hasDistinctNames_of_built (hregistry : registry.KeepsNamesDistinct) {field : Field}
    (h : Built registry settings True field) : field.HasDistinctNames := by
  induction h with
  | boolean => exact .boolean _
  | string => exact .string _
  | number => exact .number _
  | array _ _ _ _ ih => exact .array ih
  | object _ _ hnames _ ih => exact .object (hnames trivial) ih
  | other hbuild _ hproper _ htypes hfield ih =>
      exact hregistry _ _ hbuild _ _ _ _ _ hproper ih htypes hfield

/-- The groups of a form have distinct names. -/
theorem hasDistinctNames_of_compile {schema : Json} {form : Form}
    (hregistry : registry.KeepsNamesDistinct) (hschema : schema.Proper)
    (h : Form.compile registry settings schema = .ok form) : form.root.HasDistinctNames :=
  hasDistinctNames_of_built hregistry (built_of_compile (fun _ => hschema) h).1

end Building
end SchemaForm
