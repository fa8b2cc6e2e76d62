import SchemaForm.Draft

/-!
# Loading data into drafts

The draft of a cleared field, of a field with its defaults, and of a field
that holds given data.  Names that data does not have keep their defaults, and
names that the form does not have are left out.

Main results:

- Theorem `load_null`: the value `null` clears a field.
- Theorem `names_clearedFields`: a cleared group has the names of its fields in order.
- Theorem `names_mergeInto`: data never changes which names a group has, or their order.
-/

namespace SchemaForm
namespace Field

/-! ## Cleared fields -/

mutual

/-- The draft in which every value is cleared. -/
def cleared : Field → Draft
  | .boolean _ => .toggle false
  | .string spec => if isSelect (.string spec) then .choice none else .text ""
  | .number _ => .text ""
  | .array _ item => if item.attributes.choices.isSome then .choices [] else .list []
  | .object _ fields => .group (clearedFields fields)

/-- The cleared drafts of named fields. -/
def clearedFields : List (String × Field) → List (String × Draft)
  | [] => []
  | (name, field) :: rest => (name, cleared field) :: clearedFields rest

end

/-- The kind of draft that a field has. -/
def draftKind (field : Field) : String :=
  field.cleared.kind

/-! ## Items of lists -/

/-- Apply a function to the items of a list; an error is seen from the list. -/
def eachItem {α β : Type} (f : α → Except DataError β) :
    Nat → List α → Except DataError (List β)
  | _, [] => .ok []
  | index, item :: rest => do
      let value ← (f item).mapError (DataError.within (Location.position index))
      let others ← eachItem f (index + 1) rest
      return value :: others

/-- The text of a choice in data. -/
def choiceText (native : Json) : Except DataError String :=
  match native with
  | .string _ | .number _ | .bool _ => .ok native.plainText
  | other => .error (.shape "" "a string" other)

/-- The draft of a list of data: texts for a closed list, or else a draft for each item. -/
def loadItems (item : Field) (loadItem : Json → Except DataError Draft) (natives : List Json) :
    Except DataError Draft :=
  if item.attributes.choices.isSome then (eachItem choiceText 0 natives).map .choices
  else (eachItem loadItem 0 natives).map .list

/-! ## Groups -/

/-- Put data into the drafts of a group.  Each name that has a loader is replaced; others are left
out. -/
def mergeInto (loaders : Entries (Json → Except DataError Draft)) :
    Entries Draft → List (String × Json) → Except DataError (Entries Draft)
  | group, [] => .ok group
  | group, (name, native) :: rest =>
      match loaders.get? name with
      | some load => do
          let draft ← (load native).mapError (DataError.within name)
          mergeInto loaders (group.put name draft) rest
      | none => mergeInto loaders group rest

/-- Put the default of a group into its drafts. -/
def mergeDefault (loaders : Entries (Json → Except DataError Draft)) (spec : Spec)
    (group : Entries Draft) : Except DataError (Entries Draft) :=
  match spec.attributes.default with
  | some (.object natives) => mergeInto loaders group natives
  | _ => .ok group

/-! ## Fields -/

mutual

/-- The draft of a field with its defaults. -/
def opened : Field → Except DataError Draft
  | .boolean spec => .ok (.toggle spec.defaultIsOn)
  | .string spec =>
      if isSelect (.string spec) then .ok (.choice spec.initialChoice)
      else spec.defaultText.map .text
  | .number spec => spec.defaultText.map .text
  | .array spec item =>
      match spec.attributes.default with
      | some (.array natives) => loadItems item (load item) natives
      | _ => .ok (cleared (.array spec item))
  | .object spec fields => do
      let group ← openedFields fields
      (mergeDefault (loaders fields) spec group).map .group

/-- The draft of a field that holds data. -/
def load : Field → Json → Except DataError Draft
  | .boolean spec => fun native =>
      match native with
      | .null => .ok (cleared (.boolean spec))
      | .bool on => .ok (.toggle on)
      | other => .error (.shape "" "a boolean" other)
  | .string spec => fun native =>
      match native with
      | .null => .ok (cleared (.string spec))
      | native =>
          if isSelect (.string spec) then
            (choiceText native).map fun text => .choice (some text)
          else (spec.codec.textOfNative "" native).map .text
  | .number spec => fun native =>
      match native with
      | .null => .ok (cleared (.number spec))
      | native => (spec.codec.textOfNative "" native).map .text
  | .array spec item => fun native =>
      match native with
      | .null => .ok (cleared (.array spec item))
      | .array natives => loadItems item (load item) natives
      | other => .error (.shape "" "an array" other)
  | .object spec fields => fun native =>
      match native with
      | .null => .ok (cleared (.object spec fields))
      | .object natives => do
          let group ← openedFields fields
          let group ← mergeDefault (loaders fields) spec group
          (mergeInto (loaders fields) group natives).map .group
      | other => .error (.shape "" "an object" other)

/-- The drafts of named fields with their defaults. -/
def openedFields : List (String × Field) → Except DataError (List (String × Draft))
  | [] => .ok []
  | (name, field) :: rest => do
      let draft ← (opened field).mapError (DataError.within name)
      let others ← openedFields rest
      return (name, draft) :: others

/-- The functions that load data into named fields. -/
def loaders : List (String × Field) → List (String × (Json → Except DataError Draft))
  | [] => []
  | (name, field) :: rest => (name, load field) :: loaders rest

end

/-! ## Laws -/

/-- The value `null` clears a field. -/
theorem load_null (field : Field) : field.load .null = .ok field.cleared := by
  cases field <;> simp [load]

/-- A cleared group has the names of its fields in order. -/
theorem names_clearedFields (fields : List (String × Field)) :
    Entries.names (clearedFields fields) = Entries.names fields := by
  induction fields with
  | nil => simp [clearedFields, Entries.names]
  | cons entry rest ih =>
      obtain ⟨name, field⟩ := entry
      simp only [Entries.names] at ih
      simp [clearedFields, Entries.names, ih]

/-- Data that loads under known names changes neither which names a group has nor their order. -/
theorem names_mergeInto {loaders : Entries (Json → Except DataError Draft)}
    {group merged : Entries Draft} {natives : List (String × Json)}
    (hknown : ∀ name, loaders.has name = true → name ∈ group.names)
    (h : mergeInto loaders group natives = .ok merged) : merged.names = group.names := by
  induction natives generalizing group with
  | nil =>
      simp only [mergeInto, Except.ok.injEq] at h
      rw [h]
  | cons entry rest ih =>
      obtain ⟨name, native⟩ := entry
      simp only [mergeInto] at h
      split at h
      · rename_i load hload
        cases hdraft : (load native).mapError (DataError.within name) with
        | error error => simp [hdraft, bind, Except.bind] at h
        | ok draft =>
            simp only [hdraft, bind, Except.bind] at h
            have hname : name ∈ group.names := hknown name (by simp [Entries.has, hload])
            have hnames : (group.put name draft).names = group.names := by
              rw [Entries.names_put, if_pos hname]
            rw [ih (by rwa [hnames]) h, hnames]
      · exact ih hknown h

end Field
end SchemaForm
