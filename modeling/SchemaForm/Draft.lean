import SchemaForm.Field.Document

/-!
# Drafts

A draft is the state of a form while it is edited: a tree of entered texts,
switches and choices in the shape of the form.

Main results:

- Theorem `find?_replace?`: a node that was replaced is found again.
-/

namespace SchemaForm

/-- The state of a field while it is edited. -/
inductive Draft where
  | text (s : String)
  | toggle (on : Bool)
  | choice (chosen : Option String)
  | choices (chosen : List String)
  | list (items : List Draft)
  | group (entries : List (String × Draft))
deriving Inhabited

namespace Draft

/-- The name of the kind of a node. -/
def kind : Draft → String
  | .text _ => "text"
  | .toggle _ => "toggle"
  | .choice _ => "choice"
  | .choices _ => "choices"
  | .list _ => "list"
  | .group _ => "group"

/-- The node of a group under a name. -/
def child? (draft : Draft) (name : String) : Option Draft :=
  match draft with
  | .group entries => Entries.get? entries name
  | _ => none

/-- The node at the end of a path of names through groups. -/
def find? (draft : Draft) : List String → Option Draft
  | [] => some draft
  | name :: path => (draft.child? name).bind fun child => child.find? path

/-- Replace the node at the end of a path; nothing happens where there is none. -/
def replace? (draft : Draft) (node : Draft) : List String → Option Draft
  | [] => some node
  | name :: path =>
      match draft with
      | .group entries =>
          match Entries.get? entries name with
          | some child =>
              (child.replace? node path).map fun changed =>
                .group (Entries.put entries name changed)
          | none => none
      | _ => none

mutual

/-- The texts that are entered or chosen somewhere in a draft. -/
def texts : Draft → List String
  | .text s => [s]
  | .toggle _ => []
  | .choice chosen => chosen.toList
  | .choices chosen => chosen
  | .list items => textsOfItems items
  | .group entries => textsOfEntries entries

/-- The texts in the items of a list. -/
def textsOfItems : List Draft → List String
  | [] => []
  | item :: rest => texts item ++ textsOfItems rest

/-- The texts in the nodes of a group. -/
def textsOfEntries : List (String × Draft) → List String
  | [] => []
  | (_, node) :: rest => texts node ++ textsOfEntries rest

end

/-! ## Documents -/

/-- A node as a document: its kind and its value. -/
def tagged (kind : String) (value : Json) : Json :=
  .object [("kind", .string kind), ("value", value)]

mutual

/-- A draft as a document. -/
def toJson : Draft → Json
  | .text s => tagged "text" (.string s)
  | .toggle on => tagged "toggle" (.bool on)
  | .choice chosen => tagged "choice" (.ofString? chosen)
  | .choices chosen => tagged "choices" (.ofStrings chosen)
  | .list items => tagged "list" (.array (toJsonItems items))
  | .group entries => tagged "group" (.object (toJsonEntries entries))

/-- The items of a list as values of a document. -/
def toJsonItems : List Draft → List Json
  | [] => []
  | item :: rest => toJson item :: toJsonItems rest

/-- The nodes of a group as entries of a document. -/
def toJsonEntries : List (String × Draft) → List (String × Json)
  | [] => []
  | (name, node) :: rest => (name, toJson node) :: toJsonEntries rest

end

/-- Texts of a document. -/
def stringsOf? : Json → Option (List String)
  | .array items => items.mapM Json.asString?
  | _ => none

/-- A node without parts, given the name of its kind and its value if there is one. -/
def leafOf? (kind : String) (value : Option Json) : Option Draft :=
  match kind, value with
  | "text", some (.string s) => some (.text s)
  | "toggle", some (.bool on) => some (.toggle on)
  | "choice", none => some (.choice none)
  | "choice", some .null => some (.choice none)
  | "choice", some (.string s) => some (.choice (some s))
  | "choices", some value => (stringsOf? value).map .choices
  | _, _ => none

/-- The kind that a document names: by a text, or by an object with that text as its only key. -/
def kindOf? : Json → Option String
  | .string kind => some kind
  | .object [(kind, .null)] => some kind
  | _ => none

/-- A value as a list of drafts and as a group of them. -/
structure Parts where
  items : Option (List Draft) := none
  entries : Option (List (String × Draft)) := none

/-- A node of a document from its kind and its value. -/
def nodeOf? (kind : Json) (value : Option Json) (parts : Parts) : Option Draft := do
  match ← kindOf? kind with
  | "list" => parts.items.map .list
  | "group" => parts.entries.map fun found => .group (Entries.ofList found)
  | kind => leafOf? kind value

mutual

/-- The draft of a document: an object with a kind and a value in any order, in which other keys do
not count, or a list of the two. -/
def ofJson? : Json → Option Draft
  | .object entries => do
      nodeOf? (← Entries.get? entries "kind") (Entries.get? entries "value")
        (partsOfEntries entries)
  | .array [kind, value] => nodeOf? kind (some value) (partsOf value)
  | _ => none

/-- What a value is as a list and as a group. -/
def partsOf : Json → Parts
  | .array items => { items := ofItems? items }
  | .object entries => { entries := ofEntries? entries }
  | _ => {}

/-- What the value of an object is as a list and as a group. -/
def partsOfEntries : List (String × Json) → Parts
  | [] => {}
  | (key, value) :: rest => if key = "value" then partsOf value else partsOfEntries rest

/-- The drafts of values. -/
def ofItems? : List Json → Option (List Draft)
  | [] => some []
  | item :: rest => do
      let item ← ofJson? item
      let rest ← ofItems? rest
      return item :: rest

/-- The drafts of named values. -/
def ofEntries? : List (String × Json) → Option (List (String × Draft))
  | [] => some []
  | (name, value) :: rest => do
      let node ← ofJson? value
      let rest ← ofEntries? rest
      return (name, node) :: rest

end

/-! ## Laws -/

/-- A node that was replaced is found again. -/
theorem find?_replace? {draft node changed : Draft} {path : List String}
    (h : draft.replace? node path = some changed) : changed.find? path = some node := by
  induction path generalizing draft changed with
  | nil =>
      simp only [replace?, Option.some.injEq] at h
      simp [find?, h]
  | cons name path ih =>
      simp only [replace?] at h
      split at h
      · split at h
        · rename_i child hchild
          obtain ⟨inner, hinner, rfl⟩ := Option.map_eq_some_iff.mp h
          simp [find?, child?, Entries.get?_put_self, ih hinner]
        · cases h
      · cases h

end Draft
end SchemaForm
