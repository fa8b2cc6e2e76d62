import SchemaForm.Draft
import SchemaForm.Proofs.Entries

/-!
# Drafts and their documents

A draft is written as a document node by node: the name of the kind of the node
first, then what the node holds.  Reading such a document gives the draft back,
with the nodes of each group in their order, and it does not matter at which nodes
the two keys change places.

Main results:

- Definition `content`: what the document of a node holds beside the kind.
- Theorem `toJsonIn_false`: a draft as a document in which no keys change places.
- Theorem `ofJson?_toJsonIn`: a draft is read back from its document, whatever nodes in it have
  their value before their kind.
-/

namespace SchemaForm

namespace Draft

/-! ## The format -/

/-- Drafts in which the names of every group are distinct. -/
inductive HasDistinctNames : Draft → Prop where
  | text (s : String) : HasDistinctNames (.text s)
  | toggle (on : Bool) : HasDistinctNames (.toggle on)
  | choice (chosen : Option String) : HasDistinctNames (.choice chosen)
  | choices (chosen : List String) : HasDistinctNames (.choices chosen)
  | list {items : List Draft} (hitems : ∀ item ∈ items, HasDistinctNames item) :
      HasDistinctNames (.list items)
  | group {entries : List (String × Draft)} (hnames : (Entries.names entries).Nodup)
      (hnodes : ∀ entry ∈ entries, HasDistinctNames entry.2) : HasDistinctNames (.group entries)

/-- What the document of a node holds beside the kind: a text, a truth value, a text or `null`, the
texts in order, the documents of the items in order, or those of the nodes under their names. -/
def content : Draft → Json
  | .text s => .string s
  | .toggle on => .bool on
  | .choice chosen => .ofString? chosen
  | .choices chosen => .ofStrings chosen
  | .list items => .array (items.map toJson)
  | .group entries => .object (entries.map fun entry => (entry.1, entry.2.toJson))

/-- A node as a document, with its value before its kind if the two are swapped. -/
def taggedIn (swapped : Bool) (kind : String) (value : Json) : Json :=
  if swapped then .object [("value", value), ("kind", .string kind)] else tagged kind value

mutual

/-- A draft as a document in which the kind and the value of some nodes are swapped.  A node is
given by the positions on the way down to it. -/
def toJsonIn : Draft → (List Nat → Bool) → Json
  | .text s => fun swapped => taggedIn (swapped []) "text" (.string s)
  | .toggle on => fun swapped => taggedIn (swapped []) "toggle" (.bool on)
  | .choice chosen => fun swapped => taggedIn (swapped []) "choice" (.ofString? chosen)
  | .choices chosen => fun swapped => taggedIn (swapped []) "choices" (.ofStrings chosen)
  | .list items => fun swapped =>
      taggedIn (swapped []) "list" (.array (toJsonItemsIn items swapped 0))
  | .group entries => fun swapped =>
      taggedIn (swapped []) "group" (.object (toJsonEntriesIn entries swapped 0))

/-- The items of a list from a position on as values of such a document. -/
def toJsonItemsIn : List Draft → (List Nat → Bool) → Nat → List Json
  | [] => fun _ _ => []
  | item :: rest => fun swapped index =>
      toJsonIn item (fun place => swapped (index :: place)) ::
        toJsonItemsIn rest swapped (index + 1)

/-- The nodes of a group from a position on as entries of such a document. -/
def toJsonEntriesIn :
    List (String × Draft) → (List Nat → Bool) → Nat → List (String × Json)
  | [] => fun _ _ => []
  | (name, node) :: rest => fun swapped index =>
      (name, toJsonIn node fun place => swapped (index :: place)) ::
        toJsonEntriesIn rest swapped (index + 1)

end

theorem toJsonItems_eq_map (items : List Draft) : toJsonItems items = items.map toJson := by
  induction items with
  | nil => rfl
  | cons item rest ih => rw [toJsonItems, ih, List.map_cons]

theorem toJsonEntries_eq_map (entries : List (String × Draft)) :
    toJsonEntries entries = entries.map fun entry => (entry.1, entry.2.toJson) := by
  induction entries with
  | nil => rfl
  | cons entry rest ih => rw [toJsonEntries, ih, List.map_cons]

/-- The document of a node names its kind first and then holds its content. -/
theorem toJson_eq_tagged (draft : Draft) : draft.toJson = tagged draft.kind draft.content := by
  cases draft with
  | list items => rw [toJson, toJsonItems_eq_map, kind, content]
  | group entries => rw [toJson, toJsonEntries_eq_map, kind, content]
  | _ => rw [toJson, kind, content]

mutual

/-- A draft as a document in which no keys are swapped. -/
theorem toJsonIn_false (draft : Draft) : draft.toJsonIn (fun _ => false) = draft.toJson := by
  cases draft with
  | list items =>
      simp only [toJsonIn, toJsonItemsIn_false]
      rfl
  | group entries =>
      simp only [toJsonIn, toJsonEntriesIn_false]
      rfl
  | _ => rfl

theorem toJsonItemsIn_false (items : List Draft) (index : Nat) :
    toJsonItemsIn items (fun _ => false) index = toJsonItems items := by
  cases items with
  | nil => rfl
  | cons item rest =>
      simp only [toJsonItemsIn, toJsonItems, toJsonIn_false, toJsonItemsIn_false]

theorem toJsonEntriesIn_false (entries : List (String × Draft)) (index : Nat) :
    toJsonEntriesIn entries (fun _ => false) index = toJsonEntries entries := by
  cases entries with
  | nil => rfl
  | cons entry rest =>
      simp only [toJsonEntriesIn, toJsonEntries, toJsonIn_false, toJsonEntriesIn_false]

end

/-! ## Reading back -/

/-- A node is read from its kind and its value, in whichever order they stand. -/
theorem ofJson?_taggedIn (swapped : Bool) (kind : String) (value : Json) :
    ofJson? (taggedIn swapped kind value) =
      nodeOf? (.string kind) (some value) (partsOf value) := by
  cases swapped <;> simp [taggedIn, tagged, ofJson?, Entries.get?_cons, partsOfEntries]

/-- Texts are read back from the array of them. -/
theorem stringsOf?_ofStrings (texts : List String) :
    stringsOf? (.ofStrings texts) = some texts := by
  rw [Json.ofStrings, stringsOf?, List.mapM_map]
  induction texts with
  | nil => rfl
  | cons text rest ih => simp [List.mapM_cons, ih, Json.asString?]

/-- The items of a list are read back when each of them is. -/
theorem ofItems?_toJsonItemsIn {items : List Draft}
    (hitems : ∀ item ∈ items, ∀ swapped, ofJson? (item.toJsonIn swapped) = some item)
    (swapped : List Nat → Bool) (index : Nat) :
    ofItems? (toJsonItemsIn items swapped index) = some items := by
  induction items generalizing index with
  | nil => rfl
  | cons item rest ih =>
      obtain ⟨hitem, hrest⟩ := List.forall_mem_cons.mp hitems
      simp [toJsonItemsIn, ofItems?, hitem, ih hrest]

/-- The nodes of a group are read back when each of them is. -/
theorem ofEntries?_toJsonEntriesIn {entries : List (String × Draft)}
    (hnodes : ∀ entry ∈ entries, ∀ swapped, ofJson? (entry.2.toJsonIn swapped) = some entry.2)
    (swapped : List Nat → Bool) (index : Nat) :
    ofEntries? (toJsonEntriesIn entries swapped index) = some entries := by
  induction entries generalizing index with
  | nil => rfl
  | cons entry rest ih =>
      obtain ⟨hnode, hrest⟩ := List.forall_mem_cons.mp hnodes
      simp [toJsonEntriesIn, ofEntries?, hnode, ih hrest]

/-- A draft is read back from its document, whatever nodes in it have their keys swapped. -/
theorem ofJson?_of_hasDistinctNames {draft : Draft} (hdraft : draft.HasDistinctNames)
    (swapped : List Nat → Bool) : ofJson? (draft.toJsonIn swapped) = some draft := by
  induction hdraft generalizing swapped with
  | text s => exact ofJson?_taggedIn _ _ _
  | toggle on => exact ofJson?_taggedIn _ _ _
  | choice chosen =>
      rw [toJsonIn, ofJson?_taggedIn]
      cases chosen <;> rfl
  | choices chosen =>
      rw [toJsonIn, ofJson?_taggedIn]
      simp [nodeOf?, kindOf?, leafOf?, stringsOf?_ofStrings]
  | list _ ih =>
      rw [toJsonIn, ofJson?_taggedIn]
      simp [nodeOf?, kindOf?, partsOf, ofItems?_toJsonItemsIn ih]
  | group hnames _ ih =>
      rw [toJsonIn, ofJson?_taggedIn]
      simp [nodeOf?, kindOf?, partsOf, ofEntries?_toJsonEntriesIn ih,
        Entries.ofList_eq_self hnames]

/-- The document of a draft holds at each node the name of its kind and its content, and the draft
is read back from it, the names of groups in their order.  So it is when the kind and the value
change places at some of the nodes, whichever they are. -/
theorem ofJson?_toJsonIn {draft : Draft} (hdraft : draft.HasDistinctNames) :
    draft.toJson = tagged draft.kind draft.content ∧ ofJson? draft.toJson = some draft ∧
      draft.toJsonIn (fun _ => false) = draft.toJson ∧
        ∀ swapped, ofJson? (draft.toJsonIn swapped) = some draft := by
  have hread := ofJson?_of_hasDistinctNames hdraft
  refine ⟨toJson_eq_tagged draft, ?_, toJsonIn_false draft, hread⟩
  rw [← toJsonIn_false draft]
  exact hread _

/-- A draft with empty parts, without a choice, and with nodes that are named like the keys of a
document. -/
def nestedDraft : Draft :=
  .group
    [("value",
        .list [.list [], .group [("kind", .choice none), ("", .text "")], .choices ["b", "a"]]),
      ("kind", .group []), ("a", .toggle true)]

/-- A nested draft is read back, also with its keys swapped at the root and in the last item of its
list. -/
theorem ofJson?_nestedDraft :
    nestedDraft.HasDistinctNames ∧ ofJson? nestedDraft.toJson = some nestedDraft ∧
      ofJson? (nestedDraft.toJsonIn fun place => place == [] || place == [0, 2]) =
        some nestedDraft := by
  have hdraft : nestedDraft.HasDistinctNames := by
    refine .group (by decide) ?_
    simp only [List.forall_mem_cons, List.not_mem_nil, false_implies, implies_true, and_true]
    refine ⟨.list ?_, .group List.nodup_nil (List.forall_mem_nil _), .toggle true⟩
    simp only [List.forall_mem_cons, List.not_mem_nil, false_implies, implies_true, and_true]
    refine ⟨.list (List.forall_mem_nil _), .group (by decide) ?_, .choices _⟩
    simp only [List.forall_mem_cons, List.not_mem_nil, false_implies, implies_true, and_true]
    exact ⟨.choice none, .text ""⟩
  obtain ⟨-, hread, -, hswapped⟩ := ofJson?_toJsonIn hdraft
  exact ⟨hdraft, hread, hswapped _⟩

end Draft
end SchemaForm
