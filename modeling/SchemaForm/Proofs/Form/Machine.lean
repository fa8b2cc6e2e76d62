import SchemaForm.Proofs.Form.Shape

/-!
# What checking asks the machine

The findings in a draft may depend on the files of the machine: the rules for paths
look for them whenever they are asked.  A field asks the machine when some text of it,
or of a part of it, is checked with such a rule.  Then there is a draft with more
findings on a machine without files than on one that has them all, and otherwise the
findings of every draft are the same on all machines that agree about the time.

Main results:

- Definition `Field.AsksMachine`: the fields of which some text is checked against the machine.
- Theorem `check_congr`, Theorem `check_uniform_mono`: how the answer of a rule changes with the
  machine.
- Theorem `findings_congr`: without such a field the findings are the same on every machine.
- Theorem `AsksMachine.exists_length_findings_lt`: with one they are not.
-/

namespace SchemaForm

/-! ## Rules -/

namespace Rule

variable {around other : Surroundings} {rule : Rule} {rules : List Rule} {text : String}

/-- Of the machine, messages only tell the time. -/
theorem message_congr (htoday : around.today = other.today) (rule : Rule) :
    rule.message around = rule.message other := by
  unfold message
  rw [htoday]

/-- A rule that does not ask the machine has the same answer on all machines with one clock. -/
theorem check_congr (htoday : around.today = other.today) (hrule : rule.asksMachine = false) :
    rule.check around text = rule.check other text := by
  unfold check rejection?
  rw [message_congr htoday rule]
  cases rule with
  | file | directory | absolutePath => cases hrule
  | _ => rfl

/-- Rules that do not ask the machine have the same answers on all machines with one clock. -/
theorem checkAll_congr (htoday : around.today = other.today)
    (hrules : ∀ rule ∈ rules, rule.asksMachine = false) :
    checkAll around rules text = checkAll other rules text :=
  List.filterMap_congr fun rule hrule => check_congr htoday (hrules rule hrule)

end Rule

/-- A machine with every file and directory and a home of the user, or one with none of them. -/
def Surroundings.uniform (full : Bool) : Surroundings where
  isFile _ := full
  isDirectory _ := full
  hasHome := full
  today _ := ""

namespace Path

/-- What is absolute without a home is absolute with one. -/
theorem isAbsolute_mono {path : String} (h : isAbsolute false path = true) :
    isAbsolute true path = true := by
  unfold isAbsolute at h ⊢
  split at h <;> simp_all

end Path

namespace Rule

variable {rule : Rule} {rules : List Rule} {text : String}

/-- A rule rejects a text on a machine without files when it does so on one with every file. -/
theorem check_uniform_mono (h : (rule.check (.uniform true) text).isSome = true) :
    (rule.check (.uniform false) text).isSome = true := by
  by_cases hrule : rule.asksMachine = true
  · by_cases htext : text.isEmpty = true
    · -- Nothing is asked about a blank text.
      have hblank : rule.check (.uniform true) text = rule.check (.uniform false) text := by
        unfold check rejection?
        rw [message_congr (show (Surroundings.uniform true).today =
          (Surroundings.uniform false).today from rfl) rule]
        cases rule with
        | file | directory | absolutePath => simp only [unlessBlank, if_pos htext]
        | _ => cases hrule
      rwa [← hblank]
    · cases rule with
      | file | directory =>
          simp [check, rejection?, unlessBlank, htext, Surroundings.uniform] at h
      | absolutePath blankAllowed =>
          simp only [check, rejection?, unlessBlank, if_neg htext, Surroundings.uniform] at h ⊢
          cases habsolute : Path.isAbsolute false text with
          | false => rfl
          | true =>
              rw [Path.isAbsolute_mono habsolute] at h
              cases h
      | _ => cases hrule
  · have hsame : rule.check (.uniform true) text = rule.check (.uniform false) text :=
      check_congr rfl (Bool.eq_false_iff.mpr hrule)
    rwa [← hsame]

/-- A rule that asks the machine rejects the text for the home only where there is no home. -/
theorem check_uniform_home (hrule : rule.asksMachine = true) :
    rule.check (.uniform true) "~" = none ∧ (rule.check (.uniform false) "~").isSome = true := by
  cases rule with
  | file blankAllowed => exact ⟨rfl, rfl⟩
  | directory blankAllowed => exact ⟨rfl, rfl⟩
  | absolutePath blankAllowed => exact ⟨rfl, rfl⟩
  | _ => cases hrule

/-- Rules reject no more on a machine with every file than on one without files. -/
theorem length_checkAll_le (rules : List Rule) (text : String) :
    (checkAll (.uniform true) rules text).length ≤
      (checkAll (.uniform false) rules text).length := by
  simp only [checkAll, List.length_filterMap_eq_countP]
  exact List.countP_mono_left fun rule _ h => check_uniform_mono h

/-- If one of some rules asks the machine they reject the text for the home more often where there
is no home. -/
theorem length_checkAll_lt (hrule : rule ∈ rules) (hasks : rule.asksMachine = true) :
    (checkAll (.uniform true) rules "~").length < (checkAll (.uniform false) rules "~").length := by
  obtain ⟨before, after, rfl⟩ := List.append_of_mem hrule
  obtain ⟨hfull, hbare⟩ := check_uniform_home hasks
  have hbefore := length_checkAll_le before "~"
  have hafter := length_checkAll_le after "~"
  obtain ⟨violation, hviolation⟩ := Option.isSome_iff_exists.mp hbare
  have hsplit : ∀ around, (checkAll around (before ++ rule :: after) "~").length =
      (checkAll around before "~").length + (rule.check around "~").toList.length +
        (checkAll around after "~").length := by
    intro around
    simp only [checkAll, List.filterMap_append, List.length_append, List.filterMap_cons]
    cases rule.check around "~" with
    | none => simp
    | some violation =>
        simp only [List.length_cons, List.length_nil, Option.toList_some]
        omega
  rw [hsplit, hsplit, hfull, hviolation]
  simp only [Option.toList_none, Option.toList_some, List.length_nil, List.length_singleton]
  omega

end Rule

/-! ## Fields -/

namespace Field

/-- The fields of which some text is checked with a rule that asks the machine. -/
inductive AsksMachine : Field → Prop where
  | string {spec : Spec} {rule : Rule} (hrule : rule ∈ effectiveRules (.string spec))
      (hasks : rule.asksMachine = true) : AsksMachine (.string spec)
  | number {spec : Spec} {rule : Rule} (hrule : rule ∈ effectiveRules (.number spec))
      (hasks : rule.asksMachine = true) : AsksMachine (.number spec)
  | choices {spec : Spec} {item : Field} {rule : Rule} (hrule : rule ∈ item.effectiveRules)
      (hasks : rule.asksMachine = true) : AsksMachine (.array spec item)
  | item {spec : Spec} {item : Field} (hitem : AsksMachine item) : AsksMachine (.array spec item)
  | field {spec : Spec} {fields : List (String × Field)} {entry : String × Field}
      (hentry : entry ∈ fields) (hfield : AsksMachine entry.2) : AsksMachine (.object spec fields)

theorem asksMachine_string {spec : Spec} :
    AsksMachine (.string spec) ↔
      ∃ rule ∈ effectiveRules (.string spec), rule.asksMachine = true := by
  constructor
  · intro h
    cases h with
    | string hrule hasks => exact ⟨_, hrule, hasks⟩
  · rintro ⟨rule, hrule, hasks⟩
    exact .string hrule hasks

theorem asksMachine_number {spec : Spec} :
    AsksMachine (.number spec) ↔
      ∃ rule ∈ effectiveRules (.number spec), rule.asksMachine = true := by
  constructor
  · intro h
    cases h with
    | number hrule hasks => exact ⟨_, hrule, hasks⟩
  · rintro ⟨rule, hrule, hasks⟩
    exact .number hrule hasks

theorem asksMachine_array {spec : Spec} {item : Field} :
    AsksMachine (.array spec item) ↔
      (∃ rule ∈ item.effectiveRules, rule.asksMachine = true) ∨ item.AsksMachine := by
  constructor
  · intro h
    cases h with
    | choices hrule hasks => exact .inl ⟨_, hrule, hasks⟩
    | item hitem => exact .inr hitem
  · rintro (⟨rule, hrule, hasks⟩ | hitem)
    · exact .choices hrule hasks
    · exact .item hitem

theorem asksMachine_object {spec : Spec} {fields : List (String × Field)} :
    AsksMachine (.object spec fields) ↔ ∃ entry ∈ fields, entry.2.AsksMachine := by
  constructor
  · intro h
    cases h with
    | field hentry hfield => exact ⟨_, hentry, hfield⟩
  · rintro ⟨entry, hentry, hfield⟩
    exact .field hentry hfield

variable {around other : Surroundings} {field : Field}

/-! ### Fields that ask nothing -/

/-- The check of a text with rules that do not ask the machine is the same on all machines. -/
theorem checkText_congr (htoday : around.today = other.today)
    (hrules : ∀ rule ∈ field.effectiveRules, rule.asksMachine = false) (text : String) :
    checkText around field text = checkText other field text := by
  unfold checkText
  rw [Rule.checkAll_congr htoday hrules]

/-- A group has the same findings on two machines when each of its fields has. -/
theorem findingsOfFields_congr {fields : List (String × Field)}
    (h : ∀ entry ∈ fields, ∀ place node,
      entry.2.findings around place node = entry.2.findings other place node)
    (path : String) (entries : Entries Draft) :
    findingsOfFields around fields path entries = findingsOfFields other fields path entries := by
  induction fields with
  | nil => rfl
  | cons entry rest ih =>
      simp only [findingsOfFields, h entry List.mem_cons_self,
        ih fun next hnext => h next (List.mem_cons_of_mem _ hnext)]

/-- A field that does not ask the machine has the same findings on all machines with one clock. -/
theorem findings_congr (htoday : around.today = other.today) (hfield : ¬ field.AsksMachine)
    (path : String) (draft : Draft) :
    field.findings around path draft = field.findings other path draft := by
  induction field using Field.induction generalizing path draft with
  | boolean spec => cases draft <;> rfl
  | string spec =>
      have hrules : ∀ rule ∈ effectiveRules (.string spec), rule.asksMachine = false :=
        fun rule hrule => Bool.eq_false_iff.mpr fun hasks => hfield (.string hrule hasks)
      cases draft with
      | text text => simp only [findings, checkText_congr htoday hrules]
      | choice chosen => simp only [findings, checkText_congr htoday hrules]
      | _ => rfl
  | number spec =>
      have hrules : ∀ rule ∈ effectiveRules (.number spec), rule.asksMachine = false :=
        fun rule hrule => Bool.eq_false_iff.mpr fun hasks => hfield (.number hrule hasks)
      cases draft with
      | text text => simp only [findings, checkText_congr htoday hrules]
      | _ => rfl
  | array spec item ih =>
      have hrules : ∀ rule ∈ item.effectiveRules, rule.asksMachine = false :=
        fun rule hrule => Bool.eq_false_iff.mpr fun hasks => hfield (.choices hrule hasks)
      have hitem : findings around item = findings other item := by
        funext place node
        exact ih (fun hitem => hfield (.item hitem)) place node
      cases draft with
      | choices chosen => simp only [findings, checkText_congr htoday hrules]
      | list items => simp only [findings, hitem]
      | _ => rfl
  | object spec fields ih =>
      cases draft with
      | group entries =>
          have hfields : ∀ entry ∈ fields, ∀ place node,
              entry.2.findings around place node = entry.2.findings other place node :=
            fun entry hentry place node => ih entry hentry (fun h => hfield (.field hentry h)) _ _
          simp only [findings]
          exact findingsOfFields_congr hfields path entries
      | _ => rfl

/-! ### Fields that ask something -/

/-- The check of a text finds no more on a machine with every file than on one without files. -/
theorem length_checkText_le (field : Field) (text : String) :
    (checkText (.uniform true) field text).length ≤
      (checkText (.uniform false) field text).length := by
  have hrules := Rule.length_checkAll_le field.effectiveRules text
  unfold checkText
  split
  · split
    · exact Nat.le_refl _
    · exact hrules
  · simp only [List.length_append]
    omega

/-- The check of the text for the home finds more where there is no home, if a rule asks for it. -/
theorem length_checkText_lt {rule : Rule} (hrule : rule ∈ field.effectiveRules)
    (hasks : rule.asksMachine = true) :
    (checkText (.uniform true) field "~").length <
      (checkText (.uniform false) field "~").length := by
  have hrules := Rule.length_checkAll_lt hrule hasks
  unfold checkText
  rw [if_neg (by decide), if_neg (by decide)]
  simp only [List.length_append]
  omega

/-- If each item has no more findings in one way than in another one, so do all together. -/
theorem length_findingsOfItems_le {α : Type} {first second : String → α → List Finding}
    (h : ∀ place item, (first place item).length ≤ (second place item).length) (path : String)
    (index : Nat) (items : List α) :
    (findingsOfItems first path index items).length ≤
      (findingsOfItems second path index items).length := by
  induction items generalizing index with
  | nil => exact Nat.le_refl _
  | cons item rest ih =>
      simp only [findingsOfItems, List.length_append]
      exact Nat.add_le_add (h _ _) (ih _)

/-- If each field has no more findings on one machine than on another one, so does the group. -/
theorem length_findingsOfFields_le {fields : List (String × Field)}
    (h : ∀ entry ∈ fields, ∀ place node, (entry.2.findings around place node).length ≤
      (entry.2.findings other place node).length) (path : String) (entries : Entries Draft) :
    (findingsOfFields around fields path entries).length ≤
      (findingsOfFields other fields path entries).length := by
  induction fields with
  | nil => exact Nat.le_refl _
  | cons entry rest ih =>
      simp only [findingsOfFields, List.length_append]
      exact Nat.add_le_add (h entry List.mem_cons_self _ _)
        (ih fun next hnext => h next (List.mem_cons_of_mem _ hnext))

/-- A draft has no more findings on a machine with every file than on one without files. -/
theorem length_findings_le (field : Field) (path : String) (draft : Draft) :
    (field.findings (.uniform true) path draft).length ≤
      (field.findings (.uniform false) path draft).length := by
  induction field using Field.induction generalizing path draft with
  | boolean spec => cases draft <;> exact Nat.le_refl _
  | string spec =>
      cases draft with
      | text text => simpa [findings, located] using length_checkText_le (.string spec) text
      | choice chosen =>
          simpa [findings, located] using length_checkText_le (.string spec) (chosen.getD "")
      | _ => exact Nat.le_refl _
  | number spec =>
      cases draft with
      | text text => simpa [findings, located] using length_checkText_le (.number spec) text
      | _ => exact Nat.le_refl _
  | array spec item ih =>
      cases draft with
      | choices chosen =>
          simp only [findings, List.length_append]
          refine Nat.add_le_add_right (length_findingsOfItems_le ?_ path 0 chosen) _
          intro place text
          simpa [located] using length_checkText_le item text
      | list items =>
          simp only [findings, List.length_append]
          exact Nat.add_le_add_right (length_findingsOfItems_le ih path 0 items) _
      | _ => exact Nat.le_refl _
  | object spec fields ih =>
      cases draft with
      | group entries =>
          simp only [findings]
          exact length_findingsOfFields_le ih path entries
      | _ => exact Nat.le_refl _

/-- A group has more findings where one of its fields has. -/
theorem length_findingsOfFields_lt {fields : List (String × Field)} {entry : String × Field}
    (hentry : entry ∈ fields) {node : Draft}
    (h : ∀ place, (entry.2.findings (.uniform true) place node).length <
      (entry.2.findings (.uniform false) place node).length) (path : String) :
    (findingsOfFields (.uniform true) fields path [(entry.1, node)]).length <
      (findingsOfFields (.uniform false) fields path [(entry.1, node)]).length := by
  induction fields with
  | nil => cases hentry
  | cons first rest ih =>
      simp only [findingsOfFields, List.length_append]
      rcases List.mem_cons.mp hentry with rfl | hentry
      · rw [Entries.get?_cons, if_pos rfl]
        exact Nat.add_lt_add_of_lt_of_le (h _)
          (length_findingsOfFields_le (fun next _ => length_findings_le next.2) path _)
      · exact Nat.add_lt_add_of_le_of_lt (length_findings_le _ _ _) (ih hentry)

/-- A field that asks the machine has a draft with more findings where there are no files. -/
theorem AsksMachine.exists_length_findings_lt (h : field.AsksMachine) :
    ∃ draft, ∀ path, (field.findings (.uniform true) path draft).length <
      (field.findings (.uniform false) path draft).length := by
  induction h with
  | string hrule hasks =>
      refine ⟨.text "~", fun path => ?_⟩
      simpa [findings, located] using length_checkText_lt hrule hasks
  | number hrule hasks =>
      refine ⟨.text "~", fun path => ?_⟩
      simpa [findings, located] using length_checkText_lt hrule hasks
  | choices hrule hasks =>
      refine ⟨.choices ["~"], fun path => ?_⟩
      simpa [findings, findingsOfItems, located] using length_checkText_lt hrule hasks
  | item _ ih =>
      obtain ⟨draft, hdraft⟩ := ih
      refine ⟨.list [draft], fun path => ?_⟩
      simpa [findings, findingsOfItems] using hdraft _
  | @field spec fields entry hentry _ ih =>
      obtain ⟨draft, hdraft⟩ := ih
      refine ⟨.group [(entry.1, draft)], fun path => ?_⟩
      simp only [findings]
      exact length_findingsOfFields_lt hentry hdraft path

end Field
end SchemaForm
