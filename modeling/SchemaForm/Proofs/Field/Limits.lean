import Mathlib.Tactic.MkIffOfInductiveProp
import SchemaForm.Proofs.Binary64.Order
import SchemaForm.Proofs.Building.Built
import SchemaForm.Proofs.Field.Settled

/-!
# Limits of integers

The limits that a schema gives for an integer are integers of 64 bits, and so is the
integer that is checked, but they are compared after rounding to 53 bits.  An integer that
is rounded to the same number as a limit counts as equal to it: it passes the limit when
the limit is inclusive, although it may lie beyond it, and it fails when the limit is
exclusive, although it may lie within it.  Below `2 ^ 53` there is no difference.

Main results:

- Theorem `contains_toBounds_iff`: what rounding makes of the limits.
- Theorem `admitsRounded_iff_admits`: limits are exact where the integer, or every limit, is below
  `2 ^ 53` in size.
- Theorem `Field.findings_load_integer_iff`: which integers a field with limits accepts.
- Theorem `Field.findings_below_minimum`: an integer below the least one has no findings.
-/

namespace SchemaForm

/-- The limits of an integer, each of them inclusive or exclusive. -/
structure Limits where
  minimum : Option Int := none
  maximum : Option Int := none
  exclusiveMinimum : Option Int := none
  exclusiveMaximum : Option Int := none

namespace Limits

variable {limits : Limits} {n : Int}

/-- The limits that are given. -/
def given (limits : Limits) : List Int :=
  limits.minimum.toList ++ limits.maximum.toList ++ limits.exclusiveMinimum.toList ++
    limits.exclusiveMaximum.toList

/-- The limits are those that a schema gives, all of them as integers of 64 bits. -/
structure AreOf (limits : Limits) (schema : Schema) : Prop where
  minimum : schema.get? "minimum" = limits.minimum.map fun n => .number (.integer n)
  maximum : schema.get? "maximum" = limits.maximum.map fun n => .number (.integer n)
  exclusiveMinimum :
    schema.get? "exclusiveMinimum" = limits.exclusiveMinimum.map fun n => .number (.integer n)
  exclusiveMaximum :
    schema.get? "exclusiveMaximum" = limits.exclusiveMaximum.map fun n => .number (.integer n)
  signed : ∀ limit ∈ limits.given, Text.Integer.signed64.contains limit = true

/-- An integer on the right side of each limit, as a comparison and a strict comparison tell. -/
@[mk_iff]
structure Separates (limits : Limits) (le lt : Int → Int → Prop) (n : Int) : Prop where
  minimum : ∀ least ∈ limits.minimum, le least n
  maximum : ∀ greatest ∈ limits.maximum, le n greatest
  exclusiveMinimum : ∀ low ∈ limits.exclusiveMinimum, lt low n
  exclusiveMaximum : ∀ high ∈ limits.exclusiveMaximum, lt n high

/-- An integer within the limits. -/
def Admits (limits : Limits) (n : Int) : Prop :=
  limits.Separates (fun a b => a ≤ b) (fun a b => a < b) n

/-- Integers that are rounded to the same place on the number line. -/
def Merge (a b : Int) : Prop :=
  (Binary64.ofInt a).rank = (Binary64.ofInt b).rank

/-- An integer within the limits when integers that are rounded to the same place count as equal. -/
def AdmitsRounded (limits : Limits) (n : Int) : Prop :=
  limits.Separates (fun a b => a ≤ b ∨ Merge a b) (fun a b => a < b ∧ ¬ Merge a b) n

/-! ## Comparisons -/

/-- Comparisons that agree on the limits separate the same integers. -/
theorem Separates.congr {le lt le' lt' : Int → Int → Prop}
    (hle : ∀ m ∈ limits.given, (le m n ↔ le' m n) ∧ (le n m ↔ le' n m))
    (hlt : ∀ m ∈ limits.given, (lt m n ↔ lt' m n) ∧ (lt n m ↔ lt' n m)) :
    limits.Separates le lt n ↔ limits.Separates le' lt' n := by
  simp only [given, List.mem_append, Option.mem_toList] at hle hlt
  simp only [separates_iff]
  refine and_congr ?_ (and_congr ?_ (and_congr ?_ ?_)) <;> refine forall₂_congr fun m hm => ?_
  · exact (hle m (.inl (.inl (.inl hm)))).1
  · exact (hle m (.inl (.inl (.inr hm)))).2
  · exact (hlt m (.inl (.inr hm))).1
  · exact (hlt m (.inr hm)).2

/-- Limits are exact where the integer, or every limit, is below `2 ^ 53` in size. -/
theorem admitsRounded_iff_admits (hlimits : ∀ m ∈ limits.given, m.natAbs < 2 ^ 64)
    (hn : n.natAbs < 2 ^ 64)
    (hsmall : n.natAbs < 2 ^ 53 ∨ ∀ m ∈ limits.given, m.natAbs < 2 ^ 53) :
    limits.AdmitsRounded n ↔ limits.Admits n := by
  have hmerge : ∀ m ∈ limits.given, Merge m n → m = n := by
    intro m hm h
    refine Binary64.eq_of_rank_ofInt_eq (hlimits m hm) hn ?_ h
    exact hsmall.symm.imp_left fun hall => hall m hm
  refine Separates.congr (fun m hm => ⟨?_, ?_⟩) (fun m hm => ⟨?_, ?_⟩)
  · exact or_iff_left_of_imp fun h => (hmerge m hm h).le
  · exact or_iff_left_of_imp fun h => (hmerge m hm h.symm).ge
  · exact and_iff_left_of_imp fun hlt h => hlt.ne (hmerge m hm h)
  · exact and_iff_left_of_imp fun hlt h => hlt.ne' (hmerge m hm h.symm)

/-! ## Bounds -/

/-- The limits as bounds of numbers. -/
def toBounds (limits : Limits) : Bounds where
  minimum := limits.minimum.map .ofInt
  maximum := limits.maximum.map .ofInt
  exclusiveMinimum := limits.exclusiveMinimum.map .ofInt
  exclusiveMaximum := limits.exclusiveMaximum.map .ofInt

/-- A schema gives the rounded limits as bounds. -/
theorem AreOf.boundsOf_eq {schema : Schema} (h : limits.AreOf schema) (field : String) :
    Building.boundsOf field schema = .ok limits.toBounds := by
  have hbound : ∀ (key : String) (limit : Option Int),
      schema.get? key = limit.map (fun n => Json.number (.integer n)) →
        Building.readOptional schema key (Building.readNumber field key) =
          .ok (limit.map Binary64.ofInt) := by
    intro key limit hkey
    cases limit with
    | none => simp only [Building.readOptional, hkey, Option.map_none]
    | some n =>
        simp only [Building.readOptional, hkey, Option.map_some]
        rfl
  simp only [Building.boundsOf, hbound _ _ h.minimum, hbound _ _ h.maximum,
    hbound _ _ h.exclusiveMinimum, hbound _ _ h.exclusiveMaximum]
  rfl

/-- A rounded integer is within the rounded limits exactly when the integer is within the limits as
far as rounding tells it from them. -/
theorem contains_toBounds_iff (hlimits : ∀ m ∈ limits.given, m.natAbs < 2 ^ 64)
    (hn : n.natAbs < 2 ^ 64) :
    limits.toBounds.contains (.ofInt n) = true ↔ limits.AdmitsRounded n := by
  have hbounds : limits.toBounds.contains (.ofInt n) = true ↔
      limits.Separates (fun a b => (!(Binary64.ofInt b).lt (.ofInt a)) = true)
        (fun a b => (!(Binary64.ofInt b).le (.ofInt a)) = true) n := by
    simp [Bounds.contains_iff, toBounds, separates_iff]
  rw [hbounds]
  refine Separates.congr (fun m hm => ?_) (fun m hm => ?_)
  · have hm := hlimits m hm
    rw [Binary64.not_lt_eq_le (Binary64.isFinite_ofInt hn) (Binary64.isFinite_ofInt hm),
      Binary64.not_lt_eq_le (Binary64.isFinite_ofInt hm) (Binary64.isFinite_ofInt hn)]
    exact ⟨Binary64.le_ofInt_iff hm hn, Binary64.le_ofInt_iff hn hm⟩
  · have hm := hlimits m hm
    rw [Binary64.not_le_eq_lt (Binary64.isFinite_ofInt hn) (Binary64.isFinite_ofInt hm),
      Binary64.not_le_eq_lt (Binary64.isFinite_ofInt hm) (Binary64.isFinite_ofInt hn)]
    exact ⟨Binary64.lt_ofInt_iff hm hn, Binary64.lt_ofInt_iff hn hm⟩

end Limits

namespace Field

open Result

/-! ## Integer fields -/

/-- The text of an integer has no violations exactly when its number is within the bounds. -/
theorem checkText_integer_iff {spec : Spec} {bounds : Option Bounds} {text : String} {x : Binary64}
    (hplain : spec.isUnrestricted = true)
    (hrules : spec.rules = Building.numberRules "integer" bounds)
    (hx : Rule.number? text = some x) (hinteger : Rule.isInteger text = true)
    (around : Surroundings) :
    checkText around (.number spec) text = [] ↔ ∀ range ∈ bounds, range.contains x = true := by
  have hplain : (Field.number spec).spec.isUnrestricted = true := hplain
  have hown : (Field.number spec).spec.rules = Building.numberRules "integer" bounds := hrules
  have hchoices : choiceViolations (.number spec) text = [] := rfl
  rw [checkText_unrestricted_iff hplain (ne_empty_of_number? hx), hown]
  simp [Building.numberRules, Rule.check, Rule.rejection?, hx, hinteger, hchoices]

/-- A schema for an integer with limits makes a number field with their bounds, if there are any. -/
theorem exists_number_of_choose {inner : Building.Build} {scope : Scope} {name : String}
    {required : Bool} {schema : Schema} {field : Field} {limits : Limits}
    (hregistry : scope.registry.IsBuiltIn)
    (hfield : Building.choose inner scope name required schema = .ok field)
    (htype : schema.get? "type" = some (.string "integer"))
    (hformat : schema.get? "format" = none) (hlimits : limits.AreOf schema) :
    ∃ header default bounds, header.type = "integer" ∧
      field = .number ⟨header, { default := default, bounds := bounds },
        Building.numberRules "integer" bounds, scope.settings.patterns⟩ ∧
      ∀ x, (∀ range ∈ bounds, range.contains x = true) ↔ limits.toBounds.contains x = true := by
  obtain ⟨kind, hfield⟩ := Building.exists_kind_of_choose hregistry hfield
  obtain ⟨-, hnamed, hkind⟩ := Building.head_of_run hfield
  have hinteger : field.header.type = "integer" := by
    simpa [hnamed] using htype
  have hnumber : kind = .number := by
    rw [hinteger] at hkind
    cases kind <;> simp_all [FieldKind.types]
  subst hnumber
  simp only [Building.run, Building.buildNumber, Building.readOptional, hformat,
    hlimits.boundsOf_eq, bind_eq_ok, Building.checkType_eq_ok] at hfield
  obtain ⟨-, -, header, -, -, -, bounds, hbounds, format, hnone, rfl, -⟩ := hfield
  cases hbounds
  cases hnone
  have hheader : header.type = "integer" := hinteger
  refine ⟨header, _, _, hheader, by rw [hheader], fun x => ?_⟩
  split
  · exact iff_of_true (by simp) (Bounds.contains_of_isUnbounded ‹_› x)
  · simp

/-- An integer field without a format accepts the integers of 64 bits that its schema admits, when
integers that are rounded to the same place count as equal.  It accepts exactly the admitted ones
where the integer, or every limit, is below `2 ^ 53` in size. -/
theorem findings_load_integer_iff {inner : Building.Build} {scope : Scope} {name : String}
    {required : Bool} {schema : Schema} {field : Field} {limits : Limits} {n : Int}
    (hregistry : scope.registry.IsBuiltIn)
    (hfield : Building.choose inner scope name required schema = .ok field)
    (htype : schema.get? "type" = some (.string "integer"))
    (hformat : schema.get? "format" = none) (hlimits : limits.AreOf schema)
    (hn : Text.Integer.signed64.contains n = true) :
    ∃ draft, field.load (.number (.integer n)) = .ok draft ∧ ∀ around path,
      (field.findings around path draft = [] ↔ limits.AdmitsRounded n) ∧
        ((n.natAbs < 2 ^ 53 ∨ ∀ m ∈ limits.given, m.natAbs < 2 ^ 53) →
          (field.findings around path draft = [] ↔ limits.Admits n)) := by
  obtain ⟨header, default, bounds, hheader, hnumber, hbounds⟩ :=
    exists_number_of_choose hregistry hfield htype hformat hlimits
  have hsize := Text.Integer.natAbs_lt_of_signed64 hn
  have hsizes : ∀ m ∈ limits.given, m.natAbs < 2 ^ 64 :=
    fun m hm => Text.Integer.natAbs_lt_of_signed64 (hlimits.signed m hm)
  obtain ⟨hleast, hgreatest⟩ := Text.Integer.contains_eq_true_iff.mp hn
  obtain ⟨x, hx, hrank⟩ := Rule.exists_number?_toString hn
  have hinteger : Rule.isInteger (toString n) = true := by
    simp only [Rule.isInteger, Text.Integer.read_trim_toString hleast hgreatest]
  refine ⟨.text (toString n), ?_, fun around path => ?_⟩
  · rw [hnumber, load_input rfl]
    simp only [Field.spec, Spec.codec, Codec.ofField, hheader]
    rw [Codec.textOfNative_integer hleast hgreatest]
    rfl
  · have hrounded : field.findings around path (.text (toString n)) = [] ↔
        limits.AdmitsRounded n := by
      rw [hnumber, findings, located_eq_nil, checkText_integer_iff rfl rfl hx hinteger,
        hbounds, Binary64.contains_congr hrank, Limits.contains_toBounds_iff hsizes hsize]
    refine ⟨hrounded, fun hsmall => ?_⟩
    rw [hrounded, Limits.admitsRounded_iff_admits hsizes hsize hsmall]

/-- A schema for an integer of at least a given size. -/
def countSchema (least : Int) : Schema :=
  [("type", .string "integer"), ("minimum", .number (.integer least))]

/-- The limits of a schema for an integer of at least a given size. -/
theorem areOf_countSchema {least : Int} (h : Text.Integer.signed64.contains least = true) :
    Limits.AreOf { minimum := some least } (countSchema least) where
  minimum := rfl
  maximum := rfl
  exclusiveMinimum := rfl
  exclusiveMaximum := rfl
  signed := by simpa [Limits.given] using h

/-- Three is accepted where two is the least value. -/
theorem findings_load_three :
    ∃ field draft, (Scope.root Registry.standard {}).compile "count" false (countSchema 2) =
        .ok field ∧
      field.load (.number (.integer 3)) = .ok draft ∧
        ∀ around path, field.findings around path draft = [] := by
  have hevaluated :
      Rule.succeeded ((Scope.root Registry.standard {}).compile "count" false (countSchema 2)) =
        true := by
    decide +kernel
  obtain ⟨field, hfield⟩ := exists_of_succeeded hevaluated
  obtain ⟨draft, hdraft, hfindings⟩ :=
    findings_load_integer_iff (n := 3) Registry.isBuiltIn_standard hfield rfl rfl
      (areOf_countSchema (by decide)) (by decide)
  have hadmits : Limits.Admits { minimum := some 2 } 3 := by
    simp [Limits.Admits, Limits.separates_iff]
  exact ⟨field, draft, hfield, hdraft, fun around path =>
    ((hfindings around path).2 (.inl (by decide))).mpr hadmits⟩

/-- The integer below the least one has no findings when both are rounded to the same number. -/
theorem findings_below_minimum :
    ∃ (limits : Limits) (field : Field) (draft : Draft),
      limits.AreOf (countSchema 9007199254740993) ∧
        (Scope.root Registry.standard {}).compile "count" false (countSchema 9007199254740993) =
            .ok field ∧
          field.load (.number (.integer 9007199254740992)) = .ok draft ∧
            field.findings ⟨fun _ => false, fun _ => false, true, id⟩ "count" draft = [] ∧
              ¬ limits.Admits 9007199254740992 := by
  have hevaluated :
      (passes ((Scope.root Registry.standard {}).compile "count" false
          (countSchema 9007199254740993)) fun field =>
        passes (field.load (.number (.integer 9007199254740992))) fun draft =>
          (field.findings ⟨fun _ => false, fun _ => false, true, id⟩ "count" draft).isEmpty) =
        true := by
    decide +kernel
  simp only [passes_iff, List.isEmpty_iff] at hevaluated
  obtain ⟨field, hfield, draft, hdraft, hfindings⟩ := hevaluated
  refine ⟨{ minimum := some 9007199254740993 }, field, draft, areOf_countSchema (by decide), hfield,
    hdraft, hfindings, fun h => ?_⟩
  have hleast := h.minimum 9007199254740993 rfl
  omega

end Field
end SchemaForm
