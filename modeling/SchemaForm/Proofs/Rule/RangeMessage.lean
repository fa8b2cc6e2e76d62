import SchemaForm.Proofs.Binary64.Order
import SchemaForm.Proofs.Binary64.Integer
import SchemaForm.Rule.Basic
import SchemaForm.Text.Split

/-!
# Messages of bounds

The message for a number outside some bounds is a sentence that compares the number with one
or two of them.  Read word by word it gives comparisons again, with bounds at the places of
the given ones.  Where a side has both kinds of bounds the message names the exclusive one
only, although both are enforced.

Main results:

- Definition `stated?`: the comparisons that a message states.
- Theorem `exists_number?_boundText`: the text of a bound is a number at the place of the bound.
- Theorem `contains_iff_stated`: a number is within bounds exactly when the comparisons of the
  message hold for it and it passes the inclusive bounds next to exclusive ones.
- Theorem `not_contains_three`: a number outside the bounds for which the message holds.
-/

namespace SchemaForm

/-! ## Sentences -/

/-- A comparison of a number with a bound. -/
inductive Comparison where
  | above (bound : Binary64)
  | atLeast (bound : Binary64)
  | below (bound : Binary64)
  | atMost (bound : Binary64)
deriving DecidableEq

namespace Comparison

/-- Whether a comparison holds for a number. -/
def holds (x : Binary64) : Comparison → Bool
  | above bound => bound.lt x
  | atLeast bound => bound.le x
  | below bound => x.lt bound
  | atMost bound => x.le bound

/-- The phrases that stand before the number of a comparison. -/
def phrases : List (String × (Binary64 → Comparison)) :=
  [("greater than", above),
    ("greater or equal", atLeast),
    ("greater than or equal to", atLeast),
    ("smaller than", below),
    ("smaller or equal to", atMost),
    ("less than or equal to", atMost)]

/-- The comparison that a phrase and a number at the start of some words stand for, and the words
after them. -/
def afterPhrase? (phrase : String) (comparison : Binary64 → Comparison) (words : List String) :
    Option (List Comparison × List String) :=
  match (Text.split ' ' phrase).isPrefixOf? words with
  | some (bound :: rest) => (Rule.number? bound).map fun x => ([comparison x], rest)
  | _ => none

/-- The comparisons at the start of some words, and the words after them. -/
def ofWords? (words : List String) : Option (List Comparison × List String) :=
  match words with
  | "between" :: low :: "and" :: high :: rest => do
      return ([atLeast (← Rule.number? low), atMost (← Rule.number? high)], rest)
  | words => phrases.findSome? fun found => afterPhrase? found.1 found.2 words

end Comparison

/-- A sentence without the point at its end, if it has one. -/
def withoutPoint (sentence : String) : String :=
  if sentence.toList.getLast? = some '.' then String.ofList sentence.toList.dropLast else sentence

/-- The comparisons that a sentence states: what comes after `Must be`, on one or two sides. -/
def stated? (sentence : String) : Option (List Comparison) :=
  match Text.split ' ' (withoutPoint sentence) with
  | "Must" :: "be" :: words => do
      let (first, rest) ← Comparison.ofWords? words
      match rest with
      | [] => return first
      | "and" :: words => do
          let (second, rest) ← Comparison.ofWords? words
          if rest.isEmpty then return first ++ second else none
      | _ => none
  | _ => none

/-! ## Numerals -/

/-- A text without blanks that ends with a digit, as numbers do. -/
def IsNumeral (cs : List Char) : Prop :=
  ∃ front c, cs = front ++ [c] ∧ ' ' ∉ front ∧ c.isDigit = true

/-- Digits are a numeral, also after other characters. -/
theorem isNumeral_append {front digits : List Char} (hfront : ' ' ∉ front) (hne : digits ≠ [])
    (hdigits : ∀ c ∈ digits, c.isDigit = true) : IsNumeral (front ++ digits) := by
  obtain ⟨more, last, rfl⟩ := (List.eq_nil_or_concat digits).resolve_left hne
  refine ⟨front ++ more, last, by simp, ?_, hdigits last (by simp)⟩
  rw [List.mem_append, not_or]
  refine ⟨hfront, fun hblank => ?_⟩
  have hdigit := hdigits ' ' (by simp [hblank])
  cases hdigit

/-- A numeral has no blank. -/
theorem IsNumeral.notMem {cs : List Char} (h : IsNumeral cs) : ' ' ∉ cs := by
  obtain ⟨front, c, rfl, hfront, hc⟩ := h
  have hblank : ' ' ≠ c := by
    rintro rfl
    cases hc
  simp [hfront, hblank]

/-- A sentence that ends with a numeral has no point to leave out. -/
theorem withoutPoint_append {text : String} (h : IsNumeral text.toList) (start : String) :
    withoutPoint (start ++ text) = start ++ text := by
  obtain ⟨front, c, htext, -, hc⟩ := h
  have hpoint : c ≠ '.' := by
    rintro rfl
    cases hc
  simp [withoutPoint, htext, hpoint]

/-- The point at the end of a sentence is left out. -/
theorem withoutPoint_point (sentence : String) : withoutPoint (sentence ++ ".") = sentence := by
  simp [withoutPoint]

/-- The decimal text of an integer is a numeral. -/
theorem isNumeral_toString (n : Int) : IsNumeral (toString n).toList := by
  cases n with
  | ofNat n =>
      rw [Text.Integer.toList_toString_ofNat]
      exact @isNumeral_append [] _ (by simp) Nat.toDigits_ne_nil
        fun c hc => Text.isDigit_of_mem hc
  | negSucc n =>
      rw [Text.Integer.toList_toString_negSucc]
      exact @isNumeral_append ['-'] _ (by simp) Nat.toDigits_ne_nil
        fun c hc => Text.isDigit_of_mem hc

namespace Binary64

/-- A decimal without an exponent is a numeral, also after a sign. -/
theorem isNumeral_positional (negative : Bool) (d : Decimal) :
    IsNumeral (signText negative ++ d.positional "").toList := by
  have hsign : ' ' ∉ (signText negative).toList := by cases negative <;> decide
  have hdigits : ∀ c ∈ Nat.toDigits 10 d.digits, c.isDigit = true := fun c hc =>
    Text.isDigit_of_mem hc
  have hblank : ∀ {cs : List Char}, (∀ c ∈ cs, c.isDigit = true) → ' ' ∉ cs := fun hcs hmem =>
    absurd (hcs ' ' hmem) (by decide)
  rw [String.toList_append]
  simp only [Decimal.positional]
  split_ifs with hexponent hpoint
  · rw [String.append_empty, String.toList_ofList]
    refine isNumeral_append hsign (by simp [Nat.toDigits_ne_nil]) fun c hc => ?_
    rcases List.mem_append.mp hc with hc | hc
    · exact hdigits c hc
    · rw [List.eq_of_mem_replicate hc]
      rfl
  · have hlength : 0 < (Nat.toDigits 10 d.digits).length :=
      List.length_pos_of_ne_nil Nat.toDigits_ne_nil
    rw [String.toList_ofList, List.append_cons, ← List.append_assoc]
    refine isNumeral_append ?_ (by rw [ne_eq, List.drop_eq_nil_iff]; omega)
      fun c hc => hdigits c (List.mem_of_mem_drop hc)
    simpa [hsign] using fun hmem => hblank hdigits (List.mem_of_mem_take hmem)
  · rw [String.toList_ofList, show ∀ zeros digits : List Char, '0' :: '.' :: (zeros ++ digits) =
      ('0' :: '.' :: zeros) ++ digits from fun _ _ => rfl, ← List.append_assoc]
    refine isNumeral_append ?_ Nat.toDigits_ne_nil hdigits
    simp [hsign]

/-- The plain text of a finite number is a numeral. -/
theorem isNumeral_plain {x : Binary64} (hx : x.isFinite = true) : IsNumeral x.plain.toList := by
  cases x with
  | finite negative significand exponent canonical =>
      simp only [plain]
      split_ifs
      · rw [String.toList_append]
        refine isNumeral_append (by cases negative <;> decide) (by decide) fun c hc => ?_
        rw [List.mem_singleton.mp hc]
        rfl
      · exact isNumeral_positional negative _
  | infinite negative => cases hx
  | nan => cases hx

/-- A number that is a small integer has the place of that integer. -/
theorem rank_ofInt_of_toInt? {x : Binary64} {n : Int} (h : x.toInt? = some n)
    (hn : n.natAbs < twoTo 53) : (ofInt n).rank = x.rank := by
  have hsize : n.natAbs < 2 ^ 64 := lt_trans hn (by decide)
  cases x with
  | finite negative significand exponent canonical =>
      simp only [toInt?, Option.ite_none_right_eq_some, Option.some.injEq] at h
      obtain ⟨hwhole, hquotient⟩ := h
      have hunits : units negative significand exponent = n * twoTo 1074 := by
        rw [← hquotient, Int.ediv_mul_cancel (Int.dvd_of_emod_eq_zero hwhole)]
      rw [rank_ofInt hsize, roundedUnits_one hn, rank, hunits]
      push_cast
      split_ifs with hnegative
      · rw [abs_of_neg hnegative, neg_mul, neg_neg]
      · rw [abs_of_nonneg (not_lt.mp hnegative)]
  | infinite negative => cases h
  | nan => cases h

end Binary64

namespace Bounds

/-- The text of a finite bound is a numeral. -/
theorem isNumeral_boundText {x : Binary64} (hx : x.isFinite = true) :
    IsNumeral (boundText x).toList := by
  unfold boundText
  split
  · split_ifs
    · exact isNumeral_toString _
    · exact Binary64.isNumeral_plain hx
  · exact Binary64.isNumeral_plain hx

/-- The text of a finite bound is a number at the place of the bound. -/
theorem exists_number?_boundText {x : Binary64} (hx : x.isFinite = true) :
    ∃ y, Rule.number? (boundText x) = some y ∧ y.rank = x.rank := by
  have hplain : Rule.number? x.plain = some x :=
    Rule.number?_eq_some.mpr ⟨Binary64.read_trim_plain hx, hx⟩
  unfold boundText
  split
  · rename_i n hn
    split_ifs with hsmall
    · have hsigned : Text.Integer.signed64.contains n = true := by
        rw [Text.Integer.contains_eq_true_iff]
        simp only [Text.Integer.signed64]
        omega
      obtain ⟨y, hy, hrank⟩ := Rule.exists_number?_toString hsigned
      refine ⟨y, hy, hrank.trans (Binary64.rank_ofInt_of_toInt? hn ?_)⟩
      exact lt_trans hsmall (by decide)
    · exact ⟨x, hplain, rfl⟩
  · exact ⟨x, hplain, rfl⟩

end Bounds

/-! ## Words -/

/-- Texts with a blank between them have the words of both. -/
theorem split_append_blank (first second : String) :
    Text.split ' ' (first ++ " " ++ second) = Text.split ' ' first ++ Text.split ' ' second := by
  have happend : ∀ cs : List Char, Text.splitOn ' ' (cs ++ ' ' :: second.toList) =
      Text.splitOn ' ' cs ++ Text.splitOn ' ' second.toList := by
    intro cs
    induction cs with
    | nil => simp [Text.splitOn]
    | cons c rest ih =>
        rw [List.cons_append, Text.splitOn, Text.splitOn, ih]
        split_ifs
        · rfl
        · obtain ⟨part, parts, hparts⟩ :=
            List.exists_cons_of_ne_nil (Text.splitOn_ne_nil ' ' rest)
          rw [hparts]
          rfl
  simp [Text.split, happend]

/-- A numeral is one word. -/
theorem split_numeral {text : String} (h : IsNumeral text.toList) :
    Text.split ' ' text = [text] := by
  simp [Text.split, Text.splitOn_of_notMem h.notMem]

/-- A phrase before a number stands for a comparison with the number. -/
def Introduces (phrase : String) (comparison : Binary64 → Comparison) : Prop :=
  ∀ {text : String} {x : Binary64}, Rule.number? text = some x → ∀ rest,
    Comparison.ofWords? (Text.split ' ' phrase ++ text :: rest) = some ([comparison x], rest)

/-- Only one of the phrases has a number after it. -/
theorem introduces_of_mem {phrase : String} {comparison : Binary64 → Comparison}
    (hmem : (phrase, comparison) ∈ Comparison.phrases) : Introduces phrase comparison := by
  intro text x hx rest
  have hnone : Rule.number? "or" = none := by decide +kernel
  have hsplit : Text.split ' ' "greater than" = ["greater", "than"] ∧
      Text.split ' ' "greater or equal" = ["greater", "or", "equal"] ∧
      Text.split ' ' "greater than or equal to" = ["greater", "than", "or", "equal", "to"] ∧
      Text.split ' ' "smaller than" = ["smaller", "than"] ∧
      Text.split ' ' "smaller or equal to" = ["smaller", "or", "equal", "to"] ∧
      Text.split ' ' "less than or equal to" = ["less", "than", "or", "equal", "to"] := by
    decide +kernel
  simp only [Comparison.phrases, List.mem_cons, Prod.mk.injEq, List.not_mem_nil, or_false] at hmem
  rcases hmem with ⟨rfl, rfl⟩ | ⟨rfl, rfl⟩ | ⟨rfl, rfl⟩ | ⟨rfl, rfl⟩ | ⟨rfl, rfl⟩ | ⟨rfl, rfl⟩ <;>
    simp [Comparison.ofWords?, Comparison.phrases, Comparison.afterPhrase?, hsplit, hx, hnone,
      List.isPrefixOf?]

theorem introduces_greaterThan : Introduces "greater than" .above :=
  introduces_of_mem (by simp [Comparison.phrases])

theorem introduces_greaterThanOrEqualTo : Introduces "greater than or equal to" .atLeast :=
  introduces_of_mem (by simp [Comparison.phrases])

theorem introduces_greaterOrEqual : Introduces "greater or equal" .atLeast :=
  introduces_of_mem (by simp [Comparison.phrases])

theorem introduces_smallerThan : Introduces "smaller than" .below :=
  introduces_of_mem (by simp [Comparison.phrases])

theorem introduces_smallerOrEqualTo : Introduces "smaller or equal to" .atMost :=
  introduces_of_mem (by simp [Comparison.phrases])

theorem introduces_lessThanOrEqualTo : Introduces "less than or equal to" .atMost :=
  introduces_of_mem (by simp [Comparison.phrases])

section Sentences

variable {sentence text text' phrase phrase' : String} {x x' : Binary64}
  {comparison comparison' : Binary64 → Comparison}

/-- A sentence that ends with a numeral may have a point after it. -/
theorem withoutPoint_eq {start : String} (htext : IsNumeral text.toList)
    (h : sentence = start ++ text ∨ sentence = start ++ text ++ ".") :
    withoutPoint sentence = start ++ text := by
  rcases h with rfl | rfl
  · exact withoutPoint_append htext start
  · exact withoutPoint_point _

/-- A sentence with one phrase states one comparison. -/
theorem stated?_of_phrase (hphrase : Introduces phrase comparison)
    (hx : Rule.number? text = some x) (htext : IsNumeral text.toList)
    (h : sentence = "Must be" ++ " " ++ phrase ++ " " ++ text ∨
      sentence = "Must be" ++ " " ++ phrase ++ " " ++ text ++ ".") :
    stated? sentence = some [comparison x] := by
  have hwords : Text.split ' ' (withoutPoint sentence) =
      "Must" :: "be" :: (Text.split ' ' phrase ++ [text]) := by
    simp only [withoutPoint_eq htext h, split_append_blank, split_numeral htext, List.append_assoc]
    rfl
  simp [stated?, hwords, hphrase hx]

/-- A sentence with two phrases states two comparisons. -/
theorem stated?_of_phrases (hphrase : Introduces phrase comparison)
    (hphrase' : Introduces phrase' comparison') (hx : Rule.number? text = some x)
    (hx' : Rule.number? text' = some x') (htext : IsNumeral text.toList)
    (htext' : IsNumeral text'.toList)
    (h : sentence = "Must be" ++ " " ++ phrase ++ " " ++ text ++ " " ++ "and" ++ " " ++
      phrase' ++ " " ++ text') :
    stated? sentence = some [comparison x, comparison' x'] := by
  have hwords : Text.split ' ' (withoutPoint sentence) = "Must" :: "be" ::
      (Text.split ' ' phrase ++ text :: "and" :: (Text.split ' ' phrase' ++ [text'])) := by
    simp only [withoutPoint_eq htext' (.inl h), split_append_blank, split_numeral htext,
      split_numeral htext', List.append_assoc]
    rfl
  simp [stated?, hwords, hphrase hx, hphrase' hx']

/-- A sentence may give the numbers of both sides at once. -/
theorem stated?_between (hx : Rule.number? text = some x) (hx' : Rule.number? text' = some x')
    (htext : IsNumeral text.toList) (htext' : IsNumeral text'.toList)
    (h : sentence = "Must be between" ++ " " ++ text ++ " " ++ "and" ++ " " ++ text' ++ ".") :
    stated? sentence = some [.atLeast x, .atMost x'] := by
  have hwords : Text.split ' ' (withoutPoint sentence) =
      ["Must", "be", "between", text, "and", text'] := by
    simp only [withoutPoint_eq htext' (.inr h), split_append_blank, split_numeral htext,
      split_numeral htext', List.append_assoc]
    rfl
  simp [stated?, hwords, Comparison.ofWords?, hx, hx']

end Sentences

namespace Bounds

variable {bounds : Bounds} {x : Binary64}

/-- The bounds that are given. -/
def given (bounds : Bounds) : List Binary64 :=
  bounds.minimum.toList ++ bounds.maximum.toList ++ bounds.exclusiveMinimum.toList ++
    bounds.exclusiveMaximum.toList

/-- A finite number is within finite bounds exactly when each of them compares with it as its kind
asks. -/
theorem contains_iff_of_isFinite (hbounds : ∀ bound ∈ bounds.given, bound.isFinite = true)
    (hx : x.isFinite = true) :
    bounds.contains x = true ↔
      (∀ least ∈ bounds.minimum, least.le x = true) ∧
        (∀ greatest ∈ bounds.maximum, x.le greatest = true) ∧
        (∀ low ∈ bounds.exclusiveMinimum, low.lt x = true) ∧
          ∀ high ∈ bounds.exclusiveMaximum, x.lt high = true := by
  simp only [given, List.mem_append, Option.mem_toList] at hbounds
  rw [contains_iff]
  refine and_congr ?_ (and_congr ?_ (and_congr ?_ ?_)) <;>
    refine forall₂_congr fun bound hbound => ?_
  · rw [← Binary64.not_lt_eq_le hx (hbounds bound (.inl (.inl (.inl hbound)))), Bool.not_eq_true']
  · rw [← Binary64.not_lt_eq_le (hbounds bound (.inl (.inl (.inr hbound)))) hx, Bool.not_eq_true']
  · rw [← Binary64.not_le_eq_lt hx (hbounds bound (.inl (.inr hbound))), Bool.not_eq_true']
  · rw [← Binary64.not_le_eq_lt (hbounds bound (.inr hbound)) hx, Bool.not_eq_true']

/-- The message for finite bounds states the exclusive ones, and an inclusive one where there is no
exclusive one on its side. -/
theorem exists_stated (hgiven : bounds.isUnbounded = false)
    (hbounds : ∀ bound ∈ bounds.given, bound.isFinite = true) :
    ∃ comparisons, stated? bounds.message = some comparisons ∧
      ∀ x, (∀ comparison ∈ comparisons, comparison.holds x = true) ↔
        (bounds.exclusiveMinimum = none → ∀ least ∈ bounds.minimum, least.le x = true) ∧
          (bounds.exclusiveMaximum = none → ∀ greatest ∈ bounds.maximum, x.le greatest = true) ∧
          (∀ low ∈ bounds.exclusiveMinimum, low.lt x = true) ∧
            ∀ high ∈ bounds.exclusiveMaximum, x.lt high = true := by
  have hread : ∀ bound ∈ bounds.given, IsNumeral (boundText bound).toList ∧
      ∃ y, Rule.number? (boundText bound) = some y ∧ y.rank = bound.rank := fun bound hbound =>
    ⟨isNumeral_boundText (hbounds bound hbound), exists_number?_boundText (hbounds bound hbound)⟩
  obtain ⟨minimum, maximum, low, high⟩ := bounds
  -- One case for each wording of the message.
  match low, high, minimum, maximum with
  | some low, some high, _, _ =>
      obtain ⟨hlow, y, hy, hrank⟩ := hread low (by simp [given])
      obtain ⟨hhigh, z, hz, hrank'⟩ := hread high (by simp [given])
      refine ⟨_, stated?_of_phrases introduces_greaterThan introduces_smallerThan hy hz hlow
        hhigh ?_, ?_⟩
      · simp [message, ← String.toList_inj, toString]
      · simp [Comparison.holds, Binary64.lt, hrank, hrank']
  | some low, none, _, some greatest =>
      obtain ⟨hlow, y, hy, hrank⟩ := hread low (by simp [given])
      obtain ⟨hgreatest, z, hz, hrank'⟩ := hread greatest (by simp [given])
      refine ⟨_, stated?_of_phrases introduces_greaterThan introduces_smallerOrEqualTo hy hz hlow
        hgreatest ?_, ?_⟩
      · simp [message, ← String.toList_inj, toString]
      · simp [Comparison.holds, Binary64.lt, Binary64.le, hrank, hrank', and_comm]
  | some low, none, _, none =>
      obtain ⟨hlow, y, hy, hrank⟩ := hread low (by simp [given])
      refine ⟨_, stated?_of_phrase introduces_greaterThan hy hlow (.inl ?_), ?_⟩
      · simp [message, toString]
      · simp [Comparison.holds, Binary64.lt, hrank]
  | none, some high, none, _ =>
      obtain ⟨hhigh, z, hz, hrank⟩ := hread high (by simp [given])
      refine ⟨_, stated?_of_phrase introduces_smallerThan hz hhigh (.inl ?_), ?_⟩
      · simp [message, toString]
      · simp [Comparison.holds, Binary64.lt, hrank]
  | none, some high, some least, _ =>
      obtain ⟨hleast, y, hy, hrank⟩ := hread least (by simp [given])
      obtain ⟨hhigh, z, hz, hrank'⟩ := hread high (by simp [given])
      refine ⟨_, stated?_of_phrases introduces_greaterOrEqual introduces_smallerThan hy hz hleast
        hhigh ?_, ?_⟩
      · simp [message, ← String.toList_inj, toString]
      · simp [Comparison.holds, Binary64.lt, Binary64.le, hrank, hrank']
  | none, none, some least, some greatest =>
      obtain ⟨hleast, y, hy, hrank⟩ := hread least (by simp [given])
      obtain ⟨hgreatest, z, hz, hrank'⟩ := hread greatest (by simp [given])
      refine ⟨_, stated?_between hy hz hleast hgreatest ?_, ?_⟩
      · simp [message, ← String.toList_inj, toString]
      · simp [Comparison.holds, Binary64.le, hrank, hrank']
  | none, none, some least, none =>
      obtain ⟨hleast, y, hy, hrank⟩ := hread least (by simp [given])
      refine ⟨_, stated?_of_phrase introduces_greaterThanOrEqualTo hy hleast (.inr ?_), ?_⟩
      · simp [message, toString]
      · simp [Comparison.holds, Binary64.le, hrank]
  | none, none, none, some greatest =>
      obtain ⟨hgreatest, z, hz, hrank⟩ := hread greatest (by simp [given])
      refine ⟨_, stated?_of_phrase introduces_lessThanOrEqualTo hz hgreatest (.inr ?_), ?_⟩
      · simp [message, toString]
      · simp [Comparison.holds, Binary64.le, hrank]
  | none, none, none, none => cases hgiven

/-- A finite number is within finite bounds, one of them at least, exactly when the comparisons that
the message states hold for it and it passes each inclusive bound that has an exclusive one on its
side.  The message does not name the latter. -/
theorem contains_iff_stated (hgiven : bounds.isUnbounded = false)
    (hbounds : ∀ bound ∈ bounds.given, bound.isFinite = true) :
    ∃ comparisons, stated? bounds.message = some comparisons ∧ ∀ x, x.isFinite = true →
      (bounds.contains x = true ↔
        (∀ comparison ∈ comparisons, comparison.holds x = true) ∧
          (bounds.exclusiveMinimum ≠ none → ∀ least ∈ bounds.minimum, least.le x = true) ∧
            (bounds.exclusiveMaximum ≠ none →
              ∀ greatest ∈ bounds.maximum, x.le greatest = true)) := by
  obtain ⟨comparisons, hstated, hcomparisons⟩ := exists_stated hgiven hbounds
  refine ⟨comparisons, hstated, fun x hx => ?_⟩
  rw [hcomparisons, contains_iff_of_isFinite hbounds hx]
  -- An inclusive bound is stated or has an exclusive one on its side.
  constructor
  · rintro ⟨hleast, hgreatest, hlow, hhigh⟩
    exact ⟨⟨fun _ => hleast, fun _ => hgreatest, hlow, hhigh⟩, fun _ => hleast, fun _ => hgreatest⟩
  · rintro ⟨⟨hleast, hgreatest, hlow, hhigh⟩, hleast', hgreatest'⟩
    exact ⟨(em _).elim hleast hleast', (em _).elim hgreatest hgreatest', hlow, hhigh⟩

/-- From half of one, excluded, to ten the message and the bounds agree. -/
theorem contains_iff_stated_portion :
    let bounds : Bounds :=
      { exclusiveMinimum := some (.ofRatio false 1 2), maximum := some (.ofInt 10) }
    bounds.message = "Must be greater than 0.5 and smaller or equal to 10" ∧
      ∃ comparisons, stated? bounds.message = some comparisons ∧ ∀ x, x.isFinite = true →
        (bounds.contains x = true ↔ ∀ comparison ∈ comparisons, comparison.holds x = true) := by
  intro bounds
  obtain ⟨comparisons, hstated, hcontains⟩ :=
    contains_iff_stated (show bounds.isUnbounded = false from rfl) (by decide +kernel)
  refine ⟨by decide +kernel, comparisons, hstated, fun x hx => ?_⟩
  simpa [bounds] using hcontains x hx

/-- A number below an inclusive bound is outside the bounds, while the message names only the
exclusive bound on that side. -/
theorem not_contains_three :
    let bounds : Bounds := { minimum := some (.ofInt 5), exclusiveMinimum := some (.ofInt 1) }
    bounds.message = "Must be greater than 1" ∧ bounds.contains (.ofInt 3) = false ∧
      ∃ comparisons, stated? bounds.message = some comparisons ∧
        ∀ comparison ∈ comparisons, comparison.holds (.ofInt 3) = true := by
  intro bounds
  refine ⟨by decide +kernel, by decide +kernel, [.above (.ofInt 1)], by decide +kernel, ?_⟩
  decide +kernel

end Bounds
end SchemaForm
