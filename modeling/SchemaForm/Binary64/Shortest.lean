import SchemaForm.Binary64.Basic

/-!
# Shortest decimal text of a number

Among the decimals that read back as a finite number, the text uses one with
the fewest digits, and of those the nearest.  The search tests, on coarser to
finer decimal grids, the two neighbours of the value; all arithmetic is on
natural numbers.

Two layouts share these digits: `plain` never uses an exponent, and
`scientific` does so outside a window of magnitudes.

Main results:

- Theorem `scientific?_eq_none_iff`: exactly the finite numbers have a scientific text.
-/

namespace SchemaForm
namespace Binary64

/-! ## Digits -/

/-- The decimal `digits * 10 ^ exponent`. -/
structure Decimal where
  digits : Nat
  exponent : Int
deriving DecidableEq, Repr

/-- Which neighbour an exact tie between two decimals goes to. -/
inductive Tie where
  | up
  | even
deriving DecidableEq, Repr

/-- The reals that round to a finite number, in quarters of its unit in the last place: from
`low` to `high` around `middle`, ends included when `closed`. -/
structure Interval where
  low : Nat
  middle : Nat
  high : Nat
  closed : Bool
  /-- Binary exponent of a quarter unit. -/
  exponent : Int

/-- The interval of a positive finite number.  Below a power of two the lower gap is half as
wide. -/
def interval (significand : Nat) (exponent : Int) : Interval where
  low := 4 * significand - (if significand = twoTo 52 ∧ exponent ≠ -1074 then 1 else 2)
  middle := 4 * significand
  high := 4 * significand + 2
  closed := significand % 2 = 0
  exponent := exponent - 2

/-- Common scale of the grid of step `10 ^ grid` and an interval: the factors of a grid point and
of an interval point. -/
def Interval.factors (range : Interval) (grid : Int) : Nat × Nat :=
  (tenTo grid.toNat * twoTo (-range.exponent).toNat,
    tenTo (-grid).toNat * twoTo range.exponent.toNat)

/-- Whether a point of a grid lies in the interval. -/
def Interval.holds (range : Interval) (grid : Int) (point : Nat) : Bool :=
  let (step, unit) := range.factors grid
  if range.closed then range.low * unit ≤ point * step && point * step ≤ range.high * unit
  else range.low * unit < point * step && point * step < range.high * unit

/-- The point of a grid that lies in the interval and is nearest to its middle. -/
def Interval.nearest? (range : Interval) (tie : Tie) (grid : Int) : Option Nat :=
  let (step, unit) := range.factors grid
  let below := range.middle * unit / step
  let down := range.holds grid below && below != 0
  let up := range.holds grid (below + 1)
  if down && up then
    let gapDown := range.middle * unit - below * step
    let gapUp := (below + 1) * step - range.middle * unit
    if gapDown < gapUp then some below
    else if gapUp < gapDown then some (below + 1)
    else
      match tie with
      | .up => some (below + 1)
      | .even => if below % 2 = 0 then some below else some (below + 1)
  else if down then some below
  else if up then some (below + 1)
  else none

/-- Search the grids `10 ^ grid`, `10 ^ (grid - 1)`, … for the first with a hit. -/
def Interval.search (range : Interval) (tie : Tie) : Nat → Int → Decimal
  | 0, grid => ⟨range.middle * (range.factors grid).2 / (range.factors grid).1, grid⟩
  | steps + 1, grid =>
      match range.nearest? tie grid with
      | some point => ⟨point, grid⟩
      | none => range.search tie steps (grid - 1)

/-- The shortest decimal of a positive finite number.  The first grid is at least as coarse as the
number is large, and eighteen digits are always enough. -/
def shortest (tie : Tie) (significand : Nat) (exponent : Int) : Decimal :=
  let magnitude := ((Nat.log2 significand : Int) + exponent + 1) * 30103 / 100000
  (interval significand exponent).search tie 24 (magnitude + 2)

/-! ## Layouts -/

/-- Digits without an exponent.  `whole` is appended when there is no fraction. -/
def Decimal.positional (d : Decimal) (whole : String) : String :=
  let text := Nat.toDigits 10 d.digits
  let point : Int := text.length + d.exponent
  if 0 ≤ d.exponent then
    String.ofList (text ++ List.replicate d.exponent.toNat '0') ++ whole
  else if 0 < point then
    String.ofList (text.take point.toNat ++ '.' :: text.drop point.toNat)
  else
    String.ofList ('0' :: '.' :: (List.replicate (-point).toNat '0' ++ text))

/-- Power of ten of the leading digit. -/
def Decimal.magnitude (d : Decimal) : Int :=
  (Nat.toDigits 10 d.digits).length + d.exponent - 1

/-- One digit before the point, and the power of ten with its sign. -/
def Decimal.withExponent (d : Decimal) : String :=
  let fraction :=
    match Nat.toDigits 10 d.digits with
    | [] => []
    | [c] => [c]
    | c :: rest => c :: '.' :: rest
  let power := d.magnitude
  String.ofList fraction ++ (if power < 0 then "e" else "e+") ++ toString power

/-- The minus sign of a negative number. -/
def signText (negative : Bool) : String :=
  if negative then "-" else ""

/-- Text without an exponent and without a needless fraction. -/
def plain : Binary64 → String
  | .finite negative significand exponent _ =>
      signText negative ++
        (if significand = 0 then "0"
        else (shortest .up significand exponent).positional "")
  | .infinite negative => signText negative ++ "inf"
  | .nan => "NaN"

/-- Magnitudes that the scientific layout writes without an exponent. -/
def isModerate (magnitude : Int) : Bool :=
  -5 ≤ magnitude && magnitude ≤ 15

/-- Text with at least one decimal, or with an exponent when the magnitude is not moderate; only
finite numbers have one. -/
def scientific? : Binary64 → Option String
  | .finite negative significand exponent _ =>
      some <| signText negative ++
        (if significand = 0 then "0.0"
        else
          let d := shortest .even significand exponent
          if isModerate d.magnitude then d.positional ".0" else d.withExponent)
  | _ => none

/-- Exactly the finite numbers have a scientific text. -/
theorem scientific?_eq_none_iff (x : Binary64) : x.scientific? = none ↔ x.isFinite = false := by
  cases x <;> simp [scientific?, isFinite]

end Binary64
end SchemaForm
