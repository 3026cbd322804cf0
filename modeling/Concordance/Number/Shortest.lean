import Concordance.Number.Binary64
import Concordance.Number.Numeral

/-!
# Shortest decimals

A number is written with the fewest digits that read back as the same number, and of the decimals
with that many digits as the nearest one.

## Main definitions

* `Decimal`: a coefficient and a power of ten
* `Binary64.shortest`: the shortest decimal of a finite number
* `Layout`: when to use an exponent, and how to write it
* `Binary64.numeral`: the numeral of a finite number
* `Binary64.text`: the text of any number
-/

namespace Concordance

/-- The number `coefficient * 10 ^ exponent`. -/
structure Decimal where
  coefficient : Nat
  exponent : Int
deriving DecidableEq, Repr

namespace Binary64

/-- Twice the numbers halfway to the neighbours of `x`, below and above it, in quarter units. The
neighbour below is nearer where the significand is a power of two. -/
def bounds (x : Binary64) : Nat × Nat :=
  let below := if x.significand = fractions ∧ 0 < x.scale then 1 else 2
  ((4 * x.significand - below) <<< x.scale, (4 * x.significand + 2) <<< x.scale)

/-- The number `n * 10 ^ exponent` in quarter units, times the factor that makes it whole for a
negative exponent. -/
def onGrid (exponent : Int) (n : Nat) : Nat :=
  n * Nat.pow 10 exponent.toNat * (4 * unit)

/-- Quarter units times the factor of `onGrid`, so that the two can be compared. -/
def offGrid (exponent : Int) (quarters : Nat) : Nat :=
  quarters * Nat.pow 10 (-exponent).toNat

/-- Whether a decimal reads back as `x`. A halfway point goes to the even significand. -/
def isReadBy (x : Binary64) (d : Decimal) : Bool :=
  let low := offGrid d.exponent x.bounds.1
  let high := offGrid d.exponent x.bounds.2
  let value := onGrid d.exponent d.coefficient
  if x.significand % 2 = 0 then low ≤ value && value ≤ high else low < value && value < high

/-- How far a decimal is from `x`, on the scale of its exponent. -/
def distance (x : Binary64) (d : Decimal) : Nat :=
  let value := onGrid d.exponent d.coefficient
  let exact := offGrid d.exponent (4 * x.units)
  (value - exact) + (exact - value)

/-- The decimal nearest to `x` of those with this exponent that read back as `x`. Only the two
neighbours of `x` can be that. -/
def nearestDecimal (x : Binary64) (exponent : Int) : Option Decimal :=
  let lower := offGrid exponent (4 * x.units) / onGrid exponent 1
  let candidates := [⟨lower, exponent⟩, ⟨lower + 1, exponent⟩].filter x.isReadBy
  match candidates with
  | [] => none
  | [d] => some d
  | d :: e :: _ =>
    -- Of two that are as near, the even one is taken.
    if x.distance e < x.distance d ∨ x.distance e = x.distance d ∧ d.coefficient % 2 = 1 then some e
    else some d

/-- The place of the first digit of a positive number: `10 ^ (place - 1) ≤ x < 10 ^ place`. The
smallest numbers are above `10 ^ (-400)`. -/
def place (x : Binary64) : Int :=
  ((Nat.toDigits 10 (x.units * Nat.pow 10 400 / unit)).length : Int) - 400

/-- A decimal without zeros at the end of its coefficient; `count` bounds how many there are. -/
def dropZeros : Nat → Decimal → Decimal
  | 0, d => d
  | count + 1, d =>
    if d.coefficient % 10 = 0 then dropZeros count ⟨d.coefficient / 10, d.exponent + 1⟩ else d

/-- The shortest decimal that reads back as a positive finite number. Seventeen digits always
suffice. -/
def shortest (x : Binary64) : Decimal :=
  let tries := (List.range 17).findSome? fun (n : Nat) => x.nearestDecimal (x.place - 1 - n)
  dropZeros 17 (tries.getD ⟨0, 0⟩)

end Binary64

/-- When a number is written with an exponent: outside the places from `least` to `greatest` of
its first digit. `plus` says whether an exponent that is not negative has a sign. -/
structure Layout where
  least : Int
  greatest : Int
  plus : Bool

/-- A decimal with digits in place: a point, and an exponent only outside the layout's places. -/
def Decimal.numeral (d : Decimal) (negative : Bool) (layout : Layout) : Numeral :=
  let digits := Nat.toDigits 10 d.coefficient
  let place := digits.length + d.exponent
  if layout.least ≤ place ∧ place ≤ layout.greatest then
    -- Zeros fill the places between the digits and the point.
    let padded := List.replicate (1 - place).toNat '0' ++ digits
      ++ List.replicate d.exponent.toNat '0'
    let whole := max place 1
    let fraction := padded.drop whole.toNat
    ⟨negative, padded.take whole.toNat, some (if fraction = [] then ['0'] else fraction), none⟩
  else
    let sign := if place < 1 then ['-'] else if layout.plus then ['+'] else []
    let fraction := digits.drop 1
    ⟨negative, digits.take 1, if fraction = [] then none else some fraction,
      some (sign ++ Nat.toDigits 10 (place - 1).natAbs)⟩

/-- A finite number as a numeral. -/
def Binary64.numeral (x : Binary64) (layout : Layout) : Numeral :=
  if x.isZero then ⟨x.isNegative, ['0'], some ['0'], none⟩
  else x.shortest.numeral x.isNegative layout

/-- Numbers are written without an exponent from one part in a hundred thousand up to `10 ^ 16`. -/
def plainLayout : Layout := ⟨-4, 16, false⟩

/-- The text of a number. The sign of a NaN is not shown. -/
def Binary64.text (x : Binary64) : String :=
  if x.isNaN then "NaN"
  else if x.isFinite then String.ofList (x.numeral plainLayout).render
  else if x.isNegative then "-inf" else "inf"

end Concordance
