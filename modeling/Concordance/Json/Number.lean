import Concordance.Json.Value
import Concordance.Number.Shortest

/-!
# Numbers in JSON

A number is read from the leading digits that fit into 64 bits, which are then scaled by a power of
ten. So a numeral of many digits may be read as a neighbour of the nearest number. What is too large
for a finite number cannot be read.

## Main definitions

* `Numeral.toCount`: the natural number below `2 ^ 64` that a numeral is
* `Numeral.toBinary64`: the number that a numeral is read as
* `Json.score`: a number as a value
-/

namespace Concordance

namespace Numeral

/-- Whether a number fits into 64 bits. -/
def fits (n : Nat) : Bool :=
  n < UInt64.size

/-- The natural number below `2 ^ 64` that a numeral is, if it has no sign, point or exponent. -/
def toCount (numeral : Numeral) : Option Nat :=
  if numeral.isPlain && fits (digitsValue numeral.integer) then some (digitsValue numeral.integer)
  else none

/-- The leading digits that fit, put after the digits of `start`, and how many are left out. -/
def takeDigits (start : Nat) : List Char → Nat × Nat
  | [] => (start, 0)
  | c :: rest =>
    let next := digitsValueFrom start [c]
    if fits next then takeDigits next rest else (start, rest.length + 1)

/-- The digits of an integer part and a fraction that are kept, and the power of ten that they have
to be scaled by. -/
def significant (numeral : Numeral) : Nat × Int :=
  let (whole, extra) := takeDigits 0 numeral.integer
  match numeral.fraction with
  | none => (whole, extra)
  | some digits =>
    let (all, left) := takeDigits whole digits
    (all, (extra : Int) - ((digits.length : Int) - left))

/-- A number divided by a power of ten, in steps that the power fits into. -/
def scaleDown (x : Binary64) (n : Nat) : Binary64 :=
  if n ≤ 308 then x.div (.ofNat (Nat.pow 10 n))
  else if x.isZero then x
  else scaleDown (x.div (.ofNat (Nat.pow 10 308))) (n - 308)
termination_by n

/-- A number times a power of ten, if that is finite. -/
def scaleUp (x : Binary64) (n : Nat) : Option Binary64 :=
  if n ≤ 308 then
    let product := x.mul (.ofNat (Nat.pow 10 n))
    if product.isFinite then some product else none
  else if x.isZero then some x
  else none

/-- A number times a power of ten, if that is finite. -/
def scale (x : Binary64) (exponent : Int) : Option Binary64 :=
  if 0 ≤ exponent then scaleUp x exponent.toNat else some (scaleDown x (-exponent).toNat)

/-- The largest exponent that is worked with. -/
def largestExponent : Nat := 0x7fffffff

/-- The number that a numeral is read as, without its sign. -/
def magnitude (numeral : Numeral) : Option Binary64 :=
  let (kept, power) := numeral.significant
  match numeral.exponent with
  | none => scale (.ofNat kept) power
  | some text =>
    let (negative, digits) := splitExponent text
    -- Past the largest exponent only zero is left, or nothing.
    let exponent := digitsValue digits
    if exponent ≤ largestExponent then
      scale (.ofNat kept) (if negative then power - exponent else power + exponent)
    else if kept = 0 ∨ negative = true then some .zero
    else none

/-- The number that a numeral is read as. -/
def toBinary64 (numeral : Numeral) : Option Binary64 :=
  numeral.magnitude.map fun x => if numeral.negative then x.neg else x

end Numeral

namespace Json

/-- In JSON a large or small number has an exponent with a sign. -/
def scoreLayout : Layout := ⟨-4, 16, true⟩

/-- A number as a value. A number that is not finite has no numeral. -/
def score (x : Binary64) : Json :=
  if x.isFinite then .number (x.numeral scoreLayout) else .null

end Json

end Concordance
