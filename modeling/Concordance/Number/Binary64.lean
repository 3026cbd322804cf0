/-!
# Binary floating point of 64 bits

A number is its bit pattern: a sign, eleven bits of exponent and fifty-two bits of fraction. The
arithmetic here is on natural numbers, so every result is exact before it is rounded, and it is
rounded once, to the nearest pattern, with ties to the even one.

## Main definitions

* `Binary64`: a bit pattern
* `Binary64.ofRatio`: the pattern nearest to a quotient of natural numbers
* `Binary64.mul`, `Binary64.div`: rounded product and quotient
* `Binary64.orderKey`: the total order of patterns, NaNs included
-/

namespace Concordance

/-- A bit pattern of a 64-bit binary floating point number. -/
structure Binary64 where
  bits : UInt64
deriving DecidableEq, Repr, Inhabited

namespace Binary64

/-- The weight of the sign bit. -/
def signWeight : Nat :=
  0x8000000000000000

/-- How many patterns share a sign and an exponent. -/
def fractions : Nat :=
  0x10000000000000

/-- The pattern with a given sign and magnitude bits. -/
def ofParts (negative : Bool) (magnitude : Nat) : Binary64 :=
  ⟨UInt64.ofNat (if negative then signWeight + magnitude else magnitude)⟩

/-- Whether the sign bit is set. -/
def isNegative (x : Binary64) : Bool :=
  signWeight ≤ x.bits.toNat

/-- All bits but the sign. -/
def magnitudeBits (x : Binary64) : Nat :=
  x.bits.toNat % signWeight

theorem magnitudeBits_lt (x : Binary64) : x.magnitudeBits < signWeight :=
  Nat.mod_lt _ (by decide)

/-- A pattern is its sign and its magnitude bits. -/
theorem ofParts_isNegative_magnitudeBits (x : Binary64) :
    ofParts x.isNegative x.magnitudeBits = x := by
  have hx : x.bits.toNat < 2 * signWeight := x.bits.toNat_lt
  have hsplit := Nat.div_add_mod x.bits.toNat signWeight
  have hvalue : (if x.isNegative then signWeight + x.magnitudeBits else x.magnitudeBits)
      = x.bits.toNat := by
    by_cases h : signWeight ≤ x.bits.toNat
    · have hone : x.bits.toNat / signWeight = 1 :=
        Nat.div_eq_of_lt_le (by omega) (by omega)
      rw [hone] at hsplit
      simp only [isNegative, h, decide_true, if_true, magnitudeBits]
      omega
    · simp only [isNegative, h, decide_false, Bool.false_eq_true, if_false, magnitudeBits]
      exact Nat.mod_eq_of_lt (by omega)
  rw [ofParts, hvalue, UInt64.ofNat_toNat]

/-- Patterns with the same sign and the same magnitude bits are the same. -/
theorem eq_of_parts_eq {x y : Binary64} (hsign : x.isNegative = y.isNegative)
    (hmagnitude : x.magnitudeBits = y.magnitudeBits) : x = y := by
  rw [← ofParts_isNegative_magnitudeBits x, ← ofParts_isNegative_magnitudeBits y, hsign, hmagnitude]

/-- The magnitude bits of infinity; larger ones are NaNs. -/
def infinityBits : Nat :=
  2047 * fractions

def zero : Binary64 := ofParts false 0
def infinity : Binary64 := ofParts false infinityBits
def nan : Binary64 := ofParts false (infinityBits + fractions / 2)

/-- The pattern with the sign bit flipped. -/
def neg (x : Binary64) : Binary64 :=
  ofParts (!x.isNegative) x.magnitudeBits

def isNaN (x : Binary64) : Bool :=
  infinityBits < x.magnitudeBits

def isFinite (x : Binary64) : Bool :=
  x.magnitudeBits < infinityBits

def isZero (x : Binary64) : Bool :=
  x.magnitudeBits = 0

/-- How often the significand of a finite number is doubled. -/
def scale (x : Binary64) : Nat :=
  x.magnitudeBits / fractions - 1

/-- The significand of a finite number; below `fractions` only at the smallest scale. -/
def significand (x : Binary64) : Nat :=
  x.magnitudeBits - x.scale * fractions

/-- The denominator shared by all finite numbers. -/
def unit : Nat :=
  1 <<< 1074

/-- The magnitude of a finite number, as a multiple of one part in `unit`. -/
def units (x : Binary64) : Nat :=
  x.significand <<< x.scale

/-- The quotient nearest to `num / den`, where a tie goes to the even one. -/
def roundDiv (num den : Nat) : Nat :=
  let quotient := num / den
  let rest := num % den
  if 2 * rest < den then quotient
  else if den < 2 * rest then quotient + 1
  else quotient + quotient % 2

/-- The number nearest to `num / den`, where a tie goes to the even pattern. A quotient too large
for a finite number becomes infinite. -/
def ofRatio (num den : Nat) : Binary64 :=
  let whole := num * unit / den
  let scale := if whole < 2 * fractions then 0 else whole.log2 - 52
  let significand := roundDiv (num * unit) (den <<< scale)
  ofParts false (min (scale * fractions + significand) infinityBits)

/-- The number nearest to a natural number. -/
def ofNat (n : Nat) : Binary64 :=
  ofRatio n 1

/-- The rounded product of two positive finite numbers. -/
def mul (x y : Binary64) : Binary64 :=
  ofRatio (x.units * y.units) (unit * unit)

/-- The rounded quotient of two positive finite numbers. -/
def div (x y : Binary64) : Binary64 :=
  ofRatio x.units y.units

/-- Patterns in their total order: negative NaNs, the negative numbers, minus zero, zero, the
positive numbers and positive NaNs. -/
def orderKey (x : Binary64) : Int :=
  if x.isNegative then -1 - (x.magnitudeBits : Int) else x.magnitudeBits

theorem orderKey_inj {x y : Binary64} : x.orderKey = y.orderKey ↔ x = y := by
  refine ⟨fun h => ?_, fun h => h ▸ rfl⟩
  unfold orderKey at h
  by_cases hx : x.isNegative = true <;> by_cases hy : y.isNegative = true <;>
    simp only [hx, hy, if_true, if_false, Bool.false_eq_true] at h
  · exact eq_of_parts_eq (hx.trans hy.symm) (by omega)
  · omega
  · omega
  · exact eq_of_parts_eq (by simp_all) (by omega)

/-- The total order of patterns. -/
instance : Ord Binary64 where
  compare x y := compare x.orderKey y.orderKey

end Binary64

end Concordance
