import Concordance.Number.Binary64
import Mathlib.Algebra.Group.Nat.Defs
import Mathlib.Data.Nat.Basic

/-!
# The total order of bit patterns

Patterns can be compared as signed numbers of 64 bits, once all bits but the sign are flipped where the
sign is set. This is the total order of patterns.

## Main definitions

* `Binary64.totalBits`: a pattern as a signed number

## Main results

* `toInt_totalBits`: that number is the place of the pattern in the total order
-/

namespace Concordance.Binary64

/-- A pattern as a signed number. Where the sign is set, all other bits are flipped. -/
def totalBits (x : Binary64) : Int64 :=
  x.bits.toInt64 ^^^ ((x.bits.toInt64 >>> 63).toUInt64 >>> 1).toInt64

theorem isNegative_iff {x : Binary64} : x.isNegative = true ↔ 2 ^ 63 ≤ x.bits.toBitVec.toNat := by
  rw [isNegative, decide_eq_true_eq]
  rfl

theorem msb_toBitVec (x : Binary64) : x.bits.toBitVec.msb = x.isNegative := by
  rw [BitVec.msb_eq_decide, Bool.eq_iff_iff, isNegative_iff, decide_eq_true_eq]

theorem toBitVec_totalBits (x : Binary64) :
    x.totalBits.toBitVec = x.bits.toBitVec ^^^ (x.bits.toBitVec.sshiftRight 63 >>> 1) := by
  simp [totalBits]

/-- The sign, copied to all bits. -/
theorem sshiftRight_toBitVec (x : Binary64) :
    x.bits.toBitVec.sshiftRight 63 = if x.isNegative then BitVec.allOnes 64 else 0#64 := by
  have hmsb := x.msb_toBitVec
  have hlt := x.bits.toBitVec.isLt
  split
  · next h =>
    rw [h] at hmsb
    rw [isNegative_iff] at h
    have hzero : ~~~x.bits.toBitVec >>> 63 = 0#64 := by
      apply BitVec.eq_of_toNat_eq
      rw [BitVec.toNat_ushiftRight, BitVec.toNat_not, Nat.shiftRight_eq_div_pow]
      exact Nat.div_eq_of_lt (by omega)
    rw [BitVec.sshiftRight_eq_of_msb_true hmsb, hzero]
    rfl
  · next h =>
    rw [Bool.eq_false_iff.mpr h] at hmsb
    rw [isNegative_iff] at h
    rw [BitVec.sshiftRight_eq_of_msb_false hmsb]
    apply BitVec.eq_of_toNat_eq
    rw [BitVec.toNat_ushiftRight, Nat.shiftRight_eq_div_pow]
    exact Nat.div_eq_of_lt (by omega)

theorem xor_two_pow_sub_one {m n : Nat} (h : m < 2 ^ n) : m ^^^ (2 ^ n - 1) = 2 ^ n - 1 - m := by
  have hnot : (BitVec.ofNat n m ^^^ BitVec.allOnes n).toNat = 2 ^ n - 1 - m := by
    rw [BitVec.xor_allOnes, BitVec.toNat_not, BitVec.toNat_ofNat, Nat.mod_eq_of_lt h]
  rwa [BitVec.toNat_xor, BitVec.toNat_ofNat, BitVec.toNat_allOnes, Nat.mod_eq_of_lt h] at hnot

/-- Flipping all bits but the sign turns the magnitudes of negative patterns around. -/
theorem toNat_xor_mask {x : Binary64} (h : x.isNegative = true) :
    x.bits.toBitVec.toNat ^^^ (2 ^ 63 - 1) = 2 ^ 64 - 1 - x.magnitudeBits := by
  -- the low bits are flipped, and the sign stays set
  have hmagnitude : x.magnitudeBits < 2 ^ 63 := x.magnitudeBits_lt
  have hlow : (x.bits.toBitVec.toNat ^^^ (2 ^ 63 - 1)) % 2 ^ 63 = 2 ^ 63 - 1 - x.magnitudeBits := by
    rw [Nat.xor_mod_two_pow]
    exact xor_two_pow_sub_one hmagnitude
  have hhigh : (x.bits.toBitVec.toNat ^^^ (2 ^ 63 - 1)) / 2 ^ 63 = 1 := by
    have hone : x.bits.toBitVec.toNat / 2 ^ 63 = 1 := by
      have hlt := x.bits.toBitVec.isLt
      rw [isNegative_iff] at h
      omega
    rw [Nat.xor_div_two_pow, hone]
    rfl
  omega

/-- **As signed numbers, patterns stand in their total order.** -/
theorem toInt_totalBits (x : Binary64) : x.totalBits.toInt = x.orderKey := by
  have hmagnitude : x.magnitudeBits < 2 ^ 63 := x.magnitudeBits_lt
  rw [← Int64.toInt_toBitVec, toBitVec_totalBits, sshiftRight_toBitVec, orderKey,
    BitVec.toInt_eq_toNat_cond]
  split
  · next h =>
    -- the copies of the sign, moved by one place, are the mask
    have hnat : (x.bits.toBitVec ^^^ BitVec.allOnes 64 >>> 1).toNat =
        2 ^ 64 - 1 - x.magnitudeBits := toNat_xor_mask h
    rw [hnat]
    split <;> omega
  · next h =>
    rw [isNegative_iff] at h
    have hnat : (x.bits.toBitVec ^^^ 0#64 >>> 1).toNat = x.magnitudeBits := by
      rw [BitVec.zero_ushiftRight, BitVec.xor_zero]
      exact (Nat.mod_eq_of_lt (Nat.lt_of_not_le h)).symm
    rw [hnat]
    split <;> omega

end Concordance.Binary64
