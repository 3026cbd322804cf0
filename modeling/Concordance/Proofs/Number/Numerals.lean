import Concordance.Number.Numeral
import Mathlib.Data.List.Basic
import Mathlib.Data.List.TakeWhile

/-!
# Natural numbers in digits

A natural number of any size is written in digits without a leading zero, and they are a numeral that
stands for it again.

## Main definitions

* `Numeral.toNat?`: the natural number that a numeral without sign, point and exponent is

## Main results

* `toNat?_ofNat`: the digits of a natural number stand for it
* `read_ofNat`: what is written for a natural number is read as it was
* `forall_mem_render_of_read`: the characters that a numeral has
-/

namespace Concordance.Numeral

/-- The natural number that a numeral without sign, point and exponent is. -/
def toNat? (numeral : Numeral) : Option Nat :=
  if numeral.isPlain then some (digitsValue numeral.integer) else none

/-! ## Digits -/

theorem digitsValue_eq_ofDigitChars (digits : List Char) :
    digitsValue digits = Nat.ofDigitChars 10 digits 0 := by
  simp only [digitsValue, digitsValueFrom, Nat.ofDigitChars_eq_foldl, Nat.mul_comm]

theorem digitsValue_toDigits (n : Nat) : digitsValue (Nat.toDigits 10 n) = n := by
  rw [digitsValue_eq_ofDigitChars, Nat.ofDigitChars_ten_toDigits]

/-- **The digits of a natural number stand for it.** -/
theorem toNat?_ofNat (n : Nat) : (ofNat n).toNat? = some n :=
  congrArg some (digitsValue_toDigits n)

theorem isDigit_of_mem {digits : List Char} (h : isDigits digits = true) {c : Char}
    (hc : c ∈ digits) : c.isDigit = true := by
  rw [isDigits, Bool.and_eq_true, List.all_eq_true] at h
  exact h.2 c hc

theorem isDigits_toDigits (n : Nat) : isDigits (Nat.toDigits 10 n) = true := by
  rw [isDigits, Bool.and_eq_true, Bool.not_eq_true', List.isEmpty_eq_false_iff, List.all_eq_true]
  exact ⟨Nat.toDigits_ne_nil, fun c => Nat.isDigit_of_mem_toDigits (by decide) (by decide)⟩

/-- Only zero starts with a zero. -/
theorem head?_toDigits {n : Nat} (h : n ≠ 0) : (Nat.toDigits 10 n).head? ≠ some '0' := by
  -- the first digit of a number is that of its tenth part, until only one digit is left
  induction n using Nat.strong_induction_on with
  | _ n ih =>
    by_cases hlt : n < 10
    · have hdigit : ∀ n < 10, n ≠ 0 → Nat.digitChar n ≠ '0' := by decide
      rw [Nat.toDigits_of_lt_base hlt]
      exact fun heq => hdigit n hlt h (Option.some.inj heq)
    · rw [Nat.toDigits_of_base_le (by decide) (Nat.le_of_not_lt hlt),
        List.head?_append_of_ne_nil _ Nat.toDigits_ne_nil]
      exact ih (n / 10) (by omega) (by omega)

theorem isInteger_toDigits (n : Nat) : isInteger (Nat.toDigits 10 n) = true := by
  rw [isInteger, isDigits_toDigits, Bool.true_and, Bool.or_eq_true]
  by_cases hn : n = 0
  · rw [hn]
    exact .inr rfl
  · exact .inl (bne_iff_ne.mpr (head?_toDigits hn))

/-! ## Reading what is written -/

/-- Digits alone are read as an integer part. -/
theorem read_of_isInteger {digits : List Char} (h : isInteger digits = true) :
    read digits = some ⟨false, digits, none, none⟩ := by
  have hdigits : isDigits digits = true := (Bool.and_eq_true_iff.mp h).1
  -- a text is cut at marks that are no digits, so digits alone are never cut
  have hne : ∀ mark : Char, mark.isDigit = false → ∀ c ∈ digits, c ≠ mark := by
    intro mark hmark c hc heq
    rw [← heq, isDigit_of_mem hdigits hc] at hmark
    cases hmark
  have hsign : (digits.head? == some '-') = false := by
    rw [beq_eq_false_iff_ne]
    exact fun heq => hne '-' rfl _ (List.mem_of_mem_head? heq) rfl
  have hexponent : ∀ c ∈ digits, (c != 'e' && c != 'E') = true := fun c hc => by
    rw [Bool.and_eq_true, bne_iff_ne, bne_iff_ne]
    exact ⟨hne 'e' rfl c hc, hne 'E' rfl c hc⟩
  have hpoint : ∀ c ∈ digits, (c != '.') = true := fun c hc => bne_iff_ne.mpr (hne '.' rfl c hc)
  simp only [read, hsign, Bool.false_eq_true, if_false, List.takeWhile_eq_self_iff.mpr hexponent,
    List.dropWhile_eq_nil_iff.mpr hexponent, List.takeWhile_eq_self_iff.mpr hpoint,
    List.dropWhile_eq_nil_iff.mpr hpoint, h, Option.map_none, Option.all_none, Bool.and_self, if_true]

theorem render_ofNat (n : Nat) : (ofNat n).render = Nat.toDigits 10 n := by
  simp [render, ofNat]

/-- **What is written for a natural number is read as it was.** -/
theorem read_ofNat (n : Nat) : read (ofNat n).render = some (ofNat n) := by
  rw [render_ofNat]
  exact read_of_isInteger (isInteger_toDigits n)

/-! ## What a numeral looks like -/

/-- The parts of a numeral that was read are digits. -/
theorem parts_of_read {text : List Char} {numeral : Numeral} (h : read text = some numeral) :
    isInteger numeral.integer = true ∧ numeral.fraction.all isDigits = true ∧
      (numeral.exponent.map fun text => (splitExponent text).2).all isDigits = true := by
  unfold read at h
  rw [Option.ite_none_right_eq_some, Bool.and_eq_true, Bool.and_eq_true] at h
  obtain ⟨⟨⟨hinteger, hfraction⟩, hexponent⟩, hparts⟩ := h
  rw [← Option.some.inj hparts]
  exact ⟨hinteger, hfraction, hexponent⟩

/-- Before the digits of an exponent there can be a sign. -/
theorem eq_or_cons_of_splitExponent (text : List Char) :
    text = (splitExponent text).2 ∨ text = '-' :: (splitExponent text).2 ∨
      text = '+' :: (splitExponent text).2 := by
  unfold splitExponent
  split
  · exact .inr (.inl rfl)
  · exact .inr (.inr rfl)
  · exact .inl rfl

/-- A mark of a numeral in front of digits. -/
theorem isDigit_or_mem_of_cons {mark : Char} (hmark : mark ∈ ['-', '+', '.', 'e'])
    {digits : List Char} (hdigits : isDigits digits = true) {c : Char} (hc : c ∈ mark :: digits) :
    c.isDigit = true ∨ c ∈ ['-', '+', '.', 'e'] := by
  rcases List.mem_cons.mp hc with rfl | hdigit
  · exact .inr hmark
  · exact .inl (isDigit_of_mem hdigits hdigit)

/-- **The characters that a numeral has** are digits, signs, a point and an e. -/
theorem forall_mem_render_of_read {text : List Char} {numeral : Numeral}
    (h : read text = some numeral) :
    ∀ c ∈ numeral.render, c.isDigit = true ∨ c ∈ ['-', '+', '.', 'e'] := by
  obtain ⟨hinteger, hfraction, hexponent⟩ := parts_of_read h
  obtain ⟨negative, integer, fraction, exponent⟩ := numeral
  rw [isInteger, Bool.and_eq_true] at hinteger
  intro c hc
  simp only [render, List.mem_append, or_assoc] at hc
  rcases hc with hsign | hdigit | hpoint | hletter
  · cases negative with
    | false => cases hsign
    | true =>
      rw [if_pos rfl, List.mem_singleton] at hsign
      exact .inr (hsign ▸ List.mem_cons_self)
  · exact .inl (isDigit_of_mem hinteger.1 hdigit)
  · cases fraction with
    | none => cases hpoint
    | some digits => exact isDigit_or_mem_of_cons (by decide) hfraction hpoint
  · cases exponent with
    | none => cases hletter
    | some sized =>
      have hdigits : isDigits (splitExponent sized).2 = true := hexponent
      rcases List.mem_cons.mp hletter with rfl | hmem
      · exact .inr (by decide)
      · rcases eq_or_cons_of_splitExponent sized with heq | heq | heq <;> rw [heq] at hmem
        · exact .inl (isDigit_of_mem hdigits hmem)
        · exact isDigit_or_mem_of_cons (by decide) hdigits hmem
        · exact isDigit_or_mem_of_cons (by decide) hdigits hmem

theorem render_ne_nil_of_read {text : List Char} {numeral : Numeral}
    (h : read text = some numeral) : numeral.render ≠ [] := by
  obtain ⟨hinteger, -, -⟩ := parts_of_read h
  rw [isInteger, Bool.and_eq_true, isDigits, Bool.and_eq_true, Bool.not_eq_true',
    List.isEmpty_eq_false_iff] at hinteger
  intro hnil
  simp only [render, List.append_eq_nil_iff] at hnil
  exact hinteger.1.1 hnil.1.1.2

end Concordance.Numeral
