import Concordance.Text.Words

/-!
# Capital letters

Cleaning lowers a text last. What it does before that, and what lowering looks at around a character, is the
same for a letter from A to Z and for its lowercase: neither decomposes, no mark moves past either, both are
kept, and both are letters to a sigma beside them. So a text gives the same words with these letters in
lowercase.

## Main results

* `traits_toLower`: to cleaning, a letter from A to Z and its lowercase have the same traits
* `canonicalForm_map_toLower`: up to these letters, decomposing does not look at them
* `lowercaseAfter_map_toLower`: lowering does not look at them
* `wordChars_map_toLower`: a text has the words that it has with these letters in lowercase
-/

namespace Concordance.Text

/-- The code points of the letters from A to Z. -/
def capitalCodes : List Nat := List.range' 0x41 26

/-- What cleaning asks of a character and what it makes of it. -/
structure Traits where
  combiningClass : Nat
  /-- The characters that it decomposes to, with capital letters in lowercase. -/
  folded : List Char
  isKept : Bool
  isCased : Bool
  isCaseIgnorable : Bool
  lowered : List Char
  isSigma : Bool
  deriving DecidableEq

/-- The traits of a character. -/
def traits (c : Char) : Traits where
  combiningClass := combiningClass c
  folded := (decompose c).map Char.toLower
  isKept := isKept c
  isCased := isCased c
  isCaseIgnorable := isCaseIgnorable c
  lowered := lowerChar c
  isSigma := c == 'Σ'

/-- What is the same for each letter from A to Z and its lowercase is so for every character. -/
theorem apply_toLower {α : Type} {f : Char → α}
    (h : ∀ n ∈ capitalCodes, f (Char.ofNat n).toLower = f (Char.ofNat n)) (c : Char) :
    f c.toLower = f c := by
  -- every other character is its own lowercase, so what is left is a list of 26 letters
  by_cases hc : c.val ≥ 'A'.val ∧ c.val ≤ 'Z'.val
  · have hcode : c.toNat ∈ capitalCodes := by
      rw [ge_iff_le, UInt32.le_iff_toNat_le, UInt32.le_iff_toNat_le] at hc
      simp only [capitalCodes, List.mem_range'_1]
      exact ⟨hc.1, Nat.lt_succ_of_le hc.2⟩
    have heq := h c.toNat hcode
    rwa [Char.ofNat_toNat] at heq
  · have hsame : c.toLower = c := dif_neg hc
    rw [hsame]

/-- A letter from A to Z has the traits of its lowercase, so every character has. -/
theorem traits_toLower (c : Char) : traits c.toLower = traits c :=
  apply_toLower (by decide +kernel) c

/-! ## Decomposing -/

theorem combiningClass_toLower (c : Char) : combiningClass c.toLower = combiningClass c :=
  congrArg Traits.combiningClass (traits_toLower c)

theorem map_decompose_toLower (c : Char) :
    (decompose c.toLower).map Char.toLower = (decompose c).map Char.toLower :=
  congrArg Traits.folded (traits_toLower c)

theorem insertMark_map_toLower (mark : Char) (text : List Char) :
    insertMark mark.toLower (text.map Char.toLower) = (insertMark mark text).map Char.toLower := by
  induction text with
  | nil => rfl
  | cons c rest ih =>
    rw [List.map_cons, insertMark, insertMark, combiningClass_toLower, combiningClass_toLower, ih]
    split <;> rfl

theorem foldr_insertMark_map_toLower (text : List Char) :
    (text.map Char.toLower).foldr insertMark [] = (text.foldr insertMark []).map Char.toLower := by
  induction text with
  | nil => rfl
  | cons mark text ih => rw [List.map_cons, List.foldr_cons, List.foldr_cons, ih, insertMark_map_toLower]

/-- Up to capital letters, decomposing does not look at them. The two forms need not be equal: of a letter
with an accent decomposing may make a capital that was none before. -/
theorem canonicalForm_map_toLower (text : List Char) :
    (canonicalForm (text.map Char.toLower)).map Char.toLower =
      (canonicalForm text).map Char.toLower := by
  have hparts : ((text.map Char.toLower).flatMap decompose).map Char.toLower =
      (text.flatMap decompose).map Char.toLower := by
    simp only [List.flatMap_map, List.map_flatMap, map_decompose_toLower]
  rw [canonicalForm, canonicalForm, ← foldr_insertMark_map_toLower, hparts,
    foldr_insertMark_map_toLower]

theorem isKept_toLower (c : Char) : isKept c.toLower = isKept c :=
  congrArg Traits.isKept (traits_toLower c)

theorem filter_isKept_map_toLower (text : List Char) :
    (text.map Char.toLower).filter isKept = (text.filter isKept).map Char.toLower := by
  rw [List.filter_map]
  exact congrArg _ (List.filter_congr fun c _ => isKept_toLower c)

/-! ## Lowering -/

theorem isCased_toLower (c : Char) : isCased c.toLower = isCased c :=
  congrArg Traits.isCased (traits_toLower c)

theorem isCaseIgnorable_toLower (c : Char) : isCaseIgnorable c.toLower = isCaseIgnorable c :=
  congrArg Traits.isCaseIgnorable (traits_toLower c)

theorem lowerChar_toLower (c : Char) : lowerChar c.toLower = lowerChar c :=
  congrArg Traits.lowered (traits_toLower c)

theorem toLower_eq_sigma_iff (c : Char) : c.toLower = 'Σ' ↔ c = 'Σ' := by
  have hsigma : (c.toLower == 'Σ') = (c == 'Σ') := congrArg Traits.isSigma (traits_toLower c)
  rw [← beq_iff_eq, hsigma, beq_iff_eq]

theorem nearestIsCased_map_toLower (text : List Char) :
    nearestIsCased (text.map Char.toLower) = nearestIsCased text := by
  induction text with
  | nil => rfl
  | cons c rest ih =>
    unfold nearestIsCased at ih ⊢
    rw [List.map_cons, List.dropWhile_cons, List.dropWhile_cons, isCaseIgnorable_toLower]
    cases isCaseIgnorable c with
    | true => exact ih
    | false => exact isCased_toLower c

/-- Lowering does not look at capital letters, neither before nor after a character. -/
theorem lowercaseAfter_map_toLower (before text : List Char) :
    lowercaseAfter (before.map Char.toLower) (text.map Char.toLower) = lowercaseAfter before text := by
  induction text generalizing before with
  | nil => rfl
  | cons c rest ih =>
    have hrest := ih (c :: before)
    rw [List.map_cons] at hrest
    rw [List.map_cons, lowercaseAfter, lowercaseAfter, hrest, nearestIsCased_map_toLower,
      nearestIsCased_map_toLower, lowerChar_toLower]
    simp only [toLower_eq_sigma_iff]

/-! ## Cleaning -/

theorem cleanChars_map_toLower (text : List Char) :
    cleanChars (text.map Char.toLower) = cleanChars text := by
  have hlower : ∀ text, lowercase (text.map Char.toLower) = lowercase text :=
    lowercaseAfter_map_toLower []
  calc lowercase ((canonicalForm (text.map Char.toLower)).filter isKept)
      = lowercase (((canonicalForm (text.map Char.toLower)).map Char.toLower).filter isKept) := by
        rw [filter_isKept_map_toLower, hlower]
    _ = lowercase (((canonicalForm text).map Char.toLower).filter isKept) := by
        rw [canonicalForm_map_toLower]
    _ = lowercase ((canonicalForm text).filter isKept) := by
        rw [filter_isKept_map_toLower, hlower]

/-- **A text has the words that it has in lowercase**, as far as letters from A to Z go. -/
theorem wordChars_map_toLower (text : List Char) :
    wordChars (text.map Char.toLower) = wordChars text := by
  rw [wordChars, cleanChars_map_toLower, wordChars]

end Concordance.Text
