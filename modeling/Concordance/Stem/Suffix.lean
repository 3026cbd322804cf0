/-!
# Suffixes

A step of the stemmer looks for the longest suffix in its list. If the word before that suffix
meets the rule's condition, the suffix is replaced; if not, the word is left alone, and no shorter
suffix is tried.

## Main definitions

* `beforeSuffix`: what stands before a suffix
* `SuffixRule`: a suffix, its replacement and the condition on what stands before
* `applyLongest`: one step of the stemmer
-/

namespace Concordance.Stem

/-- The letters before a suffix, if the word has it. -/
def beforeSuffix (suffix word : List Char) : Option (List Char) :=
  if suffix.isSuffixOf word then some (word.take (word.length - suffix.length)) else none

theorem beforeSuffix_eq_some_iff {suffix word stem : List Char} :
    beforeSuffix suffix word = some stem ↔ word = stem ++ suffix := by
  unfold beforeSuffix
  constructor
  · intro h
    split at h
    · next hs =>
      obtain ⟨front, rfl⟩ := List.isSuffixOf_iff_suffix.1 hs
      simp at h
      rw [h]
    · cases h
  · rintro rfl
    rw [if_pos (List.isSuffixOf_iff_suffix.2 ⟨stem, rfl⟩)]
    simp

/-- Whether a word ends in one of these letters. -/
def endsIn (letters : List Char) (word : List Char) : Bool :=
  match word.getLast? with
  | some c => c ∈ letters
  | none => false

/-- A suffix, what to write for it, and what must hold of the letters before it. -/
structure SuffixRule where
  suffix : List Char
  replacement : List Char
  applies : List Char → Bool

/-- A rule without a condition. -/
def always (suffix replacement : String) : SuffixRule :=
  ⟨suffix.toList, replacement.toList, fun _ => true⟩

/-- A rule with a condition on the letters before the suffix. -/
def provided (applies : List Char → Bool) (suffix replacement : String) : SuffixRule :=
  ⟨suffix.toList, replacement.toList, applies⟩

/-- The rule with the longest suffix of a word, in a list with longer suffixes first, and the
letters before that suffix. -/
def findRule (rules : List SuffixRule) (word : List Char) : Option (SuffixRule × List Char) :=
  rules.findSome? fun rule => (beforeSuffix rule.suffix word).map (rule, ·)

/-- Applies the rule with the longest suffix of a word, in a list with longer suffixes first,
where `region` letters have to stand before the suffix. -/
def applyLongest (region : Nat) (rules : List SuffixRule) (word : List Char) : List Char :=
  match findRule rules word with
  | none => word
  | some (rule, stem) =>
    if region ≤ stem.length ∧ rule.applies stem = true then stem ++ rule.replacement else word

end Concordance.Stem
