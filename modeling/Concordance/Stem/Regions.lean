import Concordance.Stem.Letters

/-!
# Regions of a word

Most suffixes are taken off only if they stand far enough from the start of the word. The first
region begins after the first consonant that follows a vowel, the second region after the next
such consonant. A few long beginnings push the first region back.

## Main definitions

* `Regions`: where the two regions of a word begin
* `Regions.ofWord`: the regions of a word
-/

namespace Concordance.Stem

/-- How many letters of a word stand before its two regions. -/
structure Regions where
  first : Nat
  second : Nat
deriving DecidableEq, Repr

/-- The letters up to the first consonant that follows a vowel, as a count; `none` if there is no
such consonant. -/
def syllableLength (word : List Char) : Option Nat :=
  let onset := word.takeWhile fun c => !isVowel c
  let afterOnset := word.dropWhile fun c => !isVowel c
  let nucleus := afterOnset.takeWhile isVowel
  match afterOnset.dropWhile isVowel with
  | [] => none
  | _ :: _ => some (onset.length + nucleus.length + 1)

/-- Beginnings that stand before the first region as a whole. -/
def longBeginnings : List (List Char) :=
  ["gener".toList, "commun".toList, "arsen".toList]

/-- Where the first region begins. -/
def firstRegion (word : List Char) : Nat :=
  match longBeginnings.find? (·.isPrefixOf word) with
  | some beginning => beginning.length
  | none => (syllableLength word).getD word.length

/-- The regions of a word. -/
def Regions.ofWord (word : List Char) : Regions :=
  let first := firstRegion word
  match syllableLength (word.drop first) with
  | some more => ⟨first, first + more⟩
  | none => ⟨first, word.length⟩

end Concordance.Stem
