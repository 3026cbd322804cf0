/-!
# Letters of a word being stemmed

The letter y is a vowel or a consonant by its place. Before a word is stemmed, each y that acts
as a consonant is written as a capital Y, and the capitals are undone in the end.

## Main definitions

* `isVowel`: the vowels
* `markConsonantY`: writes the y that acts as a consonant as a capital
* `endsShort`: whether a word ends in a short syllable
-/

namespace Concordance.Stem

/-- A vowel; a capital Y is none. -/
def isVowel (c : Char) : Bool :=
  c ∈ ['a', 'e', 'i', 'o', 'u', 'y']

/-- Writes each y at the start of a word or after a vowel as a capital. -/
def markConsonantYAfter (vowelBefore : Bool) : List Char → List Char
  | [] => []
  | c :: rest =>
    let marked := if c = 'y' && vowelBefore then 'Y' else c
    marked :: markConsonantYAfter (isVowel marked) rest

/-- Writes each y that acts as a consonant as a capital. -/
def markConsonantY (word : List Char) : List Char :=
  markConsonantYAfter true word

theorem length_markConsonantYAfter (vowelBefore : Bool) (word : List Char) :
    (markConsonantYAfter vowelBefore word).length = word.length := by
  induction word generalizing vowelBefore with
  | nil => rfl
  | cons c rest ih => simp [markConsonantYAfter, ih]

theorem length_markConsonantY (word : List Char) : (markConsonantY word).length = word.length :=
  length_markConsonantYAfter _ _

/-- Undoes the capitals of `markConsonantY`. -/
def unmarkY (word : List Char) : List Char :=
  word.map fun c => if c = 'Y' then 'y' else c

/-- Whether a word, given from its last letter, ends in a short syllable: a vowel between two
other letters, the last of them none of w, x and Y, or a vowel and one other letter that are the
whole word. -/
def endsShortReversed : List Char → Bool
  | [c, v] => !isVowel c && isVowel v
  | c :: v :: b :: _ =>
    !(isVowel c || c ∈ ['w', 'x', 'Y']) && isVowel v && !isVowel b
  | _ => false

/-- Whether a word ends in a short syllable. -/
def endsShort (word : List Char) : Bool :=
  endsShortReversed word.reverse

end Concordance.Stem
