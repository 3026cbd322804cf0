import Concordance.Stem.Regions
import Concordance.Stem.Suffix

/-!
# English stems

The stem of a word is what its forms share: `run` for `running`, `hous` for `house` and `houses`.
A stem need not be a word. A word loses its suffixes in several steps, from plurals to
derivations, and a few words are exceptions.

## Main definitions

* `stem`: the stem of a word
* `description`: the name of the stemmer
-/

namespace Concordance.Stem

/-- Words with a stem of their own, or that are their own stem. -/
def exceptions : List (String × String) :=
  [("skis", "ski"), ("skies", "sky"), ("dying", "die"), ("lying", "lie"), ("tying", "tie"),
    ("idly", "idl"), ("gently", "gentl"), ("ugly", "ugli"), ("early", "earli"), ("only", "onli"),
    ("singly", "singl"), ("sky", "sky"), ("news", "news"), ("howe", "howe"), ("atlas", "atlas"),
    ("cosmos", "cosmos"), ("bias", "bias"), ("andes", "andes")]

/-- Words that lose nothing more once they have no plural ending. -/
def finishedWords : List (List Char) :=
  ["inning", "outing", "canning", "herring", "earring", "proceed", "exceed", "succeed"].map
    String.toList

/-- Takes the ending of the possessive off. -/
def dropPossessive (word : List Char) : List Char :=
  applyLongest 0 [always "'s'" "", always "'s" "", always "'" ""] word

/-- Takes the ending of the plural off. A last s stays after u, after s, and where no vowel stands
before the letter that it follows. -/
def dropPlural (word : List Char) : List Char :=
  match word.reverse with
  | 's' :: 'e' :: 's' :: 's' :: stem => ('s' :: 's' :: stem).reverse
  | 's' :: 'e' :: 'i' :: stem | 'd' :: 'e' :: 'i' :: stem =>
    if 2 ≤ stem.length then ('i' :: stem).reverse else ('e' :: 'i' :: stem).reverse
  | 's' :: 'u' :: _ | 's' :: 's' :: _ => word
  | 's' :: stem => if (stem.drop 1).any isVowel then stem.reverse else word
  | _ => word

/-- Mends a word that lost its ending: an `e` comes back, or a doubled letter goes. -/
def mendEnding (regions : Regions) (word : List Char) : List Char :=
  if ["at".toList, "bl".toList, "iz".toList].any (·.isSuffixOf word) then word ++ ['e']
  else if ['b', 'd', 'f', 'g', 'm', 'n', 'p', 'r', 't'].any (fun c => [c, c].isSuffixOf word) then
    word.dropLast
  else if word.length = regions.first ∧ endsShort word = true then word ++ ['e']
  else word

/-- Takes the endings of the past and of the participles off. -/
def dropTense (regions : Regions) (word : List Char) : List Char :=
  match findRule [always "eedly" "ee", always "ingly" "", always "edly" "", always "eed" "ee",
      always "ing" "", always "ed" ""] word with
  | none => word
  | some (rule, stem) =>
    if rule.replacement = [] then
      -- An ending that goes altogether leaves a vowel behind.
      if stem.any isVowel then mendEnding regions stem else word
    else if regions.first ≤ stem.length then stem ++ rule.replacement
    else word

/-- Writes a last y after a consonant as i, unless that consonant starts the word. -/
def replaceFinalY (word : List Char) : List Char :=
  match word.reverse with
  | c :: b :: a :: rest =>
    if (c = 'y' ∨ c = 'Y') ∧ isVowel b = false then ('i' :: b :: a :: rest).reverse else word
  | _ => word

/-- Shortens double suffixes. -/
def shortenSuffixes : List SuffixRule :=
  [always "ational" "ate", always "fulness" "ful", always "iveness" "ive", always "ization" "ize",
    always "ousness" "ous", always "biliti" "ble", always "lessli" "less", always "tional" "tion",
    always "alism" "al", always "aliti" "al", always "ation" "ate", always "entli" "ent",
    always "fulli" "ful", always "iviti" "ive", always "ousli" "ous", always "abli" "able",
    always "alli" "al", always "anci" "ance", always "ator" "ate", always "enci" "ence",
    always "izer" "ize", always "bli" "ble", provided (endsIn ['l']) "ogi" "og",
    provided (endsIn ['c', 'd', 'e', 'g', 'h', 'k', 'm', 'n', 'r', 't']) "li" ""]

/-- Shortens the suffixes of adjectives and nouns. -/
def shortenDerivations (regions : Regions) : List SuffixRule :=
  [always "ational" "ate", always "tional" "tion", always "alize" "al",
    provided (fun stem => regions.second ≤ stem.length) "ative" "", always "icate" "ic",
    always "iciti" "ic", always "ical" "ic", always "ness" "", always "ful" ""]

/-- The suffixes that go altogether. -/
def dropDerivations : List SuffixRule :=
  [always "ement" "", always "able" "", always "ance" "", always "ence" "", always "ible" "",
    always "ment" "", always "ant" "", always "ate" "", always "ent" "",
    provided (endsIn ['s', 't']) "ion" "", always "ism" "", always "iti" "", always "ive" "",
    always "ize" "", always "ous" "", always "al" "", always "er" "", always "ic" ""]

/-- A last e goes if the word stays long enough, and a last l after another l. -/
def dropFinalLetter (regions : Regions) (word : List Char) : List Char :=
  match word.reverse with
  | 'e' :: rest =>
    if regions.second ≤ rest.length ∨ regions.first ≤ rest.length ∧ endsShort rest.reverse = false
    then rest.reverse
    else word
  | 'l' :: 'l' :: rest => if regions.second ≤ rest.length + 1 then ('l' :: rest).reverse else word
  | _ => word

/-- All steps after the plural, in their order. -/
def dropSuffixes (regions : Regions) (word : List Char) : List Char :=
  let word := replaceFinalY (dropTense regions word)
  let word := applyLongest regions.first shortenSuffixes word
  let word := applyLongest regions.first (shortenDerivations regions) word
  let word := applyLongest regions.second dropDerivations word
  dropFinalLetter regions word

/-- The stem of a word that has no stem of its own. -/
def stemRegular (word : List Char) : List Char :=
  let word := if word.head? = some '\'' then word.tail else word
  -- A y that is a consonant is told apart by its case until the end.
  let marked := markConsonantY word
  let regions := Regions.ofWord marked
  let singular := dropPlural (dropPossessive marked)
  let stemmed := if singular ∈ finishedWords then singular else dropSuffixes regions singular
  if marked = word then stemmed else unmarkY stemmed

/-- The stem of a word, as a list of letters. Words of fewer than three letters are stems. -/
def stemChars (word : List Char) : List Char :=
  match exceptions.find? (fun entry => entry.1.toList = word) with
  | some (_, stem) => stem.toList
  | none => if word.length < 3 then word else stemRegular word

/-- The stem of a word. -/
def stem (word : String) : String :=
  String.ofList (stemChars word.toList)

/-- The name of the stemmer. -/
def description : String := "Stemmer(English)"

end Concordance.Stem
