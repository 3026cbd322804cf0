import Concordance.Text.Alphabetic
import Concordance.Text.Case.Lowercase
import Concordance.Text.Normal.Form
import Concordance.Text.WhiteSpace

/-!
# The words of a text

A text is cleaned before it is cut into words: decomposed, so that an accent is a mark of its
own, then rid of everything that is neither a letter nor white space, then lowered. Digits,
punctuation and accents go without a trace, so `don't` and `café` become `dont` and `cafe`.

## Main definitions

* `isKept`: whether a character survives cleaning
* `clean`: the cleaned text
* `words`: the words of a text, in order
-/

namespace Concordance.Text

/-- Whether cleaning keeps a character. -/
def isKept (c : Char) : Bool :=
  isAlphabetic c || isWhiteSpace c

/-- The letters and the white space of a text, without accents and in lowercase. -/
def cleanChars (text : List Char) : List Char :=
  lowercase ((canonicalForm text).filter isKept)

/-- The words of a text as lists of letters. -/
def wordChars (text : List Char) : List (List Char) :=
  chunks (cleanChars text)

/-- A text reduced to lowercase letters and white space. -/
def clean (text : String) : String :=
  String.ofList (cleanChars text.toList)

/-- The words of a text, in order, repetitions kept. -/
def words (text : String) : List String :=
  (wordChars text.toList).map String.ofList

end Concordance.Text
