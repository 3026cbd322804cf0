import Concordance.Stem.English
import Concordance.Text.Words

/-!
# The terms of a text

What is indexed and searched for are terms: the stems of the words of a text.

## Main definitions

* `terms`: the terms of a text, in order
-/

namespace Concordance.Text

/-- The terms of a text, in order, repetitions kept. -/
def terms (text : String) : List String :=
  (words text).map Stem.stem

end Concordance.Text
