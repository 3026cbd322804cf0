import Concordance.Markup.Span

/-!
# Tags

A tag is anything between angle brackets that is not empty.

## Main definitions

* `tagLength`: the length of the tag that a text starts with
* `removeTags`: a text without its tags
-/

namespace Concordance.Markup

/-- The length of the tag that a text starts with. -/
def tagLength (text : List Char) : Nat :=
  match text with
  | '<' :: rest =>
    let length := lengthWhile (· != '>') rest
    if 0 < length ∧ (rest.drop length).head? = some '>' then length + 2 else 0
  | _ => 0

/-- A text without its tags. -/
def removeTags (text : List Char) : List Char :=
  removeSpans tagLength text

end Concordance.Markup
