import Concordance.Markup.Span

/-!
# Comments

A comment runs from its opening mark to the first closing mark after it. An opening mark without a
closing one is text.

## Main definitions

* `commentLength`: the length of the comment that a text starts with
* `removeComments`: a page without its comments
-/

namespace Concordance.Markup

/-- The mark that opens a comment. -/
def commentOpening : List Char := "<!--".toList

/-- The mark that closes a comment. -/
def commentClosing : List Char := "-->".toList

/-- The length of the comment that a text starts with. -/
def commentLength (text : List Char) : Nat :=
  if commentOpening.isPrefixOf text then
    match lengthUntil (literalLength commentClosing) (text.drop 4) with
    | some length => 4 + length
    | none => 0
  else 0

/-- A page without its comments. -/
def removeComments (page : List Char) : List Char :=
  removeSpans commentLength page

end Concordance.Markup
