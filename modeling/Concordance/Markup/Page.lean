import Concordance.Markup.Block
import Concordance.Markup.Entity
import Concordance.Markup.Tag

/-!
# The text of a page

Markup is only ever taken off to find the words and the links of a page. Broken markup leaves more
or fewer words, and is never an error.

## Main definitions

* `pageText`: what a page says, without its markup
* `isHtml`: whether a content type is that of a page
-/

namespace Concordance.Markup

/-- What a page says. -/
def pageText (page : List Char) : List Char :=
  decodeReferences (removeTags (removeBlocks page))

/-- Whether a content type is that of a page. -/
def isHtml (contentType : String) : Bool :=
  "text/html".toList.isPrefixOf ((Text.trimStart contentType.toList).map Char.toLower)

/-- What a page says. -/
def textOfPage (page : String) : String :=
  String.ofList (pageText page.toList)

end Concordance.Markup
