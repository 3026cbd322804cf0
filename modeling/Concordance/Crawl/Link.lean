import Concordance.Markup.Anchor
import Concordance.Markup.Entity
import Concordance.Url.Parser

/-!
# Links of a page

The links of a page are the targets of its anchors that lead to pages of the web, as locations.

## Main definitions

* `resolveTarget`: the location that a target leads to
* `pageLinks`: the links of a page
-/

namespace Concordance.Crawl

/-- The location that a target on a page leads to, if that is a page of the web. -/
def resolveTarget (page : Url) (target : List Char) : Option Url :=
  match page.join (String.ofList (Markup.decodeReferences (Text.trim target))) with
  | .ok url => if url.isWeb then some url.withoutFragment else none
  | .error _ => none

/-- The links of a page, each once, in the order in which they first appear. -/
def pageLinks (page : Url) (text : String) : List Url :=
  ((Markup.targets text.toList).filterMap (resolveTarget page)).eraseDups

end Concordance.Crawl
