import Concordance.Search.Result
import Concordance.Text.Terms

/-!
# Canonical queries

Query lines with the same set of terms are the same query, however the terms are ordered, repeated
or inflected. A query is known by its key, the terms in ascending order with a space between them.

## Main definitions

* `CanonicalQuery`: the terms of a query and its key
* `CanonicalQuery.ofLine`: the canonical query of a line
-/

namespace Concordance

/-- A query by its terms and its key. -/
structure CanonicalQuery where
  terms : TermSet
  key : String
deriving DecidableEq

namespace CanonicalQuery

/-- The query for a set of terms. -/
def ofTerms (terms : TermSet) : CanonicalQuery :=
  ⟨terms, " ".intercalate terms.toList⟩

/-- The canonical query of a line. -/
@[irreducible]
def ofLine (line : String) : CanonicalQuery :=
  ofTerms (Std.ExtTreeSet.ofList (Text.terms line))

/-- Whether a query has no terms. -/
def isEmpty (query : CanonicalQuery) : Bool :=
  query.terms.isEmpty

end CanonicalQuery

end Concordance
