import Concordance.Number.Binary64
import Std.Data.ExtTreeSet

/-!
# Searches and their results

A search asks for the locations where any of a set of terms occurs. A term matches an indexed term
that equals it or, in the other mode, one that starts with it.

## Main definitions

* `TermSet`: the terms of a query
* `SearchMode`: which indexed terms a query term matches
* `SearchResult`: a location that a search found
* `Searcher`: anything that answers searches
* `termFrequency`: the score of a location
-/

namespace Concordance

/-- A set of terms, in ascending order. -/
abbrev TermSet := Std.ExtTreeSet String

/-- Which indexed terms a query term matches. -/
inductive SearchMode where
  /-- The query term itself. -/
  | exact
  /-- Every indexed term that starts with the query term. -/
  | partialMatch
deriving DecidableEq, Repr, Inhabited

/-- A location that a search found, how often it matched, and its score. -/
structure SearchResult where
  count : Nat
  score : Binary64
  location : String
deriving DecidableEq, Repr, Inhabited

/-- Anything that answers searches. -/
abbrev Searcher := TermSet → SearchMode → List SearchResult

namespace SearchMode

/-- The mode that a flag for partial matches asks for. -/
def ofPartialFlag (partialMatches : Bool) : SearchMode :=
  if partialMatches then .partialMatch else .exact

/-- The name of a mode. -/
def name : SearchMode → String
  | .exact => "exact"
  | .partialMatch => "partial"

end SearchMode

/-- The share of the words of a location that matched. The two numbers are rounded before they are
divided. A location without words has no score. -/
def termFrequency (matched words : Nat) : Option Binary64 :=
  if words = 0 then none else some ((Binary64.ofNat matched).div (Binary64.ofNat words))

end Concordance
