import Concordance.Search.Result
import Concordance.Text.Case.Lowercase

/-!
# Ranking

Results come in the order of descending score, then of descending count, then of their location in
lowercase, then of their location. The last two comparisons leave no two locations equal, so the
order of a list of results does not depend on how the list was found.

## Main definitions

* `SearchResult.compareRank`: the order of two results
* `sortResults`: results in their order
* `rank`: the results for counted matches
-/

namespace Concordance

/-- The characters of a location, each in lowercase by itself. -/
def foldCase (location : String) : List Char :=
  location.toList.flatMap Text.lowerChar

/-- The order of two results; the result to be listed first is the lesser one. -/
def SearchResult.compareRank (a b : SearchResult) : Ordering :=
  (compare b.score a.score)
    |>.then (compare b.count a.count)
    |>.then (compare (foldCase a.location) (foldCase b.location))
    |>.then (compare a.location b.location)

/-- Results in their order. -/
def sortResults (results : List SearchResult) : List SearchResult :=
  results.mergeSort fun a b => (a.compareRank b).isLE

/-- The results for locations with a count of matches, given the words that each location has.
A location without words is left out. -/
def rank (found : List (String × Nat)) (words : String → Nat) : List SearchResult :=
  sortResults <| found.filterMap fun (location, count) =>
    (termFrequency count (words location)).map fun score => ⟨count, score, location⟩

end Concordance
