import Concordance.Index.Lookup
import Concordance.Json.Printer
import Concordance.Search.Format

/-!
# Files in JSON

What is written to files are three maps, each in ascending order of its keys: the counts of an
index, its entries, and the results of queries.

## Main definitions

* `Index.countsJson`, `Index.entriesJson`: an index as values
* `resultsJson`: the results of queries as a value
-/

namespace Concordance

/-- The results of queries, by their keys. -/
abbrev QueryResults := Std.ExtTreeMap String (List SearchResult)

/-- The positions of a term at a location, as a value. -/
def positionsJson (positions : Positions) : Json :=
  .array (positions.toList.map .count)

/-- The postings of a term, as a value. -/
def postingsJson (postings : Postings) : Json :=
  .record (postings.toList.map fun (location, positions) => (location, positionsJson positions))

namespace Index

/-- The counts of an index, as a value. -/
def countsJson (index : Index) : Json :=
  .record (index.counts.toList.map fun (location, count) => (location, .count count))

/-- The entries of an index, as a value. -/
def entriesJson (index : Index) : Json :=
  .record (index.entries.toList.map fun (term, postings) => (term, postingsJson postings))

end Index

/-- The results of queries, as a value. -/
def resultsJson (results : QueryResults) : Json :=
  .record (results.toList.map fun (key, list) => (key, .array (list.map SearchResult.toJson)))

end Concordance
