import Concordance.Index.Lookup
import Concordance.Search.Ranking

/-!
# Searching an index

A search adds up, for each location, the positions of every matching term, and ranks the locations
found. Terms that start alike stand together in the order of terms, so partial matches are found
by one scan that starts at the first of them and ends after the last.

## Main definitions

* `Index.entriesStartingWith`: the indexed terms that start with a text
* `Index.exactSearch`, `Index.partialSearch`, `Index.search`: the ranked results of a search
-/

namespace Concordance

/-- Whether a text starts with another one. -/
def startsWith (beginning text : String) : Bool :=
  beginning.toList.isPrefixOf text.toList

/-- Counts of matches at locations, found so far. -/
abbrev Matches := Std.ExtTreeMap String Nat

/-- Adds the postings of a matching term. -/
def Matches.accumulate (found : Matches) (postings : Postings) : Matches :=
  postings.foldl (fun found location positions => raiseCount found location positions.size) found

namespace Index

/-- The indexed terms that start with a text, in ascending order with their postings. -/
def entriesStartingWith (index : Index) (beginning : String) : List (String × Postings) :=
  (index.entries.toList.dropWhile fun entry => entry.1 < beginning).takeWhile
    fun entry => startsWith beginning entry.1

/-- Adds the matches of a term that is matched as it is. -/
def accumulateExact (index : Index) (found : Matches) (term : String) : Matches :=
  match index.postings? term with
  | some postings => found.accumulate postings
  | none => found

/-- Adds the matches of all terms that start with a text. -/
def accumulatePartial (index : Index) (found : Matches) (beginning : String) : Matches :=
  (index.entriesStartingWith beginning).foldl (fun found entry => found.accumulate entry.2) found

/-- The ranked locations of terms that are matched as they are. -/
def exactSearch (index : Index) (terms : TermSet) : List SearchResult :=
  rank (terms.foldl index.accumulateExact (∅ : Matches)).toList index.wordCount

/-- The ranked locations of terms that start with a query term. A term that starts with two of
them counts twice. -/
def partialSearch (index : Index) (terms : TermSet) : List SearchResult :=
  rank (terms.foldl index.accumulatePartial (∅ : Matches)).toList index.wordCount

/-- The ranked locations of a set of terms. -/
def search (index : Index) : Searcher
  | terms, .exact => index.exactSearch terms
  | terms, .partialMatch => index.partialSearch terms

end Index

end Concordance
