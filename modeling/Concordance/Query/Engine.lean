import Concordance.Index.Format
import Concordance.Query.Canonical

/-!
# The query engine

Query files repeat themselves, so the engine searches for each key at most once and remembers what
it found. A key has a cell for its results from the moment on that it is to be searched for.

## Main definitions

* `Cell`: what is known of the results of a key
* `QueryEngine`: a searcher and the cells
* `QueryEngine.runLine`, `QueryEngine.runLines`: run queries on one thread
* `QueryEngine.resultsFor`, `QueryEngine.hasQuery`, `QueryEngine.results`: what is remembered
-/

namespace Concordance

/-- What is known of the results of a key: nothing yet, or that a thread is searching, or the
results. -/
inductive Cell where
  | vacant
  | filling
  | filled (results : List SearchResult)
deriving DecidableEq, Repr, Inhabited

/-- The results in a cell. -/
def Cell.results? : Cell → Option (List SearchResult)
  | .filled results => some results
  | _ => none

/-- A searcher with what was asked of it. -/
structure QueryEngine where
  searcher : Searcher
  mode : SearchMode
  cells : Std.ExtTreeMap String Cell
  /-- The keys that were searched for, in order. -/
  searched : List String

namespace QueryEngine

/-- An engine that was not asked anything. -/
def new (searcher : Searcher) (mode : SearchMode) : QueryEngine :=
  ⟨searcher, mode, ∅, []⟩

/-- What the searcher finds for a query. -/
def answer (engine : QueryEngine) (query : CanonicalQuery) : List SearchResult :=
  engine.searcher query.terms engine.mode

/-- The engine with one more search in its record. -/
def noteSearch (engine : QueryEngine) (key : String) : QueryEngine :=
  { engine with searched := engine.searched ++ [key] }

/-- The engine with a cell set. -/
def setCell (engine : QueryEngine) (key : String) (cell : Cell) : QueryEngine :=
  { engine with cells := engine.cells.insert key cell }

/-- The results remembered for a key. -/
def remembered (engine : QueryEngine) (key : String) : Option (List SearchResult) :=
  engine.cells[key]?.bind Cell.results?

/-- Runs a query line. A line without terms has no results and is not remembered. -/
def runLine (engine : QueryEngine) (line : String) : List SearchResult × QueryEngine :=
  let query := CanonicalQuery.ofLine line
  if query.isEmpty then ([], engine)
  else match engine.remembered query.key with
    | some results => (results, engine)
    | none =>
      let results := engine.answer query
      (results, (engine.noteSearch query.key).setCell query.key (.filled results))

/-- Runs query lines one after the other. -/
def runLines (engine : QueryEngine) (lines : List String) : QueryEngine :=
  lines.foldl (fun engine line => (engine.runLine line).2) engine

/-- The results remembered for a query line; none if it was never run. -/
def resultsFor (engine : QueryEngine) (line : String) : List SearchResult :=
  (engine.remembered (CanonicalQuery.ofLine line).key).getD []

/-- Whether a query line was run. -/
def hasQuery (engine : QueryEngine) (line : String) : Bool :=
  engine.cells.contains (CanonicalQuery.ofLine line).key

/-- The keys of the queries that were run, in ascending order. -/
def keys (engine : QueryEngine) : List String :=
  engine.cells.keys

/-- How many queries were run. -/
def queryCount (engine : QueryEngine) : Nat :=
  engine.cells.size

/-- How many searches were made. -/
def searchCount (engine : QueryEngine) : Nat :=
  engine.searched.length

/-- All results, by their keys. -/
def results (engine : QueryEngine) : QueryResults :=
  engine.cells.filterMap fun _ cell => cell.results?

/-- The engine in words. -/
def describe (engine : QueryEngine) (pooled : Bool) : String :=
  let mode := match engine.mode with
    | .exact => "Exact"
    | .partialMatch => "Partial"
  "QueryEngine \x7b mode: " ++ mode ++ ", queries: " ++ toString engine.queryCount
    ++ ", pooled: " ++ (if pooled then "true" else "false") ++ " \x7d"

end QueryEngine

end Concordance
