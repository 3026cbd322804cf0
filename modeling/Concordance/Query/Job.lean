import Concordance.Pool.Schedule
import Concordance.Query.Engine

/-!
# Queries on many threads

A thread that runs a query first looks for the cell of its key. If there is none, it puts an empty
one there, unless another thread was faster. Then it claims the cell. Of several threads one fills
it, and the others wait for that and share the results. The search itself happens without any lock.

## Main definitions

* `QueryEngine.runJob`: the job of running a query line
* `QueryEngine.runPooled`: runs query lines as tasks of a crew
-/

namespace Concordance.QueryEngine

/-- The engine with an empty cell for a key that has none. -/
def reserve (engine : QueryEngine) (key : String) : QueryEngine :=
  if engine.cells.contains key then engine else engine.setCell key .vacant

/-- The engine with an empty cell marked as being filled. -/
def claim (engine : QueryEngine) (key : String) : QueryEngine :=
  match engine.cells[key]? with
  | some .vacant => engine.setCell key .filling
  | _ => engine

/-- The job of searching for a query and filling its cell. -/
def fillJob (query : CanonicalQuery) : Job String QueryEngine (List SearchResult) :=
  .atomically (·.noteSearch query.key) fun engine =>
    let results := engine.answer query
    .atomically (·.setCell query.key (.filled results)) fun _ => .finish results

/-- The job of waiting for a cell to be filled. -/
def shareJob (key : String) : Job String QueryEngine (List SearchResult) :=
  .await (fun engine => (engine.remembered key).isSome) (.look fun engine => (engine.remembered key).getD [])

/-- The job of getting the results out of a cell, by filling it if nobody does. -/
def cellJob (query : CanonicalQuery) : Job String QueryEngine (List SearchResult) :=
  .atomically (·.claim query.key) fun engine =>
    match engine.cells[query.key]? with
    | some (.filled results) => .finish results
    | some .vacant => fillJob query
    | _ => shareJob query.key

/-- The job of running a query line. -/
def runJob (line : String) : Job String QueryEngine (List SearchResult) :=
  let query := CanonicalQuery.ofLine line
  if query.isEmpty then .finish []
  else
    .atomically id fun engine =>
      if engine.cells.contains query.key then cellJob query
      else .atomically (·.reserve query.key) fun _ => cellJob query

/-- The task of running a query line, whose results are only remembered. -/
def lineTask (line : String) : Job String QueryEngine Unit :=
  (runJob line).bind fun _ => .finish ()

/-- Runs query lines as tasks of a crew, and says whether all of them were accepted. -/
def runPooled (engine : QueryEngine) (crew : Crew) (lines : List String) : Bool × QueryEngine :=
  let pool := crew.work lineTask (Pool.eventsFor crew.size lines.length) engine (Job.runAll lines)
  ((pool.result? 0).getD false, pool.memory)

end Concordance.QueryEngine
