import Concordance.CommandLine.Flags
import Concordance.Crawl.Visit
import Concordance.Files.Indexing
import Concordance.Index.Format
import Concordance.Index.Search
import Concordance.Query.Job
import Concordance.Query.Lines

/-!
# Running a command line

A run indexes files, crawls, answers queries and writes what it was asked for, always in this
order. A step that fails is reported, and the others go on.

## Main definitions

* `Outcome`: what a run left behind
* `Turns`: the order in which threads take their turns
* `runSerial`, `runPooled`: the work of a run, without and with workers
* `runFlags`: a run
-/

namespace Concordance

/-- What a run left behind: the files, why it failed, and the texts of the steps that failed. -/
structure Outcome where
  tree : FileTree
  error : Option String
  stepErrors : List String

/-- What a run has worked out before it writes anything. -/
structure Findings where
  index : Index
  results : QueryResults
  errors : List String

/-- The order in which threads take their turns in each step of a run. -/
structure Turns where
  indexing : List Event := []
  crawling : List Event := []
  querying : List Event := []
deriving DecidableEq, Repr

/-- The text of a failed step. -/
def stepError (step : String) (failure : Failure) : String :=
  ": ".intercalate (step :: failure.chain)

/-- The text of a failed step, if it failed. -/
def stepErrors {α : Type} (step : String) : Except Failure α → List String
  | .ok _ => []
  | .error failure => [stepError step failure]

/-- The lines of the query file at a path. -/
def readQueries (tree : FileTree) (path : String) : Except Failure (List String) :=
  match tree.readText path with
  | .ok text => .ok (Query.lines text)
  | .error cause => .error (.file cause)

/-- Runs the query file at a path, one line after the other. -/
def QueryEngine.runFile (engine : QueryEngine) (tree : FileTree) (path : String) :
    Except Failure Unit × QueryEngine :=
  match readQueries tree path with
  | .ok lines => (.ok (), engine.runLines lines)
  | .error failure => (.error failure, engine)

/-- Runs the query file at a path, its lines as tasks of a crew. -/
def QueryEngine.runFilePooled (engine : QueryEngine) (crew : Crew) (tree : FileTree)
    (path : String) : Except Failure Unit × QueryEngine :=
  match readQueries tree path with
  | .ok lines =>
    let (accepted, engine) := engine.runPooled crew lines
    (if accepted then .ok () else .error .poolShutdown, engine)
  | .error failure => (.error failure, engine)

/-- The findings after a step that changes the index. -/
def Findings.afterIndexing {α : Type} (findings : Findings) (step : String)
    (result : Except Failure α × Index) : Findings :=
  { findings with index := result.2, errors := findings.errors ++ stepErrors step result.1 }

/-- The findings after a query file was run. -/
def Findings.afterQueries (findings : Findings) (path : String)
    (result : Except Failure Unit × QueryEngine) : Findings :=
  { findings with
    results := result.2.results
    errors := findings.errors ++ stepErrors ("running queries from " ++ path) result.1 }

/-- The findings of a run that does one thing after the other. -/
def runSerial (flags : Flags) (config : Config) (tree : FileTree) : Findings :=
  let findings : Findings := ⟨.empty, ∅, []⟩
  let findings := match flags.text with
    | some path =>
      findings.afterIndexing ("indexing " ++ path) (tree.indexPath findings.index path)
    | none => findings
  match flags.query with
  | some path =>
    findings.afterQueries path ((QueryEngine.new findings.index.search config.mode).runFile tree path)
  | none => findings

/-- A crawl from the seed that a text is, into an index. -/
def crawlFrom (web : Web) (crew : Crew) (index : Index) (seed : String) (cap : Nat) :
    Except Failure CrawlReport × Index :=
  match Crawl.readSeed seed with
  | .ok url =>
    let state := Crawl.run web crew index url cap
    (.ok state.report, state.index)
  | .error failure => (.error failure, index)

/-- The findings of a run with workers, who take their turns as laid down. At least one of the workers
can be spawned each time, so that no step finds its pool closed. -/
def runPooled (flags : Flags) (config : Config) (tree : FileTree) (web : Web) (turns : Turns) :
    Findings :=
  let crew (schedule : List Event) : Crew := ⟨config.workerCount, true, schedule⟩
  let findings : Findings := ⟨.empty, ∅, []⟩
  let findings := match flags.text with
    | some path =>
      findings.afterIndexing ("indexing " ++ path)
        (tree.indexPathPooled (crew turns.indexing) findings.index path)
    | none => findings
  let findings := match flags.html with
    | some seed =>
      findings.afterIndexing ("crawling " ++ seed)
        (crawlFrom web (crew turns.crawling) findings.index seed config.crawlCap)
    | none => findings
  match flags.query with
  | some path =>
    findings.afterQueries path
      ((QueryEngine.new findings.index.search config.mode).runFilePooled (crew turns.querying) tree
        path)
  | none => findings

/-- Writes a value to a file, if a path for it was given. -/
def writeOutput (outcome : FileTree × List String) (path : Option String) (value : Json) :
    FileTree × List String :=
  match path with
  | none => outcome
  | some path =>
    match outcome.1.write path value.pretty with
    | .ok tree => (tree, outcome.2)
    | .error cause => (outcome.1, outcome.2 ++ [stepError ("writing " ++ path) (.file cause)])

/-- Writes what flags ask for, and reports the steps that failed. -/
def writeOutputs (flags : Flags) (findings : Findings) (tree : FileTree) :
    FileTree × List String :=
  let outcome := (tree, findings.errors)
  let outcome := writeOutput outcome flags.counts findings.index.countsJson
  let outcome := writeOutput outcome flags.index findings.index.entriesJson
  writeOutput outcome flags.results (resultsJson findings.results)

/-- The text for a number of failed steps, if there are any. -/
def failedSteps (errors : List String) : Option String :=
  if errors = [] then none else some (toString errors.length ++ " step(s) failed")

/-- A run, where the workers, if there are any, take their turns as laid down. -/
def runFlags (flags : Flags) (tree : FileTree) (web : Web) (turns : Turns) : Outcome :=
  match flags.config with
  | .error failure => ⟨tree, some (stepError "invalid arguments" failure), []⟩
  | .ok config =>
    let findings :=
      if config.isMultithreaded then runPooled flags config tree web turns
      else runSerial flags config tree
    let (tree, errors) := writeOutputs flags findings tree
    ⟨tree, failedSteps errors, errors⟩

/-- The status that a program ends with after a run. -/
def Outcome.exitStatus (outcome : Outcome) : Nat :=
  if outcome.error.isSome then 1 else 0

/-- A web that cannot be reached. -/
def unreachableWeb : Web := fun _ => .broken

end Concordance
