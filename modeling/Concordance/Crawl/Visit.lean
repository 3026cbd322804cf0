import Concordance.Crawl.Frontier
import Concordance.Failure
import Concordance.Markup.Page
import Concordance.Pool.Schedule

/-!
# Crawling

A crawl is a pool of tasks, one for each location that was taken up. A task fetches its location,
indexes the page, offers the links of the page, and adds its index to the shared one at the end.
The crawl is over when no task is pending; since tasks submit others before they end, that cannot
happen early.

## Main definitions

* `Response`, `Web`: what fetching a location gives
* `Crawl.visit`: the task of a location
* `Crawl.crawl`: the job of a crawl
* `Crawl.run`: a crawl from a seed
-/

namespace Concordance

/-- What fetching a location gives: a page, something that is no page, or nothing. -/
inductive Response where
  | page (text : String)
  | other
  | broken
deriving DecidableEq, Repr, Inhabited

/-- What fetching each location gives. -/
abbrev Web := Url → Response

namespace Crawl

/-- The job of offering a location: whether it was taken up and accepted by the pool. -/
def offer (url : Url) : Job Url CrawlState Bool :=
  .atomically (·.accept url) fun state =>
    if state.accepts url then do
      Job.modify (·.note url .queued)
      if ← Job.offer url then return true
      -- The pool was shut down in the meantime, so nobody will fetch it.
      Job.modify (·.release url)
      Job.modify (·.addFailed)
      return false
    else .finish false

/-- The job of offering locations one after the other, and how many were taken up. -/
def offerAll : List Url → Job Url CrawlState Nat
  | [] => .finish 0
  | url :: rest => do
    let taken ← offer url
    let more ← offerAll rest
    return (if taken then 1 else 0) + more

/-- The stage of a page after so many of its links were taken up. -/
def stageAfter (accepted : Nat) : Stage :=
  if 0 < accepted then .expanded accepted else .terminal

/-- The task of a page that was fetched. -/
def readPage (url : Url) (text : String) : Job Url CrawlState Unit := do
  let index := Index.ofText url.text (Markup.textOfPage text)
  Job.modify (·.note url (.parsed (index.wordCount url.text)))
  -- The links are submitted before this task ends, so the pool is not idle in between.
  let accepted ← offerAll (pageLinks url text)
  Job.modify (·.note url (stageAfter accepted))
  Job.modify (·.absorb index)
  Job.modify (·.addIndexed)

/-- The task of a location after something was fetched. -/
def receive (url : Url) : Response → Job Url CrawlState Unit
  | .page text => readPage url text
  | .other => Job.modify (·.addSkipped)
  | .broken => Job.modify (·.addFailed)

/-- The task of a location. -/
def visit (web : Web) (url : Url) : Job Url CrawlState Unit := do
  Job.modify (·.note url .fetching)
  receive url (web url)

/-- The job of reading the outcome, one number after the other. -/
def readReport : Job Url CrawlState CrawlReport := do
  let enqueued ← Job.look CrawlState.enqueued
  let indexed ← Job.look CrawlState.indexed
  let skipped ← Job.look CrawlState.skipped
  let failed ← Job.look CrawlState.failed
  return ⟨enqueued, indexed, skipped, failed⟩

/-- The job of a crawl from a seed. -/
def crawl (seed : Url) : Job Url CrawlState CrawlReport := do
  -- If the seed is not taken up, then there is nothing to wait for.
  let _ ← offer seed.withoutFragment
  Job.idle
  readReport

/-- A crawl from a seed with a crew, into an index. -/
def run (web : Web) (crew : Crew) (index : Index) (seed : Url) (cap : Nat) : CrawlState :=
  (crew.work (visit web) Pool.patience (.start index cap) (crawl seed)).memory

/-- The seed that a text is, without white space at its ends. -/
def readSeed (text : String) : Except Failure Url :=
  match Url.parse (String.ofList (Text.trim text.toList)) with
  | .ok url => .ok url
  | .error cause => .error (.invalidUrl text cause)

end Crawl

end Concordance
