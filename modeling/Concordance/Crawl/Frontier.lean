import Concordance.Crawl.Link
import Concordance.Index.Documents
import Concordance.Index.Lookup

/-!
# The state of a crawl

A crawl takes up a location only if it is new and the crawl has room for it. The locations it has
seen and their number change together.

## Main definitions

* `Stage`: how far a location has come
* `CrawlState`: what the tasks of a crawl share
* `CrawlState.accept`, `CrawlState.release`: taking a location up, and giving it back
* `CrawlReport`: the outcome of a crawl
-/

namespace Concordance

/-- How far a location has come. A page that was parsed is `expanded` if at least one of its links
was taken up, and `terminal` otherwise. -/
inductive Stage where
  | queued
  | fetching
  | parsed (words : Nat)
  | expanded (accepted : Nat)
  | terminal
deriving DecidableEq, Repr, Inhabited

/-- The outcome of a crawl: how many locations were taken up, and how many of these were indexed,
were no pages, or could not be fetched. -/
structure CrawlReport where
  enqueued : Nat
  indexed : Nat
  skipped : Nat
  failed : Nat
deriving DecidableEq, Repr, Inhabited

/-- What the tasks of a crawl share. -/
structure CrawlState where
  /-- The locations that were taken up. -/
  visited : List Url
  enqueued : Nat
  cap : Nat
  index : Index
  indexed : Nat
  skipped : Nat
  failed : Nat
  /-- The stages of locations, in order. -/
  trace : List (Url × Stage)
deriving DecidableEq, Inhabited

namespace CrawlState

/-- The state at the start of a crawl. -/
def start (index : Index) (cap : Nat) : CrawlState :=
  ⟨[], 0, cap, index, 0, 0, 0, []⟩

/-- Whether a location would be taken up. -/
def accepts (state : CrawlState) (url : Url) : Bool :=
  state.enqueued < state.cap && !state.visited.contains url

theorem accepts_iff {state : CrawlState} {url : Url} :
    state.accepts url = true ↔ state.enqueued < state.cap ∧ url ∉ state.visited := by
  simp [accepts]

/-- Takes a location up if it is new and there is room. -/
def accept (state : CrawlState) (url : Url) : CrawlState :=
  if state.accepts url then
    { state with visited := state.visited ++ [url], enqueued := state.enqueued + 1 }
  else state

/-- Gives a location back that was taken up. -/
def release (state : CrawlState) (url : Url) : CrawlState :=
  if state.visited.contains url then
    { state with visited := state.visited.erase url, enqueued := state.enqueued - 1 }
  else state

/-- Notes the stage of a location. -/
def note (state : CrawlState) (url : Url) (stage : Stage) : CrawlState :=
  { state with trace := state.trace ++ [(url, stage)] }

def addFailed (state : CrawlState) : CrawlState :=
  { state with failed := state.failed + 1 }

def addSkipped (state : CrawlState) : CrawlState :=
  { state with skipped := state.skipped + 1 }

def addIndexed (state : CrawlState) : CrawlState :=
  { state with indexed := state.indexed + 1 }

/-- Adds the index of a page. An empty one changes nothing. -/
def absorb (state : CrawlState) (page : Index) : CrawlState :=
  { state with index := state.index.absorb page }

/-- The locations that were fetched, in order. -/
def fetched (state : CrawlState) : List Url :=
  (state.trace.filter fun entry => entry.2 = .fetching).map (·.1)

theorem fetched_note_fetching (state : CrawlState) (url : Url) :
    (state.note url .fetching).fetched = state.fetched ++ [url] := by
  simp [fetched, note]

theorem fetched_note_of_ne {state : CrawlState} {url : Url} {stage : Stage}
    (h : stage ≠ .fetching) : (state.note url stage).fetched = state.fetched := by
  simp [fetched, note, h]

/-- The outcome so far. -/
def report (state : CrawlState) : CrawlReport :=
  ⟨state.enqueued, state.indexed, state.skipped, state.failed⟩

end CrawlState

end Concordance
