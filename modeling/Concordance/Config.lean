import Concordance.Search.Result

/-!
# Configuration

How much work is done at once, how far a crawl goes, and how terms match.

## Main definitions

* `Config`: the settings
* `Config.validate`: settings with values that make no sense replaced
* `Config.requireThreads`: settings with at least one worker
* `Config.workerCount`: how many workers to start
-/

namespace Concordance

/-- The workers of a multi-threaded run that does not say how many it wants. -/
def defaultThreads : Nat := 5

/-- The pages of a crawl that does not say how many it wants. -/
def defaultCrawlCap : Nat := 1

/-- The redirects followed for one page. -/
def defaultRedirects : Nat := 3

/-- How long to wait for one page, in milliseconds. -/
def defaultTimeout : Nat := 10000

/-- Settings. A run without a number of threads does one thing after the other. -/
structure Config where
  threads : Option Nat := none
  crawlCap : Nat := defaultCrawlCap
  redirects : Nat := defaultRedirects
  timeout : Nat := defaultTimeout
  mode : SearchMode := .exact
deriving DecidableEq, Repr, Inhabited

namespace Config

/-- Settings with a zero replaced by the default, where zero makes no sense. -/
def validate (config : Config) : Config :=
  { config with
    threads := config.threads.map fun n => if n = 0 then defaultThreads else n
    crawlCap := if config.crawlCap = 0 then defaultCrawlCap else config.crawlCap }

theorem validate_validate (config : Config) : config.validate.validate = config.validate := by
  rcases config with ⟨_ | threads, crawlCap, redirects, timeout, mode⟩ <;>
    simp only [validate, Option.map_none, Option.map_some, Config.mk.injEq, Option.some.injEq,
      true_and, and_true]
  · split <;> simp_all [defaultCrawlCap]
  · constructor
    · split <;> simp_all [defaultThreads]
    · split <;> simp_all [defaultCrawlCap]

/-- Settings of a run that needs workers. -/
def requireThreads (config : Config) : Config :=
  { config with threads := some (config.threads.getD defaultThreads) }

/-- Whether a run has workers. -/
def isMultithreaded (config : Config) : Bool :=
  config.threads.isSome

/-- How many workers to start; one at least. -/
def workerCount (config : Config) : Nat :=
  max (config.threads.getD defaultThreads) 1

theorem workerCount_pos (config : Config) : 0 < config.workerCount := by
  unfold workerCount
  omega

theorem isMultithreaded_requireThreads (config : Config) :
    config.requireThreads.isMultithreaded = true := rfl

theorem isMultithreaded_validate (config : Config) :
    config.validate.isMultithreaded = config.isMultithreaded := by
  simp [isMultithreaded, validate]

end Config

end Concordance
