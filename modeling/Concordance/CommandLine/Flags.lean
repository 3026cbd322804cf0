import Concordance.Config
import Concordance.Failure

/-!
# Flags

Every step of a run is asked for by a flag, and a run without flags does nothing.

## Main definitions

* `Flags`: the flags of a command line
* `Flags.config`: the settings that they ask for
-/

namespace Concordance

/-- The flags of a command line. -/
structure Flags where
  /-- A text file or a folder of text files to index. -/
  text : Option String := none
  /-- The seed of a crawl. -/
  html : Option String := none
  /-- The most pages of a crawl. -/
  crawl : Option Nat := none
  /-- The number of workers. -/
  threads : Option Nat := none
  /-- A file of queries. -/
  query : Option String := none
  /-- Whether terms match by their beginnings. -/
  partialMatches : Bool := false
  /-- Where to write the counts. -/
  counts : Option String := none
  /-- Where to write the index. -/
  index : Option String := none
  /-- Where to write the results of the queries. -/
  results : Option String := none
deriving DecidableEq, Repr, Inhabited

/-- The settings that flags ask for. A crawl needs a seed and workers. -/
def Flags.config (flags : Flags) : Except Failure Config :=
  if flags.crawl.isSome ∧ flags.html.isNone then .error (.config "--crawl needs a seed from --html")
  else
    let config : Config :=
      { threads := flags.threads
        crawlCap := flags.crawl.getD defaultCrawlCap
        mode := .ofPartialFlag flags.partialMatches }
    .ok (if flags.html.isSome then config.requireThreads else config).validate

end Concordance
