import Concordance.Index.Lookup
import Concordance.Pool.Schedule

/-!
# A shared index

Many threads can add to one index. Each builds an index of its own first, and adds that in one
step.

## Main definitions

* `Index.absorbTask`: the task of adding an index to the shared one
* `Index.absorbAll`: adds indexes as tasks of a crew
-/

namespace Concordance.Index

/-- The task of adding an index to the shared one. -/
def absorbTask (part : Index) : Job Index Index Unit :=
  .modify (·.absorb part)

/-- Adds indexes to one as tasks of a crew. -/
def absorbAll (index : Index) (crew : Crew) (parts : List Index) : Index :=
  (crew.work absorbTask (Pool.eventsFor crew.size parts.length) index (Job.runAll parts)).memory

end Concordance.Index
