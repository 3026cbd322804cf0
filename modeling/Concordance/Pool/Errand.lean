import Concordance.Failure
import Concordance.Pool.Schedule

/-!
# Errands

Errands are tasks that leave a trace: they wait at a gate, write their label to a log, submit more
errands and may panic. They show what a pool does.

## Main definitions

* `Errand`: a task that leaves a trace
* `Errand.job`: what an errand does
* `ErrandPool`: a pool of errands that takes orders one by one
-/

namespace Concordance

/-- How an errand ends. -/
inductive Ending where
  | finishes
  | throwsText
  | throwsOwnText
  | throwsNoText
deriving DecidableEq, Repr, Inhabited

/-- A task that leaves a trace. -/
inductive Errand where
  | task (label : String) (gated : Bool) (ending : Ending) (children : List Errand)
  /-- The errand holds the last handle of the pool and lets go of it. -/
  | letGo
deriving Inhabited

/-- What errands share: a gate that they may have to wait at, and a log. -/
structure Noticeboard where
  gateOpen : Bool
  log : List String
deriving DecidableEq, Repr, Inhabited

/-- A board with one more line in its log. -/
def Noticeboard.write (board : Noticeboard) (line : String) : Noticeboard :=
  { board with log := board.log ++ [line] }

namespace Errand

/-- What an errand does at its end. -/
def conclude (label : String) : Ending → Job Errand Noticeboard Unit
  | .finishes => .finish ()
  | .throwsText => .panic (.text "static boom")
  | .throwsOwnText => .panic (.text ("boom in " ++ label))
  | .throwsNoText => .panic .other

/-- Submits an errand for another one; a refusal is written to the log. -/
def submitFor (label : String) (child : Errand) : Job Errand Noticeboard Unit :=
  .submit child fun accepted =>
    if accepted then .finish ()
    else .modify (·.write (label ++ ": " ++ Failure.poolShutdown.message))

/-- What an errand does. -/
def job : Errand → Job Errand Noticeboard Unit
  | task label gated ending children =>
    let work : Job Errand Noticeboard Unit := do
      Job.modify (·.write label)
      Job.forEach (submitFor label) children
      conclude label ending
    if gated then .await Noticeboard.gateOpen work else work
  | letGo => .shutdown (.joinWorkers (.finish ()))

end Errand

/-- A pool of errands that takes orders one by one. After each order everything happens that can. -/
abbrev ErrandPool := Pool Errand Noticeboard Bool

namespace ErrandPool

/-- A pool of errands with its gate closed. -/
def start (size : Nat) : ErrandPool :=
  (Pool.start size ⟨false, []⟩ []).settle Errand.job Pool.patience

/-- The pool after an order. -/
def obey (pool : ErrandPool) (order : Job Errand Noticeboard Bool) : ErrandPool :=
  ({ pool with clients := [.running order] } : ErrandPool).settle Errand.job Pool.patience

/-- Opens or closes the gate. -/
def setGate (pool : ErrandPool) (isOpen : Bool) : ErrandPool :=
  pool.obey (.atomically (fun board => { board with gateOpen := isOpen }) fun _ => .finish true)

/-- Submits an errand, and says whether it was accepted. -/
def submit (pool : ErrandPool) (errand : Errand) : Bool × ErrandPool :=
  let after := pool.obey (.offer errand)
  ((after.result? 0).getD false, after)

/-- Makes the pool refuse further errands. -/
def shutdown (pool : ErrandPool) : ErrandPool :=
  pool.obey (.shutdown (.finish true))

/-- Opens the gate and waits until no errand is pending. -/
def awaitIdle (pool : ErrandPool) : ErrandPool :=
  (pool.setGate true).obey (.awaitIdle (.finish true))

/-- Opens the gate, waits until no errand is pending, shuts the pool down and waits for its
workers. -/
def joinAll (pool : ErrandPool) : ErrandPool :=
  (pool.setGate true).obey (Job.joinAll.bind fun _ => .finish true)

/-- Opens the gate and lets go of the pool. -/
def letGo (pool : ErrandPool) : ErrandPool :=
  (pool.setGate true).obey (.shutdown (.joinWorkers (.finish true)))

/-- Gives the last handle of the pool to an errand, and says whether that let go of it. -/
def letGoOnWorker (pool : ErrandPool) : Bool × ErrandPool :=
  let (accepted, after) := pool.submit .letGo
  (accepted && after.ended.contains pool.accepted.length, after)

end ErrandPool

end Concordance
