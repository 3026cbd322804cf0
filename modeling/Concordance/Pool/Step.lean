import Concordance.Pool.Basic

/-!
# Steps of a pool

A run of a pool is a sequence of events. An event names the thread that makes its next step, and if
that step wakes one of several sleeping workers, the worker that wakes; a sleeping thread may also
wake for no reason. Whatever holds after every sequence of events holds for every way in which the
threads can be scheduled.

## Main definitions

* `Event`: what can happen next
* `Pool.step`: the pool after an event, if the event can happen
* `Pool.run`: the pool after a sequence of events
-/

namespace Concordance

variable {τ σ α β : Type}

/-- What can happen next. `wakes` is the sleeping worker that is woken, if the step wakes one. -/
inductive Event where
  | client (i : Nat) (wakes : Option Nat)
  | worker (i : Nat) (wakes : Option Nat)
  /-- A worker wakes for no reason. -/
  | rouseWorker (i : Nat)
  /-- A client that waits for the pool to be idle wakes for no reason. -/
  | rouseClient (i : Nat)
  /-- A task that waits for the pool to be idle wakes for no reason. -/
  | rouseTask (i : Nat)
deriving DecidableEq, Repr

/-- A worker after all sleeping workers were woken. -/
def Worker.woken : Worker τ σ → Worker τ σ
  | .asleep => .looking
  | worker => worker

/-- A thread after all threads were woken that wait for the pool to be idle. It looks at the count
again. -/
def Activity.roused : Activity τ σ α → Activity τ σ α
  | .idle next => .running (.awaitIdle next)
  | activity => activity

/-- A worker after all threads were woken that wait for the pool to be idle. -/
def Worker.roused : Worker τ σ → Worker τ σ
  | .running ticket activity => .running ticket activity.roused
  | worker => worker

namespace Pool

/-- A pool with a task added at the end of its queue. -/
def enqueue (pool : Pool τ σ α) (task : τ) : Pool τ σ α :=
  { pool with
    queue := pool.queue ++ [(pool.accepted.length, task)]
    pending := pool.pending + 1
    accepted := pool.accepted ++ [task] }

/-- A pool with one sleeping worker woken. A signal that finds no worker asleep is lost. -/
def wakeOne (pool : Pool τ σ α) (wakes : Option Nat) : Option (Pool τ σ α) :=
  match wakes with
  | some i => if pool.isAsleep i then some { pool with workers := pool.workers.set i .looking } else none
  | none => if (List.range pool.size).any pool.isAsleep then none else some pool

/-- A pool with all sleeping workers woken. -/
def wakeAll (pool : Pool τ σ α) : Pool τ σ α :=
  { pool with workers := pool.workers.map .woken }

/-- One step of a thread. `self` is the worker that the thread is, if it is one. -/
def advance (pool : Pool τ σ α) (self wakes : Option Nat) :
    Activity τ σ β → Option (Pool τ σ α × Activity τ σ β)
  | .running (.finish value) => some (pool, .done value)
  | .running (.panic payload) => some (pool, .panicked payload)
  | .running (.atomically change next) =>
    some ({ pool with memory := change pool.memory }, .running (next pool.memory))
  | .running (.await ready next) => if ready pool.memory then some (pool, .running next) else none
  | .running (.submit task next) =>
    if pool.isShutdown then some (pool, .running (next false))
    else some (pool.enqueue task, .notifyOne (next true))
  | .running (.awaitIdle next) =>
    if pool.pending = 0 then some (pool, .running next) else some (pool, .idle next)
  | .running (.shutdown next) => some ({ pool with isShutdown := true }, .notifyAll next)
  -- Whoever asks first takes the handles along; nobody else waits for these workers.
  | .running (.joinWorkers next) => some ({ pool with handles := [] }, .joining pool.handles next)
  | .notifyOne next => (pool.wakeOne wakes).map fun pool => (pool, .running next)
  | .notifyAll next => some (pool.wakeAll, .running next)
  | .joining [] next => some (pool, .running next)
  | .joining (worker :: rest) next =>
    -- A worker would wait for itself for ever, so it lets itself out.
    if self = some worker ∨ pool.hasExited worker then some (pool, .joining rest next) else none
  | .idle _ => none
  | .done _ => none
  | .panicked _ => none

/-- A pool after a task ended: if none is left, the threads are woken that wait for that. -/
def endTask (pool : Pool τ σ α) (ticket : Nat) : Pool τ σ α :=
  let ended := { pool with pending := pool.pending - 1, ended := pool.ended ++ [ticket] }
  if ended.pending = 0 then
    { ended with
      workers := ended.workers.map .roused
      clients := ended.clients.map .roused }
  else ended

/-- A pool after a worker looked at the queue. -/
def lookAtQueue (body : τ → Job τ σ Unit) (pool : Pool τ σ α) (i : Nat) : Pool τ σ α :=
  match pool.queue with
  | (ticket, task) :: rest =>
    { pool with
      queue := rest
      workers := pool.workers.set i (.running ticket (.running (body task)))
      started := pool.started ++ [ticket] }
  -- A worker leaves only when nothing waits any more.
  | [] => { pool with workers := pool.workers.set i (if pool.isShutdown then .exited else .asleep) }

/-- One step of a worker. The task of a worker ends when its job is done, and also when it
panicked. -/
def stepWorker (body : τ → Job τ σ Unit) (pool : Pool τ σ α) (i : Nat) (wakes : Option Nat) :
    Option (Pool τ σ α) :=
  match pool.workers[i]? with
  | some .looking => some (pool.lookAtQueue body i)
  | some (.running ticket (.done ())) =>
    some ({ pool with workers := pool.workers.set i .looking }.endTask ticket)
  -- The worker outlives the panic of its task, which is only logged.
  | some (.running ticket (.panicked payload)) =>
    some ({ pool with
      workers := pool.workers.set i .looking
      panics := pool.panics ++ [(i, payload)] }.endTask ticket)
  | some (.running ticket activity) =>
    (pool.advance (some i) wakes activity).map fun (pool, activity) =>
      { pool with workers := pool.workers.set i (.running ticket activity) }
  | _ => none

/-- One step of a client. -/
def stepClient (pool : Pool τ σ α) (i : Nat) (wakes : Option Nat) : Option (Pool τ σ α) := do
  let (pool, activity) ← pool.advance none wakes (← pool.clients[i]?)
  return { pool with clients := pool.clients.set i activity }

/-- The pool after an event, if the event can happen. -/
def step (body : τ → Job τ σ Unit) (pool : Pool τ σ α) : Event → Option (Pool τ σ α)
  | .client i wakes => pool.stepClient i wakes
  | .worker i wakes => pool.stepWorker body i wakes
  | .rouseWorker i =>
    if pool.isAsleep i then some { pool with workers := pool.workers.set i .looking } else none
  | .rouseClient i =>
    match pool.clients[i]? with
    | some (.idle next) =>
      some { pool with clients := pool.clients.set i (.running (.awaitIdle next)) }
    | _ => none
  | .rouseTask i =>
    match pool.workers[i]? with
    | some (.running ticket (.idle next)) =>
      some { pool with workers := pool.workers.set i (.running ticket (.running (.awaitIdle next))) }
    | _ => none

/-- The pool after a sequence of events, if they can happen one after the other. -/
def run (body : τ → Job τ σ Unit) (pool : Pool τ σ α) : List Event → Option (Pool τ σ α)
  | [] => some pool
  | event :: rest => (pool.step body event).bind fun pool => pool.run body rest

theorem run_append (body : τ → Job τ σ Unit) (pool : Pool τ σ α) (events more : List Event) :
    pool.run body (events ++ more) = (pool.run body events).bind fun pool => pool.run body more := by
  induction events generalizing pool with
  | nil => rfl
  | cons event rest ih =>
    simp only [List.cons_append, run, Option.bind_assoc]
    exact congrArg _ (funext ih)

end Pool

end Concordance
