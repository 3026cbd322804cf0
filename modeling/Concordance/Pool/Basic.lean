import Concordance.Pool.Job

/-!
# A pool of workers

A pool has a queue of tasks and a fixed number of workers that run them. It counts the tasks that
were accepted and have not ended. Besides the workers there are clients: threads outside the pool
that use it.

The queue and the flag of a shutdown are behind one lock, and the count behind another. A step of
a thread is what it does under one lock, or one signal to sleeping threads; so a thread that has
changed the queue still owes its signal, and others may come in between.

## Main definitions

* `Activity`: how far a thread has come with its job
* `Worker`: what a worker is doing
* `Pool`: a pool with its memory, its threads and its history
* `Pool.start`: a pool that starts up
-/

namespace Concordance

variable {τ σ α : Type}

/-- How far a thread has come with its job. -/
inductive Activity (τ σ α : Type) where
  | running (job : Job τ σ α)
  /-- It has queued a task, and has to wake a worker. -/
  | notifyOne (next : Job τ σ α)
  /-- It has shut the pool down, and has to wake all workers. -/
  | notifyAll (next : Job τ σ α)
  /-- It sleeps until no task is pending. -/
  | idle (next : Job τ σ α)
  /-- It waits for workers to exit, one after the other. -/
  | joining (handles : List Nat) (next : Job τ σ α)
  | done (value : α)
  | panicked (payload : Payload)

/-- What a worker is doing. -/
inductive Worker (τ σ : Type) where
  /-- It is about to look at the queue. -/
  | looking
  /-- It sleeps until it is woken. -/
  | asleep
  /-- It runs the task with this ticket. -/
  | running (ticket : Nat) (activity : Activity τ σ Unit)
  | exited

/-- A pool, its memory, its threads and its history. Tasks have tickets, numbered as they are
accepted. -/
structure Pool (τ σ α : Type) where
  /-- What the jobs share. -/
  memory : σ
  /-- The tasks that wait for a worker, with their tickets. -/
  queue : List (Nat × τ)
  /-- Whether tasks are refused. -/
  isShutdown : Bool
  /-- How many tasks were accepted and have not ended. -/
  pending : Nat
  /-- The workers that nobody has waited for. -/
  handles : List Nat
  workers : List (Worker τ σ)
  clients : List (Activity τ σ α)
  /-- The accepted tasks, in order; the ticket of a task is its place here. -/
  accepted : List τ
  /-- The tickets of the tasks that were started, in order. -/
  started : List Nat
  /-- The tickets of the tasks that ended, in order. -/
  ended : List Nat
  /-- The panics of tasks, each with its worker, in order. -/
  panics : List (Nat × Payload)

namespace Pool

/-- A pool that starts up, with as many workers as asked for but one at least. -/
def start (size : Nat) (memory : σ) (clients : List (Job τ σ α)) : Pool τ σ α where
  memory := memory
  queue := []
  isShutdown := false
  pending := 0
  handles := List.range (max size 1)
  workers := List.replicate (max size 1) .looking
  clients := clients.map .running
  accepted := []
  started := []
  ended := []
  panics := []

/-- A pool that was shut down before its clients came. -/
def startClosed (size : Nat) (memory : σ) (clients : List (Job τ σ α)) : Pool τ σ α :=
  { start size memory clients with
    isShutdown := true
    handles := []
    workers := List.replicate (max size 1) .exited }

/-- How many workers a pool was asked for, but one at least. -/
def size (pool : Pool τ σ α) : Nat :=
  pool.workers.length

theorem size_start (size : Nat) (memory : σ) (clients : List (Job τ σ α)) :
    (start size memory clients).size = max size 1 := by
  simp [start, Pool.size]

/-- Whether a worker sleeps. -/
def isAsleep (pool : Pool τ σ α) (worker : Nat) : Bool :=
  match pool.workers[worker]? with
  | some .asleep => true
  | _ => false

/-- Whether a worker has exited. -/
def hasExited (pool : Pool τ σ α) (worker : Nat) : Bool :=
  match pool.workers[worker]? with
  | some .exited => true
  | _ => false

/-- The result of a client that is done. -/
def result? (pool : Pool τ σ α) (client : Nat) : Option α :=
  match pool.clients[client]? with
  | some (.done value) => some value
  | _ => none

/-- The size of a pool and its pending tasks in words. -/
def describe (pool : Pool τ σ α) : String :=
  "WorkPool \x7b size: " ++ toString pool.size ++ ", pending: " ++ toString pool.pending ++ " \x7d"

end Pool

end Concordance
