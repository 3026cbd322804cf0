import Concordance.Pool.Step

/-!
# Schedules

To run a pool one has to choose among the events that can happen. A schedule lays the choices down
for as long as it goes. After that clients go first, then workers by their number, and a signal
wakes the first worker that sleeps; no thread wakes for no reason.

## Main definitions

* `Pool.follow`: the pool after the events of a schedule
* `Pool.settle`: the pool when nothing can happen any more
* `Crew`: the workers that a job is given
* `Crew.work`: what a job comes to with a crew
-/

namespace Concordance

variable {τ σ α : Type}

namespace Pool

/-- The pool after the events of a schedule, where an event that cannot happen is left out. -/
def follow (body : τ → Job τ σ Unit) (pool : Pool τ σ α) (schedule : List Event) : Pool τ σ α :=
  schedule.foldl (fun pool event => (pool.step body event).getD pool) pool

/-- The first worker that sleeps. -/
def firstAsleep (pool : Pool τ σ α) : Option Nat :=
  (List.range pool.size).find? pool.isAsleep

/-- The pool after its next event, if any event can happen. -/
def next? (body : τ → Job τ σ Unit) (pool : Pool τ σ α) : Option (Pool τ σ α) :=
  let wakes := pool.firstAsleep
  let ofClients := (List.range pool.clients.length).findSome? fun i => pool.stepClient i wakes
  match ofClients with
  | some pool => some pool
  | none => (List.range pool.size).findSome? fun i => pool.stepWorker body i wakes

/-- The pool when nothing can happen any more, or after so many events. -/
def settle (body : τ → Job τ σ Unit) (pool : Pool τ σ α) : Nat → Pool τ σ α
  | 0 => pool
  | limit + 1 =>
    match pool.next? body with
    | some pool => settle body pool limit
    | none => pool

/-! ### A schedule is a run -/

theorem exists_step_of_next? {body : τ → Job τ σ Unit} {pool next : Pool τ σ α}
    (h : pool.next? body = some next) : ∃ event, pool.step body event = some next := by
  unfold next? at h
  dsimp only at h
  split at h
  · next found =>
    obtain ⟨i, -, hi⟩ := List.exists_of_findSome?_eq_some found
    cases h
    exact ⟨.client i pool.firstAsleep, hi⟩
  · obtain ⟨i, -, hi⟩ := List.exists_of_findSome?_eq_some h
    exact ⟨.worker i pool.firstAsleep, hi⟩

theorem exists_run_follow (body : τ → Job τ σ Unit) (pool : Pool τ σ α) (schedule : List Event) :
    ∃ events, pool.run body events = some (pool.follow body schedule) := by
  induction schedule generalizing pool with
  | nil => exact ⟨[], rfl⟩
  | cons event rest ih =>
    unfold follow
    rw [List.foldl_cons]
    cases hstep : pool.step body event with
    | none => exact ih pool
    | some next =>
      obtain ⟨events, hevents⟩ := ih next
      exact ⟨event :: events, by rw [run, hstep]; exact hevents⟩

/-- What a pool settles to, it comes to by a run. -/
theorem exists_run_settle (body : τ → Job τ σ Unit) (pool : Pool τ σ α) (limit : Nat) :
    ∃ events, pool.run body events = some (pool.settle body limit) := by
  induction limit generalizing pool with
  | zero => exact ⟨[], rfl⟩
  | succ limit ih =>
    unfold settle
    split
    · next next hnext =>
      obtain ⟨event, hstep⟩ := exists_step_of_next? hnext
      obtain ⟨events, hevents⟩ := ih next
      exact ⟨event :: events, by rw [run, hstep]; exact hevents⟩
    · exact ⟨[], rfl⟩

/-- More events than a pool takes for tasks of a few steps each that submit no others. -/
def eventsFor (size tasks : Nat) : Nat :=
  32 * (size + tasks + 1)

/-- More events than any pool takes in a lifetime. -/
def patience : Nat := 0x4000000000000000

end Pool

/-- The workers that a job is given: how many they are, whether they were not sent home before, and
in which order the threads take their turns. -/
structure Crew where
  size : Nat
  isLive : Bool
  schedule : List Event
deriving DecidableEq, Repr

namespace Crew

/-- Workers who are there, and take their turns as nothing else is laid down. -/
def ofSize (size : Nat) : Crew :=
  ⟨size, true, []⟩

/-- The pool of a crew as a client finds it. -/
def pool (crew : Crew) (memory : σ) (client : Job τ σ α) : Pool τ σ α :=
  if crew.isLive then .start crew.size memory [client] else .startClosed crew.size memory [client]

/-- The pool of a crew when its client's job and all tasks are done, or after so many events past
the schedule. -/
def work (crew : Crew) (body : τ → Job τ σ Unit) (limit : Nat) (memory : σ) (client : Job τ σ α) :
    Pool τ σ α :=
  ((crew.pool memory client).follow body crew.schedule).settle body limit

/-- What a job comes to with a crew, it comes to by a run of the crew's pool. -/
theorem exists_run_work (crew : Crew) (body : τ → Job τ σ Unit) (limit : Nat) (memory : σ)
    (client : Job τ σ α) :
    ∃ events, (crew.pool memory client).run body events = some (crew.work body limit memory client) := by
  obtain ⟨first, hfirst⟩ := Pool.exists_run_follow body (crew.pool memory client) crew.schedule
  obtain ⟨rest, hrest⟩ := Pool.exists_run_settle body
    ((crew.pool memory client).follow body crew.schedule) limit
  exact ⟨first ++ rest, by rw [Pool.run_append, hfirst]; exact hrest⟩

end Crew

end Concordance
