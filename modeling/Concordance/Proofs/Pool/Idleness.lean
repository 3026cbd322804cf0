import Concordance.Pool.Errand
import Concordance.Proofs.Pool.History
import Concordance.Proofs.Pool.Return
import Concordance.Proofs.Pool.Threads

/-!
# Idle pools

The count of pending tasks is the number of tasks that wait, and of those that were started and have not
ended. It goes down by one when a task ends, be it that the task returned or that it panicked. So a
thread that waits for the pool to be idle goes on only at a moment when every task has ended that was
accepted until then, whoever submitted it.

## Main definitions

* `Pool.AllEnded`: every task that was accepted has ended
* `Activity.AwaitsIdle`: a thread waits for the pool to be idle
* `Pool.IsTracked`: what the count of pending tasks tells

## Main results

* `allEnded_of_pending_eq_zero`: when nothing is pending, all tasks have ended
* `isTracked_of_reached`: the count tells the truth in all that is reached
-/

namespace Concordance

variable {τ σ α β : Type}

/-- A thread waits for the pool to be idle before it goes on with a job. -/
def Activity.AwaitsIdle (job : Job τ σ α) (activity : Activity τ σ α) : Prop :=
  activity = .running (.awaitIdle job) ∨ activity = .idle job

theorem Activity.AwaitsIdle.roused {job : Job τ σ α} {activity : Activity τ σ α}
    (h : activity.AwaitsIdle job) : activity.roused.AwaitsIdle job := by
  rcases h with rfl | rfl
  · exact .inl rfl
  · exact .inl rfl

namespace Pool

/-- Every task that was accepted has ended: none waits, and none is underway. -/
structure AllEnded (pool : Pool τ σ α) : Prop where
  queue_eq : pool.queue = []
  underway_eq : pool.underway = []
  ended_perm : pool.ended.Perm (List.range pool.accepted.length)

theorem length_underway (pool : Pool τ σ α) :
    pool.underway.length = pool.workers.countP Worker.isRunning := by
  rw [underway, List.length_filterMap_eq_countP]
  congr 1
  funext worker
  cases worker <;> rfl

/-- When nothing is pending, all tasks have ended. -/
theorem allEnded_of_pending_eq_zero {pool : Pool τ σ α} (hcounted : pool.IsCounted)
    (horderly : pool.history.IsOrderly) (hpending : pool.pending = 0) : pool.AllEnded := by
  have hcount := hcounted.pending_eq
  rw [hpending, ← length_underway] at hcount
  have hqueue : pool.queue = [] := List.length_eq_zero_iff.mp (by omega)
  have hunderway : pool.underway = [] := List.length_eq_zero_iff.mp (by omega)
  exact ⟨hqueue, hunderway, horderly.ended_perm hqueue hunderway⟩

/-- A client that has its result has seen that all tasks have ended. -/
theorem Reached.allEnded_of_result {bodies : (τ → Job τ σ Unit) → Prop} {start pool : Pool τ σ α}
    {refused : List τ} {memory : σ} {clients : List (Job τ σ α)} {view : σ → α} {reader : Nat}
    (h : Reached bodies start pool refused) (hstart : start.IsUnused memory clients)
    (hreturning : pool.IsReturning view reader) {value : α} (hresult : pool.result? reader = some value) :
    pool.AllEnded := by
  obtain ⟨-, hpending, -⟩ := hreturning.of_result hresult
  exact allEnded_of_pending_eq_zero (h.isCounted hstart.isCounted) (h.isOrderly hstart) hpending

/-- A thread that waits for the pool to be idle goes on only when nothing is pending. -/
theorem Advance.awaitsIdle {pool mid : Pool τ σ α} {self wakes : Option Nat}
    {activity activity' : Activity τ σ β} (h : pool.Advance self wakes activity mid activity')
    {job : Job τ σ β} (hawaits : activity.AwaitsIdle job) :
    activity'.AwaitsIdle job ∨ activity' = .running job ∧ pool.pending = 0 := by
  rcases hawaits with rfl | rfl
  · cases h with
    | pass hpending => exact .inr ⟨rfl, hpending⟩
    | rest => exact .inl (.inr rfl)
  · cases h

/-- Whatever happens, a thread that waits for the pool to be idle goes on only when nothing is
pending. -/
theorem Continues.awaitsIdle {pool next : Pool τ σ α} {self : Option Nat}
    {activity activity' : Activity τ σ β} (h : Continues pool next self activity activity')
    {job : Job τ σ β} (hawaits : activity.AwaitsIdle job) :
    activity'.AwaitsIdle job ∨ activity' = .running job ∧ pool.pending = 0 := by
  cases h with
  | stays => exact .inl hawaits
  | roused => exact .inl hawaits.roused
  | advances hadvance => exact hadvance.awaitsIdle hawaits

/-! ## What the count tells -/

/-- What the count of pending tasks tells, in a state of a pool. -/
structure IsTracked (pool : Pool τ σ α) : Prop where
  /-- Pending are the tasks that wait, and those that were started and have not ended. -/
  pending_eq : pool.pending =
    pool.queue.length + (pool.started.filter (· ∉ pool.ended)).length
  /-- As long as a worker runs a task, there is something to count down. -/
  pending_pos : ∀ (i ticket : Nat) (activity : Activity τ σ Unit),
    pool.workers[i]? = some (.running ticket activity) → 0 < pool.pending
  /-- A task that is through is counted down, and its worker looks for another one. -/
  counts_down : ∀ (body : τ → Job τ σ Unit) (i ticket : Nat) (wakes : Option Nat)
    (activity : Activity τ σ Unit), pool.workers[i]? = some (.running ticket activity) →
    activity.isThrough = true →
    ∃ next, pool.step body (.worker i wakes) = some next ∧ next.pending + 1 = pool.pending ∧
      next.ended = pool.ended ++ [ticket] ∧ next.workers[i]? = some .looking
  /-- A task that panicked ends like one that returned, but that its panic is logged. -/
  panicked_eq : ∀ (body : τ → Job τ σ Unit) (i ticket : Nat) (wakes : Option Nat)
    (payload : Payload), pool.workers[i]? = some (.running ticket (.panicked payload)) →
    pool.step body (.worker i wakes) =
      (({ pool with workers := pool.workers.set i (.running ticket (.done ())) } : Pool τ σ α).step
        body (.worker i wakes)).map fun next => { next with panics := pool.panics ++ [(i, payload)] }
  /-- A client that waits for the pool to be idle goes on only when all tasks have ended. -/
  client_waits : ∀ (body : τ → Job τ σ Unit) (event : Event) (next : Pool τ σ α) (i : Nat)
    (activity : Activity τ σ α) (job : Job τ σ α), pool.step body event = some next →
    pool.clients[i]? = some activity → activity.AwaitsIdle job →
    ∃ activity', next.clients[i]? = some activity' ∧
      (activity'.AwaitsIdle job ∨ activity' = .running job ∧ pool.AllEnded)
  /-- A task that waits for the pool to be idle waits for itself. -/
  task_waits : ∀ (body : τ → Job τ σ Unit) (event : Event) (next : Pool τ σ α) (i ticket : Nat)
    (activity : Activity τ σ Unit) (job : Job τ σ Unit), pool.step body event = some next →
    pool.workers[i]? = some (.running ticket activity) → activity.AwaitsIdle job →
    ∃ activity', next.workers[i]? = some (.running ticket activity') ∧ activity'.AwaitsIdle job

/-- What is left of a task that ended. -/
theorem endTask_spec {pool mid : Pool τ σ α} {i : Nat} (hlength : i < pool.workers.length)
    (hworkers : mid.workers = pool.workers.set i .looking) (hpending : mid.pending = pool.pending)
    (hended : mid.ended = pool.ended) (hpos : pool.pending ≠ 0) (ticket : Nat) :
    (mid.endTask ticket).pending + 1 = pool.pending ∧
      (mid.endTask ticket).ended = pool.ended ++ [ticket] ∧
      (mid.endTask ticket).workers[i]? = some .looking := by
  have hlooking : mid.workers[i]? = some .looking := by
    rw [hworkers]
    exact List.getElem?_set_self hlength
  refine ⟨?_, ?_, ?_⟩
  · rw [pending_endTask, hpending]
    omega
  · rw [ended_endTask, hended]
  · -- a worker that looks at the queue is woken by nobody
    rcases mid.workers_endTask ticket with heq | heq
    · rw [heq, hlooking]
    · rw [heq, List.getElem?_map, hlooking]
      rfl

theorem exists_counts_down {pool : Pool τ σ α} (hcounted : pool.IsCounted)
    (body : τ → Job τ σ Unit) {i ticket : Nat} (wakes : Option Nat) {activity : Activity τ σ Unit}
    (hi : pool.workers[i]? = some (.running ticket activity)) (hthrough : activity.isThrough = true) :
    ∃ next, pool.step body (.worker i wakes) = some next ∧ next.pending + 1 = pool.pending ∧
      next.ended = pool.ended ++ [ticket] ∧ next.workers[i]? = some .looking := by
  have hlength := (List.getElem?_eq_some_iff.mp hi).1
  have hpos := hcounted.pending_ne_zero hi
  cases activity with
  | done value =>
    refine ⟨_, by rw [step, stepWorker, hi], ?_⟩
    apply endTask_spec hlength _ _ _ hpos ticket
    all_goals rfl
  | panicked payload =>
    refine ⟨_, by rw [step, stepWorker, hi], ?_⟩
    apply endTask_spec hlength _ _ _ hpos ticket
    all_goals rfl
  | _ => cases hthrough

theorem endTask_panics (pool : Pool τ σ α) (ticket : Nat) (panics : List (Nat × Payload)) :
    ({ pool with panics := panics } : Pool τ σ α).endTask ticket =
      { pool.endTask ticket with panics := panics } := by
  unfold endTask
  dsimp only
  split <;> rfl

/-- The panic of a task is logged, and makes no other difference. -/
theorem step_panicked {pool : Pool τ σ α} (body : τ → Job τ σ Unit) {i ticket : Nat}
    (wakes : Option Nat) {payload : Payload}
    (hi : pool.workers[i]? = some (.running ticket (.panicked payload))) :
    pool.step body (.worker i wakes) =
      (({ pool with workers := pool.workers.set i (.running ticket (.done ())) } : Pool τ σ α).step
        body (.worker i wakes)).map
          fun next => { next with panics := pool.panics ++ [(i, payload)] } := by
  have hlength := (List.getElem?_eq_some_iff.mp hi).1
  have hdone : (pool.workers.set i (.running ticket (.done ())))[i]? =
      some (.running ticket (.done ())) := List.getElem?_set_self hlength
  simp only [step, stepWorker, hi, hdone, List.set_set, Option.map_some]
  rw [← endTask_panics]

variable {memory : σ} {clients : List (Job τ σ α)} {start pool : Pool τ σ α}
  {bodies : (τ → Job τ σ Unit) → Prop} {refused : List τ}

/-- **The count of pending tasks tells the truth** in all that is reached, whatever tasks and clients do
and however they are scheduled. -/
theorem isTracked_of_reached (hstart : start.IsUnused memory clients)
    (h : Reached bodies start pool refused) : pool.IsTracked := by
  have hcounted := h.isCounted hstart.isCounted
  have horderly := h.isOrderly hstart
  constructor
  case pending_eq =>
    rw [hcounted.pending_eq, ← length_underway]
    exact congrArg _ horderly.length_underway.symm
  case pending_pos =>
    intro i ticket activity hi
    exact Nat.pos_of_ne_zero (hcounted.pending_ne_zero hi)
  case counts_down =>
    intro body i ticket wakes activity hi hthrough
    exact exists_counts_down hcounted body wakes hi hthrough
  case panicked_eq =>
    intro body i ticket wakes payload hi
    exact step_panicked body wakes hi
  case client_waits =>
    intro body event next i activity job hstep hi hawaits
    rcases (moves_of_step hstep).exists_client_continues hi with ⟨activity', hi', hcontinues⟩
    refine ⟨activity', hi', ?_⟩
    rcases hcontinues.awaitsIdle hawaits with hawaits' | ⟨hgoes, hpending⟩
    · exact .inl hawaits'
    · exact .inr ⟨hgoes, allEnded_of_pending_eq_zero hcounted horderly hpending⟩
  case task_waits =>
    intro body event next i ticket activity job hstep hi hawaits
    have hmoves := moves_of_step hstep
    have hthrough : activity.isThrough = false := by
      rcases hawaits with rfl | rfl <;> rfl
    rcases hmoves.running_or_ended hi with ⟨activity', hi'⟩ | ⟨hended, -⟩
    case inr => rw [hthrough] at hended; cases hended
    refine ⟨activity', hi', ?_⟩
    rcases hmoves.task_continues hi' with ⟨before, hbefore, hcontinues⟩ | ⟨-, -, hlooking, -⟩
    · rw [hi] at hbefore
      cases hbefore
      rcases hcontinues.awaitsIdle hawaits with hawaits' | ⟨-, hpending⟩
      · exact hawaits'
      · -- the task itself is pending
        exact absurd hpending (hcounted.pending_ne_zero hi)
    · rw [hi] at hlooking
      cases hlooking

/-- A task has submitted another one and panicked, while a client waits for both. -/
theorem isTracked_of_nested_panic :
    ∃ (pool : ErrandPool) (events : List Event),
      (Pool.start 2 ⟨true, []⟩ [Job.runAll [.task "parent" false .throwsText
        [.task "child" false .finishes []]]]).run Errand.job events = some pool ∧
      pool.clients[0]? = some (.idle (.finish true)) ∧
      pool.workers[0]? = some (.running 0 (.panicked (.text "static boom"))) ∧
      pool.pending = 2 ∧ pool.IsTracked := by
  let client : Job Errand Noticeboard Bool :=
    Job.runAll [.task "parent" false .throwsText [.task "child" false .finishes []]]
  let start : ErrandPool := Pool.start 2 ⟨true, []⟩ [client]
  rcases exists_run_settle Errand.job start 8 with ⟨events, hevents⟩
  have hreached : Reached (· = Errand.job) start (start.settle Errand.job 8) _ :=
    .of_run (by rfl) hevents
  have htracked := isTracked_of_reached (isUnused_start 2 _ [client]) hreached
  exact ⟨_, events, hevents, rfl, rfl, rfl, htracked⟩

end Pool

end Concordance
