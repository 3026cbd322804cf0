import Concordance.Pool.Errand
import Concordance.Proofs.Pool.Closing
import Concordance.Proofs.Pool.Wakeup

/-!
# Nobody sleeps through what it waits for

A worker sleeps until something is queued or the pool is shut down, and others sleep until the pool is
idle. A signal may come before anyone sleeps, and is lost then; a busy worker may take the task that a
sleeping one was woken for; threads may wake for no reason. Still a sleeping thread always has something
to wait for, or somebody who is about to wake it.

## Main definitions

* `Pool.announces`: an event wakes all workers of a pool that was shut down
* `Pool.IsWoken`: a pool that is shut down, and where no worker sleeps
* `Pool.IsAlert`: nobody sleeps through what it waits for

## Main results

* `IsWoken.moves`: where all workers were woken after a shutdown, none falls asleep any more
* `isAlert_of_reached`: nobody sleeps through what it waits for in all that is reached
-/

namespace Concordance

variable {τ σ α β : Type}

/-- Whether a thread has shut the pool down, and has not woken the workers. -/
def Activity.isClosing : Activity τ σ α → Bool
  | .notifyAll _ => true
  | _ => false

theorem Activity.isClosing_roused (activity : Activity τ σ α) :
    activity.roused.isClosing = activity.isClosing := by
  cases activity <;> rfl

namespace Pool

/-- Whether an event wakes all workers, as a thread does that has shut the pool down. -/
def announces (pool : Pool τ σ α) : Event → Bool
  | .client i _ => pool.clients[i]?.any Activity.isClosing
  | .worker i _ =>
    match pool.workers[i]? with
    | some (.running _ activity) => activity.isClosing
    | _ => false
  | _ => false

variable {body : τ → Job τ σ Unit} {pool next mid : Pool τ σ α} {event : Event}

/-! ## Threads that have shut the pool down -/

/-- A thread is about to wake all workers only if the pool is shut down. -/
def IsHeralded (pool : Pool τ σ α) : Prop :=
  pool.Each fun _ activity => activity.isClosing = true → pool.isShutdown = true

/-- A thread comes to wake all workers only by shutting the pool down. -/
theorem Advance.isShutdown_of_isClosing {self wakes : Option Nat} {activity activity' : Activity τ σ β}
    (h : pool.Advance self wakes activity mid activity') (hclosing : activity'.isClosing = true) :
    mid.isShutdown = true := by
  cases h with
  | shutdown => rfl
  | _ => cases hclosing

theorem IsHeralded.moves (hmoves : pool.Moves body event next) (h : pool.IsHeralded) :
    next.IsHeralded := by
  -- a pool that was shut down before the event is shut down after it
  have hstill : pool.Each fun _ activity => activity.isClosing = true → next.isShutdown = true := by
    constructor
    · intro activity hactivity hclosing
      exact hmoves.isShutdown_mono (h.client activity hactivity hclosing)
    · intro ticket activity hactivity hclosing
      exact hmoves.isShutdown_mono (h.task ticket activity hactivity hclosing)
  refine hstill.moves_of_advance hmoves ?_ ?_ ?_
  · intro β mid self wakes activity activity' hadvance hmid _ hclosing
    rw [← hmid]
    exact hadvance.isShutdown_of_isClosing hclosing
  · intro β activity hactivity hclosing
    rw [activity.isClosing_roused] at hclosing
    exact hactivity hclosing
  · intro task hclosing
    cases hclosing

/-! ## Pools where all workers were woken -/

theorem asleep_mem_endTask {ticket : Nat} (hasleep : .asleep ∈ (pool.endTask ticket).workers) :
    .asleep ∈ pool.workers := by
  rcases pool.workers_endTask ticket with hworkers | hworkers
  · rwa [hworkers] at hasleep
  · rw [hworkers] at hasleep
    obtain ⟨worker, hworker, hroused⟩ := List.mem_map.mp hasleep
    cases worker with
    | asleep => exact hworker
    | _ => cases hroused

/-- A worker falls asleep only in a pool that is not shut down. -/
theorem Moves.asleep_mem (h : pool.Moves body event next) (hasleep : .asleep ∈ next.workers) :
    .asleep ∈ pool.workers ∨ pool.isShutdown = false := by
  -- whoever does something else than to sleep is not asleep
  have hset : ∀ {workers : List (Worker τ σ)} {i : Nat} {worker : Worker τ σ},
      .asleep ∈ workers.set i worker → worker ≠ .asleep → .asleep ∈ workers := by
    intro workers i worker hmem hne
    rcases List.mem_or_eq_of_mem_set hmem with hmem | heq
    · exact hmem
    · exact absurd heq.symm hne
  cases h with
  | client hi hadvance => exact .inl (hadvance.asleep_mem hasleep)
  | task hi hadvance => exact .inl (hadvance.asleep_mem (hset hasleep (by simp)))
  | doze hi hqueue hopen => exact .inr hopen
  | done | panicked => exact .inl (hset (asleep_mem_endTask hasleep) (by simp))
  | rouseClient => exact .inl hasleep
  | take | leave | rouseWorker | rouseTask => exact .inl (hset hasleep (by simp))

/-- A pool that is shut down, and where no worker sleeps. -/
structure IsWoken (pool : Pool τ σ α) : Prop where
  isShutdown_eq : pool.isShutdown = true
  not_asleep : .asleep ∉ pool.workers

/-- **Where all workers were woken after a shutdown, none falls asleep any more.** -/
theorem IsWoken.moves (hmoves : pool.Moves body event next) (h : pool.IsWoken) : next.IsWoken where
  isShutdown_eq := hmoves.isShutdown_mono h.isShutdown_eq
  not_asleep hasleep := by
    rcases hmoves.asleep_mem hasleep with hbefore | hopen
    · exact h.not_asleep hbefore
    · rw [h.isShutdown_eq] at hopen
      cases hopen

/-- A thread that has shut the pool down wakes all workers in its next step. -/
theorem Advance.not_asleep {self wakes : Option Nat} {activity activity' : Activity τ σ β}
    (h : pool.Advance self wakes activity mid activity') (hclosing : activity.isClosing = true) :
    .asleep ∉ mid.workers := by
  cases h with
  | wakeAll =>
    intro hasleep
    obtain ⟨worker, -, hwoken⟩ := List.mem_map.mp hasleep
    cases worker <;> cases hwoken
  | _ => cases hclosing

/-- After the event by which a thread wakes all workers, all are awake. -/
theorem IsHeralded.isWoken (h : pool.IsHeralded) (hmoves : pool.Moves body event next)
    (hannounces : pool.announces event = true) : next.IsWoken := by
  have hmoved := hmoves
  cases hmoves with
  | client hi hadvance =>
    rw [announces, hi] at hannounces
    have hshutdown := h.client _ (List.mem_of_getElem? hi) hannounces
    exact ⟨hmoved.isShutdown_mono hshutdown, hadvance.not_asleep hannounces⟩
  | task hi hadvance =>
    simp only [announces, hi] at hannounces
    have hshutdown := h.task _ _ (List.mem_of_getElem? hi) hannounces
    refine ⟨hmoved.isShutdown_mono hshutdown, fun hasleep => ?_⟩
    rcases List.mem_or_eq_of_mem_set hasleep with hasleep | heq
    · exact hadvance.not_asleep hannounces hasleep
    · cases heq
  | take hi | doze hi | leave hi => simp [announces, hi] at hannounces
  | done hi | panicked hi => simp [announces, hi, Activity.isClosing] at hannounces
  | rouseWorker | rouseClient | rouseTask => cases hannounces

/-! ## What can be reached -/

/-- Nobody sleeps through what it waits for, in a state of a pool. -/
structure IsAlert (pool : Pool τ σ α) : Prop where
  /-- While a worker sleeps, each task that waits is matched by a thread that has queued one and has not
  given its signal, or by a worker that is awake and runs nothing. -/
  queue_le : .asleep ∈ pool.workers →
    pool.queue.length ≤ pool.owed + pool.workers.countP Worker.isLooking
  /-- Once somebody has shut the pool down and woken all workers, none is asleep, then or later. -/
  awake : ∀ (body : τ → Job τ σ Unit) (event : Event) (next : Pool τ σ α),
    pool.step body event = some next → pool.announces event = true →
    ∀ (bodies : (τ → Job τ σ Unit) → Prop) (later : Pool τ σ α) (refused : List τ),
      Reached bodies next later refused → .asleep ∉ later.workers
  /-- Whoever sleeps until the pool is idle, waits for a task that is pending. -/
  client_waits : ∀ (i : Nat) (job : Job τ σ α),
    pool.clients[i]? = some (.idle job) → 0 < pool.pending
  task_waits : ∀ (i ticket : Nat) (job : Job τ σ Unit),
    pool.workers[i]? = some (.running ticket (.idle job)) → 0 < pool.pending
  /-- Nothing waits while all workers sleep and no signal is owed. -/
  queue_eq : pool.workers ≠ [] → (∀ worker ∈ pool.workers, worker = .asleep) → pool.owed = 0 →
    pool.queue = []

variable {memory : σ} {clients : List (Job τ σ α)} {start : Pool τ σ α}
  {bodies : (τ → Job τ σ Unit) → Prop} {refused : List τ}

theorem Reached.isHeralded (hstart : start.IsReady memory clients)
    (h : Reached bodies start pool refused) : pool.IsHeralded := by
  refine h.invariant (p := fun pool _ => pool.IsHeralded) ?_
    fun _ hmoves hheralded => hheralded.moves hmoves
  exact hstart.each fun _ _ hclosing => by cases hclosing

theorem Reached.isWoken (h : Reached bodies start pool refused) (hstart : start.IsWoken) :
    pool.IsWoken :=
  h.invariant (p := fun pool _ => pool.IsWoken) hstart fun _ hmoves hwoken => hwoken.moves hmoves

/-- **Nobody sleeps through what it waits for** in all that is reached, whatever tasks and clients do and
however they are scheduled. -/
theorem isAlert_of_reached (hstart : start.IsReady memory clients)
    (h : Reached bodies start pool refused) : pool.IsAlert := by
  have hcounted := h.isCounted hstart.isCounted
  have hattended := h.isAttended hstart.isAttended
  have hheralded := h.isHeralded hstart
  constructor
  case queue_le => exact hattended
  case awake =>
    intro body event next hstep hannounces bodies later refused hlater
    have hwoken := hheralded.isWoken (moves_of_step hstep) hannounces
    exact (hlater.isWoken hwoken).not_asleep
  case client_waits =>
    intro i job hi
    exact Nat.pos_of_ne_zero (hcounted.client _ (List.mem_of_getElem? hi) rfl)
  case task_waits =>
    intro i ticket job hi
    exact Nat.pos_of_ne_zero (hcounted.worker _ (List.mem_of_getElem? hi) rfl)
  case queue_eq => exact hattended.queue_eq

/-- Both workers sleep while a client has queued a task and has not given its signal, another one sleeps
until the pool is idle, and a third one has shut the pool down and is about to wake the workers. -/
theorem isAlert_of_all_asleep :
    ∃ (pool : ErrandPool) (events : List Event),
      (Pool.start 2 ⟨true, []⟩ [.offer (.task "errand" false .finishes []),
        .awaitIdle (.finish true), .shutdown (.finish true)]).run Errand.job events = some pool ∧
      pool.workers = [.asleep, .asleep] ∧ pool.queue.length = 1 ∧ pool.owed = 1 ∧
      pool.clients[1]? = some (.idle (.finish true)) ∧
      pool.announces (.client 2 none) = true ∧ pool.IsAlert := by
  let clients : List (Job Errand Noticeboard Bool) :=
    [.offer (.task "errand" false .finishes []), .awaitIdle (.finish true), .shutdown (.finish true)]
  let start : ErrandPool := Pool.start 2 ⟨true, []⟩ clients
  let events : List Event :=
    [.worker 0 none, .worker 1 none, .client 0 none, .client 1 none, .client 2 none]
  obtain ⟨pool, hpool⟩ : ∃ pool, start.run Errand.job events = some pool := ⟨_, rfl⟩
  have hreached : Reached (· = Errand.job) start pool _ := .of_run (by rfl) hpool
  have halert := isAlert_of_reached (isReady_start 2 _ clients) hreached
  refine ⟨pool, events, hpool, ?_⟩
  cases hpool
  exact ⟨rfl, rfl, rfl, rfl, rfl, halert⟩

end Pool

end Concordance
