import Concordance.Pool.Errand
import Concordance.Proofs.Pool.Closing
import Concordance.Proofs.Pool.Idleness
import Concordance.Proofs.Pool.Progress
import Concordance.Proofs.Pool.Threads

/-!
# Every accepted task is run once

Workers take tasks from the head of the queue, in the order in which they were accepted, and each of
them once. A task that is refused leaves no trace. A worker keeps its task until the task ends, and
leaves the pool only when it is shut down and nothing waits. So when all workers have left, then every
task that was accepted has been run.

## Main definitions

* `Pool.startedTasks`: the tasks that were started, in order
* `Pool.Executes`: how a pool runs the tasks that it has accepted

## Main results

* `Reached.started_eq_of_size`: a single worker ends one task before it starts the next
* `executes_of_reached`: how the tasks are run in all that is reached
-/

namespace Concordance

variable {τ σ α : Type}

namespace History

variable {history later : History τ} {isShutdown : Bool}

/-- The tasks that were started are the first ones that were accepted. -/
theorem IsOrderly.started_eq (h : history.IsOrderly) :
    history.started = List.range history.started.length := by
  have hprefix : history.started <+: List.range history.accepted.length := by
    rw [← h.started_append]
    exact List.prefix_append _ _
  rw [List.prefix_iff_eq_take.mp hprefix, List.take_range, List.length_range]

/-- While at most one task is underway at a time, each task ends before the next one is started. -/
theorem Next.started_eq (h : history.Next isShutdown later)
    (hbefore : history.underway.length ≤ 1) (hafter : later.underway.length ≤ 1)
    (hstarted : history.started = history.ended ++ history.underway) :
    later.started = later.ended ++ later.underway := by
  cases h with
  | same | accept => exact hstarted
  | @start ticket task queue underway hqueue hunderway =>
    have hlength := hunderway.length_eq
    rw [List.length_cons] at hlength
    dsimp only at hafter ⊢
    -- nothing was underway before
    have hnil : history.underway = [] := List.length_eq_zero_iff.mp (by omega)
    rw [hnil] at hunderway hstarted
    rw [List.perm_singleton.mp hunderway, hstarted, List.append_nil]
  | @finish ticket underway hunderway =>
    have hlength := hunderway.length_eq
    rw [List.length_cons] at hlength
    have hnil : underway = [] := List.length_eq_zero_iff.mp (by omega)
    rw [hnil] at hunderway
    dsimp only
    rw [hstarted, List.perm_singleton.mp hunderway, hnil, List.append_nil]

/-- A single worker has ended all tasks before the one that it runs. -/
theorem IsOrderly.mem_ended_of_lt (h : history.IsOrderly)
    (hserial : history.started = history.ended ++ history.underway) (hone : history.underway.length ≤ 1)
    {ticket earlier : Nat} (hticket : ticket ∈ history.underway) (hlt : earlier < ticket) :
    earlier ∈ history.ended := by
  have hunderway : history.underway = [ticket] := by
    have hpos := List.length_pos_of_mem hticket
    obtain ⟨other, hother⟩ := List.length_eq_one_iff.mp (Nat.le_antisymm hone hpos)
    rw [hother] at hticket ⊢
    rw [List.mem_singleton.mp hticket]
  rw [hunderway] at hserial
  -- so it runs the last one that was started
  have hsplit : history.ended ++ [ticket] = List.range history.ended.length ++ [history.ended.length] := by
    rw [← hserial, ← List.range_succ, h.started_eq, hserial, List.length_append]
    rfl
  obtain ⟨hended, hlast⟩ := List.append_inj' hsplit rfl
  obtain rfl : ticket = history.ended.length := List.singleton_inj.mp hlast
  rw [hended]
  exact List.mem_range.mpr hlt

end History

namespace Pool

/-- The tasks that were started, in order. -/
def startedTasks (pool : Pool τ σ α) : List τ :=
  pool.started.filterMap (pool.accepted[·]?)

theorem length_underway_le (pool : Pool τ σ α) : pool.underway.length ≤ pool.size :=
  List.length_filterMap_le _ _

variable {memory : σ} {clients : List (Job τ σ α)} {start pool : Pool τ σ α}
  {bodies : (τ → Job τ σ Unit) → Prop} {refused : List τ}

/-- **A single worker ends one task before it starts the next.** -/
theorem Reached.started_eq_of_size (h : Reached bodies start pool refused)
    (hstart : start.IsUnused memory clients) (hsize : pool.size = 1) :
    pool.started = pool.ended ++ pool.underway := by
  rw [h.size_eq] at hsize
  refine (h.invariant
    (p := fun pool _ => pool.size = 1 ∧ pool.started = pool.ended ++ pool.underway)
    ⟨hsize, ?_⟩ ?_).2
  · rw [hstart.started_eq, hstart.ended_eq, hstart.underway_eq]
    rfl
  · intro body pool next refused event _ hmoves ⟨hsize, hstarted⟩
    have hnext : next.size = 1 := hmoves.size_eq.trans hsize
    have hbefore := pool.length_underway_le
    have hafter := next.length_underway_le
    rw [hsize] at hbefore
    rw [hnext] at hafter
    exact ⟨hnext, hmoves.history.started_eq hbefore hafter hstarted⟩

theorem Reached.mem_ended_of_lt (h : Reached bodies start pool refused)
    (hstart : start.IsUnused memory clients) (hsize : pool.size = 1) {ticket earlier : Nat}
    (hticket : ticket ∈ pool.underway) (hlt : earlier < ticket) : earlier ∈ pool.ended := by
  have hone : pool.underway.length ≤ 1 := hsize ▸ pool.length_underway_le
  exact (h.isOrderly hstart).mem_ended_of_lt (h.started_eq_of_size hstart hsize) hone hticket hlt

theorem Advance.eq_of_refused {β : Type} {pool mid : Pool τ σ α} {self wakes : Option Nat}
    {activity activity' : Activity τ σ β} (h : pool.Advance self wakes activity mid activity')
    (hoffer : activity.offer? ≠ none) (hshutdown : pool.isShutdown = true) : mid = pool := by
  cases h with
  | accept hopen =>
    rw [hshutdown] at hopen
    cases hopen
  | refuse => rfl
  | _ => exact absurd rfl hoffer

/-- A task that is refused leaves no trace. -/
theorem Moves.history_of_refused {body : τ → Job τ σ Unit} {pool next : Pool τ σ α} {event : Event}
    (h : pool.Moves body event next) (hrefused : pool.refusedBy event ≠ []) :
    next.history = pool.history := by
  have hshutdown : pool.isShutdown = true := by
    by_contra hopen
    exact hrefused (by simp [refusedBy, hopen])
  have hoffer : pool.offer? event ≠ none := by
    intro hnone
    exact hrefused (by simp [refusedBy, hnone])
  cases h with
  | client hi hadvance =>
    rw [offer?, hi] at hoffer
    rw [hadvance.eq_of_refused hoffer hshutdown]
    rfl
  | task hi hadvance =>
    simp only [offer?, hi] at hoffer
    rw [hadvance.eq_of_refused hoffer hshutdown]
    apply history_setWorker hi
    rfl
  | take hi | doze hi | leave hi | done hi | panicked hi =>
    simp [offer?, hi, Activity.offer?] at hoffer
  | rouseWorker | rouseClient | rouseTask => exact absurd rfl hoffer

/-! ## How tasks are run -/

/-- How a pool runs the tasks that it has accepted, in a state of the pool. -/
structure Executes (pool : Pool τ σ α) : Prop where
  /-- Tasks are started in the order in which they were accepted, and none is started twice. -/
  started_eq : pool.started = List.range pool.started.length
  /-- The tasks that were started, and then those that wait, are all that were accepted. -/
  accepted_eq : pool.startedTasks ++ pool.waiting = pool.accepted
  /-- A task that was started is underway until it ends, and it ends once. -/
  started_perm : pool.started.Perm (pool.ended ++ pool.underway)
  /-- A single worker also ends them in this order. -/
  serial : pool.size = 1 → pool.started = pool.ended ++ pool.underway
  /-- A worker runs a task that it ran before, or takes the next one that was accepted. -/
  takes : ∀ (body : τ → Job τ σ Unit) (event : Event) (next : Pool τ σ α) (i ticket : Nat)
    (activity' : Activity τ σ Unit), pool.step body event = some next →
    next.workers[i]? = some (.running ticket activity') →
    (∃ activity, pool.workers[i]? = some (.running ticket activity)) ∨
      pool.workers[i]? = some .looking ∧ ticket = pool.started.length ∧
        ∃ task, pool.accepted[ticket]? = some task ∧ activity' = .running (body task)
  /-- A worker keeps its task until the task has returned or panicked, and has ended. -/
  keeps : ∀ (body : τ → Job τ σ Unit) (event : Event) (next : Pool τ σ α) (i ticket : Nat)
    (activity : Activity τ σ Unit), pool.step body event = some next →
    pool.workers[i]? = some (.running ticket activity) →
    (∃ activity', next.workers[i]? = some (.running ticket activity')) ∨
      activity.isThrough = true ∧ next.ended = pool.ended ++ [ticket]
  /-- A task that is refused is neither queued nor started. -/
  refuses : ∀ (body : τ → Job τ σ Unit) (event : Event) (next : Pool τ σ α),
    pool.step body event = some next → pool.refusedBy event ≠ [] → next.history = pool.history
  /-- Once the pool is shut down, it accepts no task any more. -/
  closed : pool.isShutdown = true → ∀ (bodies : (τ → Job τ σ Unit) → Prop) (later : Pool τ σ α)
    (refused : List τ), Reached bodies pool later refused →
    later.isShutdown = true ∧ later.accepted = pool.accepted
  /-- A worker leaves only if the pool is shut down and nothing waits. -/
  leaves : ∀ (body : τ → Job τ σ Unit) (event : Event) (next : Pool τ σ α),
    pool.step body event = some next → .exited ∈ next.workers →
    .exited ∈ pool.workers ∨ pool.isShutdown = true ∧ pool.queue = []
  /-- When all workers have left, every task that was accepted has been run once. -/
  finished : pool.workers ≠ [] → (∀ worker ∈ pool.workers, worker = .exited) →
    pool.startedTasks = pool.accepted ∧ pool.ended.Perm (List.range pool.accepted.length) ∧
      pool.queue = [] ∧ pool.pending = 0

/-- When all workers have left, nothing waits and nothing is underway. -/
theorem IsVacated.finished {pool : Pool τ σ α} (h : pool.IsVacated) (hcounted : pool.IsCounted)
    (hworkers : pool.workers ≠ []) (hexited : ∀ worker ∈ pool.workers, worker = .exited) :
    pool.queue = [] ∧ pool.underway = [] ∧ pool.pending = 0 := by
  have hqueue : pool.queue = [] := by
    rcases List.exists_mem_of_ne_nil _ hworkers with ⟨worker, hworker⟩
    have heq := hexited worker hworker
    subst heq
    exact (h hworker).2
  have hunderway : pool.underway = [] := by
    rw [underway, List.filterMap_eq_nil_iff]
    intro worker hworker
    rw [hexited worker hworker]
    rfl
  refine ⟨hqueue, hunderway, ?_⟩
  rw [hcounted.pending_eq, ← length_underway, hqueue, hunderway]
  rfl

/-- **Every accepted task is run once, in its turn**, in all that is reached, whatever tasks and clients
do and however they are scheduled. -/
theorem executes_of_reached (hstart : start.IsUnused memory clients)
    (h : Reached bodies start pool refused) : pool.Executes := by
  have hcounted := h.isCounted hstart.isCounted
  have horderly := h.isOrderly hstart
  have hvacated := h.isVacated hstart.isVacated
  constructor
  case started_eq => exact horderly.started_eq
  case accepted_eq => exact horderly.accepted_append
  case started_perm => exact horderly.started_perm
  case serial => exact h.started_eq_of_size hstart
  case takes =>
    intro body event next i ticket activity' hstep hi
    rcases (moves_of_step hstep).task_continues hi with
      ⟨activity, hactivity, -⟩ | ⟨task, queue, hlooking, hqueue, hbody, -⟩
    · exact .inl ⟨activity, hactivity⟩
    · obtain ⟨hticket, haccepted⟩ := horderly.head_eq hqueue
      exact .inr ⟨hlooking, hticket, task, haccepted, hbody⟩
  case keeps =>
    intro body event next i ticket activity hstep hi
    exact (moves_of_step hstep).running_or_ended hi
  case refuses =>
    intro body event next hstep hrefused
    exact (moves_of_step hstep).history_of_refused hrefused
  case closed =>
    intro hshutdown bodies later refused hlater
    exact hlater.accepted_eq hshutdown
  case leaves =>
    intro body event next hstep hexited
    exact (moves_of_step hstep).exited_mem hexited
  case finished =>
    intro hworkers hexited
    obtain ⟨hqueue, hunderway, hpending⟩ := hvacated.finished hcounted hworkers hexited
    have haccepted : pool.startedTasks ++ pool.waiting = pool.accepted := horderly.accepted_append
    rw [waiting, hqueue, List.map_nil, List.append_nil] at haccepted
    exact ⟨haccepted, horderly.ended_perm hqueue hunderway, hqueue, hpending⟩

/-- One worker, a task that panics after it has submitted another, and a task that is refused. -/
theorem executes_of_drained :
    ∃ (pool : ErrandPool) (events : List Event),
      (Pool.start 1 ⟨true, []⟩ [.submit (.task "parent" false .throwsText
        [.task "child" false .finishes []]) fun _ => .submit (.task "second" false .finishes [])
        fun _ => .awaitIdle (.shutdown (.submit (.task "late" false .finishes [])
          fun accepted => .joinWorkers (.finish accepted)))]).run Errand.job events = some pool ∧
      pool.result? 0 = some false ∧ pool.hasExited 0 = true ∧
      pool.memory.log = ["parent", "second", "child"] ∧ pool.ended = [0, 1, 2] ∧
      pool.Executes := by
  let client : Job Errand Noticeboard Bool :=
    .submit (.task "parent" false .throwsText [.task "child" false .finishes []]) fun _ =>
      .submit (.task "second" false .finishes []) fun _ =>
        .awaitIdle (.shutdown (.submit (.task "late" false .finishes [])
          fun accepted => .joinWorkers (.finish accepted)))
  let start : ErrandPool := Pool.start 1 ⟨true, []⟩ [client]
  rcases exists_run_settle Errand.job start 40 with ⟨events, hevents⟩
  have hreached : Reached (· = Errand.job) start (start.settle Errand.job 40) _ :=
    .of_run (by rfl) hevents
  have hresult : (start.settle Errand.job 40).result? 0 = some false := by decide +kernel
  have hexited : (start.settle Errand.job 40).hasExited 0 = true := by decide +kernel
  have hlog : (start.settle Errand.job 40).memory.log = ["parent", "second", "child"] := by
    decide +kernel
  have hended : (start.settle Errand.job 40).ended = [0, 1, 2] := by decide +kernel
  have hexecutes := executes_of_reached (isUnused_start 1 _ [client]) hreached
  exact ⟨_, events, hevents, hresult, hexited, hlog, hended, hexecutes⟩

end Pool

end Concordance
