import Concordance.Proofs.Pool.Closing
import Concordance.Proofs.Pool.Shares
import Concordance.Proofs.Pool.Threads
import Concordance.Pool.Schedule

/-!
# Deserted pools

A pool that was shut down before anything was submitted has nothing to do, and never will. Clients that
change nothing themselves find its memory as it was.

## Main definitions

* `Pool.IsDeserted`: a pool that is shut down and has nothing to do

## Main results

* `IsDeserted.moves`: a deserted pool stays so
* `Crew.memory_of_not_isLive`: a crew that was sent home does nothing
-/

namespace Concordance

variable {τ σ α β : Type}

/-- A thread whose changes to the memory are of one kind. -/
def Activity.ChangesOnly (kind : (σ → σ) → Prop) : Activity τ σ α → Prop
  | .running job => job.ChangesOnly kind
  | .notifyOne next | .notifyAll next | .idle next | .joining _ next => next.ChangesOnly kind
  | .done _ | .panicked _ => True

namespace Pool

variable {body : τ → Job τ σ Unit} {pool next mid : Pool τ σ α} {event : Event} {memory : σ}

/-- A pool that is shut down and has nothing to do. -/
structure IsDeserted (memory : σ) (pool : Pool τ σ α) : Prop where
  isShutdown_eq : pool.isShutdown = true
  queue_eq : pool.queue = []
  isRunning_eq : ∀ worker ∈ pool.workers, worker.isRunning = false
  memory_eq : pool.memory = memory
  client : ∀ activity ∈ pool.clients, activity.ChangesOnly (· = id)

/-- A thread that changes nothing leaves the memory as it is. -/
theorem Advance.changesOnly {self wakes : Option Nat} {activity activity' : Activity τ σ β}
    (h : pool.Advance self wakes activity mid activity') (hactivity : activity.ChangesOnly (· = id)) :
    activity'.ChangesOnly (· = id) ∧ mid.memory = pool.memory := by
  cases h with
  | finish | panic => exact ⟨trivial, rfl⟩
  | atomically =>
    obtain ⟨rfl, hnext⟩ := hactivity
    exact ⟨hnext _, rfl⟩
  | accept | refuse => exact ⟨hactivity _, rfl⟩
  | _ => exact ⟨hactivity, rfl⟩

theorem Continues.changesOnly {self : Option Nat} {activity activity' : Activity τ σ β}
    (h : Continues pool next self activity activity') (hactivity : activity.ChangesOnly (· = id)) :
    activity'.ChangesOnly (· = id) := by
  cases h with
  | stays => exact hactivity
  | roused =>
    cases activity with
    | _ => exact hactivity
  | advances hadvance => exact (hadvance.changesOnly hactivity).1

/-- **A deserted pool stays so**, and its memory stays as it was. -/
theorem IsDeserted.moves (hmoves : pool.Moves body event next) (h : pool.IsDeserted memory) :
    next.IsDeserted memory := by
  have hidle : ∀ {i ticket : Nat} {activity : Activity τ σ Unit},
      pool.workers[i]? ≠ some (.running ticket activity) := by
    intro i ticket activity hi
    have hrunning := h.isRunning_eq _ (List.mem_of_getElem? hi)
    cases hrunning
  constructor
  case isShutdown_eq => exact hmoves.isShutdown_mono h.isShutdown_eq
  case queue_eq =>
    -- a pool that is shut down accepts nothing
    have hhistory := hmoves.history
    rw [h.isShutdown_eq] at hhistory
    have hsuffix : next.queue <:+ pool.queue := hhistory.of_isShutdown.2
    rw [h.queue_eq] at hsuffix
    exact List.suffix_nil.mp hsuffix
  case isRunning_eq =>
    intro worker hworker
    cases worker with
    | running ticket activity =>
      obtain ⟨i, hi⟩ := List.mem_iff_getElem?.mp hworker
      rcases hmoves.task_continues hi with ⟨before, hbefore, -⟩ | ⟨task, queue, -, hqueue, -⟩
      · exact absurd hbefore hidle
      · rw [h.queue_eq] at hqueue
        cases hqueue
    | _ => rfl
  case memory_eq =>
    rw [← h.memory_eq]
    cases hmoves with
    | client hi hadvance =>
      exact (hadvance.changesOnly (h.client _ (List.mem_of_getElem? hi))).2
    | task hi | done hi | panicked hi => exact absurd hi hidle
    | _ => rfl
  case client =>
    intro activity hactivity
    obtain ⟨i, hi⟩ := List.mem_iff_getElem?.mp hactivity
    obtain ⟨before, hbefore, hcontinues⟩ := hmoves.client_continues hi
    exact hcontinues.changesOnly (h.client before (List.mem_of_getElem? hbefore))

end Pool

namespace Crew

/-- **A crew that was sent home does nothing.** -/
theorem memory_of_not_isLive {crew : Crew} (hlive : crew.isLive = false) (body : τ → Job τ σ Unit)
    (limit : Nat) (memory : σ) {client : Job τ σ α} (hclient : client.ChangesOnly (· = id)) :
    (crew.work body limit memory client).memory = memory := by
  have hstart : (Pool.startClosed crew.size memory [client]).IsReady memory [client] :=
    Pool.isReady_startClosed crew.size memory [client]
  have hdeserted : (Pool.startClosed crew.size memory [client]).IsDeserted memory := by
    refine ⟨rfl, hstart.queue_eq, hstart.isRunning_eq, hstart.memory_eq, ?_⟩
    intro activity hactivity
    rw [hstart.clients_eq] at hactivity
    rw [List.mem_singleton.mp hactivity]
    exact hclient
  obtain ⟨events, hevents⟩ := crew.exists_run_work body limit memory client
  rw [pool, hlive, if_neg Bool.false_ne_true] at hevents
  have hreached : Pool.Reached (· = body) _ _ _ := .of_run (by rfl) hevents
  have hend := hreached.invariant (p := fun pool _ => pool.IsDeserted memory) hdeserted
    fun _ hmoves hdeserted => hdeserted.moves hmoves
  exact hend.memory_eq

end Crew

end Concordance
