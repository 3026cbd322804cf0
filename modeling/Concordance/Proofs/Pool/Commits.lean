import Concordance.Proofs.Pool.Deserted
import Concordance.Proofs.Pool.Growth
import Concordance.Proofs.Pool.Idleness

/-!
# Which tasks have made their change

Where each task changes the memory in one step and clients change nothing, the memory is at every moment
as some tasks have left it, one after the other: those that have ended, and those that have made their
change and are about to end. An event makes one such change, or leaves the memory as it is.

## Main definitions

* `Pool.committed`: the tickets of the tasks that have made their change
* `Pool.IsCommitting`: a pool whose tasks make one change each
* `Pool.IsOutcome`: the memory is what these changes come to

## Main results

* `Moves.commits`: an event makes the change of one task, or changes nothing
* `Reached.isOutcome`: the memory is as the tasks have left it that have made their change
-/

namespace Concordance

variable {τ σ α β γ : Type}

/-- How far a task has come that makes one change. -/
inductive Activity.Commits (change : σ → σ) : Activity τ σ Unit → Prop
  | pending : Commits change (.running (.atomically change fun _ => .finish ()))
  | finishing : Commits change (.running (.finish ()))
  | done : Commits change (.done ())

/-- The ticket of a task that has made its change, and has not ended. -/
def Worker.committed? : Worker τ σ → Option Nat
  | .running _ (.running (.atomically _ _)) => none
  | .running ticket _ => some ticket
  | _ => none

theorem Worker.committed?_woken (worker : Worker τ σ) :
    worker.woken.committed? = worker.committed? := by
  cases worker <;> rfl

theorem Worker.committed?_roused (worker : Worker τ σ) :
    worker.roused.committed? = worker.committed? := by
  cases worker with
  | running ticket activity => cases activity <;> rfl
  | _ => rfl

/-- What is chosen from a list less often is chosen from it in the same order. -/
theorem sublist_filterMap {f g : β → Option γ} (h : ∀ b c, f b = some c → g b = some c) (l : List β) :
    (l.filterMap f).Sublist (l.filterMap g) := by
  induction l with
  | nil => exact .slnil
  | cons b l ih =>
    rw [List.filterMap_cons, List.filterMap_cons]
    cases hf : f b with
    | some c =>
      rw [h b c hf]
      exact ih.cons_cons c
    | none =>
      cases g b with
      | none => exact ih
      | some c => exact ih.cons c

namespace Pool

/-- The tickets of the tasks that have made their change: those that have ended, and those that are about
to. -/
def committed (pool : Pool τ σ α) : List Nat :=
  pool.ended ++ pool.workers.filterMap Worker.committed?

/-- The tasks that have made their change. -/
def committedTasks (pool : Pool τ σ α) : List τ :=
  pool.committed.filterMap (pool.accepted[·]?)

/-- A task that has made its change was started. -/
theorem committed_sublist (pool : Pool τ σ α) : pool.committed.Sublist (pool.ended ++ pool.underway) := by
  refine (List.Sublist.refl _).append (sublist_filterMap ?_ _)
  intro worker ticket hticket
  unfold Worker.committed? at hticket
  split at hticket
  · cases hticket
  · exact hticket
  · cases hticket

variable {pool next mid : Pool τ σ α} {event : Event} {change : τ → σ → σ} {body : τ → Job τ σ Unit}

theorem committed_nodup (h : pool.history.IsOrderly) : pool.committed.Nodup :=
  pool.committed_sublist.nodup (h.started_perm.nodup_iff.mp h.started_nodup)

theorem lt_of_mem_committed (h : pool.history.IsOrderly) {ticket : Nat}
    (hticket : ticket ∈ pool.committed) : ticket < pool.accepted.length := by
  have hstarted : ticket ∈ pool.started := h.started_perm.mem_iff.mpr (pool.committed_sublist.mem hticket)
  have hrange : ticket ∈ List.range pool.accepted.length := by
    have hall := h.started_append
    change pool.started ++ _ = List.range pool.accepted.length at hall
    rw [← hall]
    exact List.mem_append_left _ hstarted
  exact List.mem_range.mp hrange

/-- When all tasks have ended, all have made their change. -/
theorem AllEnded.committed_perm (h : pool.AllEnded) :
    pool.committed.Perm (List.range pool.accepted.length) := by
  have hnone : pool.workers.filterMap Worker.committed? = [] := by
    have hsublist := pool.committed_sublist
    rw [h.underway_eq, committed, List.append_nil] at hsublist
    have hlength := hsublist.length_le
    rw [List.length_append] at hlength
    exact List.length_eq_zero_iff.mp (by omega)
  rw [committed, hnone, List.append_nil]
  exact h.ended_perm

/-- When all tasks have ended, the tasks that have made their change are all that were accepted. -/
theorem AllEnded.committedTasks_perm (h : pool.AllEnded) : pool.committedTasks.Perm pool.accepted := by
  have hperm := h.committed_perm.filterMap (pool.accepted[·]?)
  rwa [filterMap_range_getElem?] at hperm

/-! ## What an event does -/

theorem Advance.commits {task : Activity τ σ Unit} {task' : Activity τ σ Unit} {self wakes : Option Nat}
    {change : σ → σ} (h : pool.Advance self wakes task mid task') (hcommits : task.Commits change) :
    task'.Commits change := by
  cases hcommits with
  | pending =>
    cases h
    exact .finishing
  | finishing =>
    cases h
    exact .done
  | done => cases h

theorem Continues.commits {task : Activity τ σ Unit} {task' : Activity τ σ Unit} {self : Option Nat}
    {change : σ → σ} (h : Continues pool next self task task') (hcommits : task.Commits change) :
    task'.Commits change := by
  cases h with
  | stays => exact hcommits
  | roused =>
    cases hcommits with
    | pending => exact .pending
    | finishing => exact .finishing
    | done => exact .done
  | advances hadvance => exact hadvance.commits hcommits

/-- A pool whose tasks make one change each, and whose clients change nothing. -/
def IsCommitting (change : τ → σ → σ) (pool : Pool τ σ α) : Prop :=
  pool.Holds (fun _ activity _ => activity.ChangesOnly (· = id))
    fun task activity _ => activity.Commits (change task)

theorem IsCommitting.moves (hmoves : pool.Moves body event next) (horderly : pool.history.IsOrderly)
    (hbody : ∀ task, body task = .modify (change task)) (h : pool.IsCommitting change) :
    next.IsCommitting change := by
  refine Holds.moves hmoves horderly ?_ ?_ ?_ h
  · intro i activity activity' hcontinues hactivity
    exact hcontinues.changesOnly hactivity
  · intro task self activity activity' hcontinues hactivity
    exact hcontinues.commits hactivity
  · intro task
    rw [hbody]
    exact .pending

theorem committed_setWorker {i : Nat} {worker worker' : Worker τ σ}
    (hi : pool.workers[i]? = some worker) (heq : worker'.committed? = worker.committed?) :
    ({ pool with workers := pool.workers.set i worker' } : Pool τ σ α).committed = pool.committed := by
  rw [committed, committed, filterMap_set_of_eq hi heq]

/-- A step of a thread may wake workers, which have no task. -/
theorem Advance.committed_eq {self wakes : Option Nat} {activity activity' : Activity τ σ β}
    (h : pool.Advance self wakes activity mid activity') : mid.committed = pool.committed := by
  cases h with
  | wakeSome hasleep =>
    apply committed_setWorker hasleep
    rfl
  | wakeAll =>
    have hwoken : (pool.workers.map Worker.woken).filterMap Worker.committed? =
        pool.workers.filterMap Worker.committed? := by
      rw [List.filterMap_map]
      exact congrArg (List.filterMap · pool.workers) (funext Worker.committed?_woken)
    exact congrArg (pool.ended ++ ·) hwoken
  | _ => rfl

/-- A task that has made its change ends. -/
theorem committed_endTask {i ticket : Nat} {activity : Activity τ σ Unit}
    (hi : pool.workers[i]? = some (.running ticket activity))
    (hcommitted : (Worker.running ticket activity).committed? = some ticket) :
    (({ pool with workers := pool.workers.set i .looking } : Pool τ σ α).endTask ticket).committed.Perm
      pool.committed := by
  have hworkers : ∀ mid : Pool τ σ α, (mid.endTask ticket).workers.filterMap Worker.committed? =
      mid.workers.filterMap Worker.committed? := by
    intro mid
    rcases mid.workers_endTask ticket with heq | heq
    · rw [heq]
    · rw [heq, List.filterMap_map]
      exact congrArg (List.filterMap · mid.workers) (funext Worker.committed?_roused)
  have hset := filterMap_set_perm (f := Worker.committed?) hi .looking
  rw [hcommitted] at hset
  rw [committed, ended_endTask, hworkers, committed, List.append_assoc]
  exact hset.append_left pool.ended

/-- **An event makes the change of one task, or changes nothing.** -/
theorem Moves.commits (h : pool.Moves body event next)
    (hbody : ∀ task, body task = .modify (change task)) (hcommitting : pool.IsCommitting change) :
    (next.memory = pool.memory ∧ next.committed.Perm pool.committed) ∨
      ∃ ticket task, pool.accepted[ticket]? = some task ∧ next.memory = change task pool.memory ∧
        next.committed.Perm (pool.committed ++ [ticket]) := by
  cases h with
  | @client i wakes activity activity' mid hi hadvance =>
    left
    have hmemory := (hadvance.changesOnly (hcommitting.client i activity hi)).2
    have hcommitted : mid.committed = pool.committed := hadvance.committed_eq
    exact ⟨hmemory, .of_eq hcommitted⟩
  | @task i wakes ticket activity activity' mid hi hadvance =>
    obtain ⟨task, htask, hphase⟩ := hcommitting.task i ticket activity hi
    cases hphase with
    | pending =>
      right
      cases hadvance
      have hset := filterMap_set_perm (f := Worker.committed?) hi (.running ticket (.running (.finish ())))
      refine ⟨ticket, task, htask, rfl, ?_⟩
      rw [committed, committed, List.append_assoc]
      exact (hset.trans (List.perm_append_singleton _ _).symm).append_left pool.ended
    | finishing =>
      left
      cases hadvance
      exact ⟨rfl, .of_eq (committed_setWorker hi rfl)⟩
    | done => cases hadvance
  | @take i wakes ticket task queue hi hqueue =>
    left
    have hnone : (Worker.running ticket (.running (body task))).committed? =
        (Worker.looking : Worker τ σ).committed? := by
      rw [hbody]
      rfl
    refine ⟨rfl, .of_eq ?_⟩
    rw [committed, committed]
    exact congrArg (pool.ended ++ ·) (filterMap_set_of_eq hi hnone)
  | doze hi | leave hi | rouseWorker hi =>
    left
    exact ⟨rfl, .of_eq (committed_setWorker hi rfl)⟩
  | done hi =>
    left
    refine ⟨?_, committed_endTask hi rfl⟩
    exact memory_endTask _ _
  | @panicked i wakes ticket payload hi =>
    obtain ⟨task, -, hphase⟩ := hcommitting.task i ticket _ hi
    cases hphase
  | rouseClient hi =>
    left
    exact ⟨rfl, .refl _⟩
  | @rouseTask i ticket job hi =>
    obtain ⟨task, -, hphase⟩ := hcommitting.task i ticket _ hi
    cases hphase

/-! ## What a run does -/

/-- The memory is as the tasks have left it that have made their change, in some order. -/
def IsOutcome (change : τ → σ → σ) (memory : σ) (pool : Pool τ σ α) : Prop :=
  ∃ order : List Nat, order.Perm pool.committed ∧
    pool.memory = (order.filterMap (pool.accepted[·]?)).foldl (fun memory task => change task memory)
      memory

theorem IsOutcome.moves {memory : σ} (hmoves : pool.Moves body event next)
    (hbody : ∀ task, body task = .modify (change task)) (hcommitting : pool.IsCommitting change)
    (horderly : pool.history.IsOrderly) (h : pool.IsOutcome change memory) :
    next.IsOutcome change memory := by
  obtain ⟨order, horder, hmemory⟩ := h
  -- tasks that were accepted before keep their tickets
  have hsame : order.filterMap (next.accepted[·]?) = order.filterMap (pool.accepted[·]?) := by
    apply List.filterMap_congr
    intro ticket hticket
    have hlt := lt_of_mem_committed horderly (horder.mem_iff.mp hticket)
    exact getElem?_of_isPrefix hmoves.accepted_prefix hlt
  rcases hmoves.commits hbody hcommitting with ⟨hstays, hperm⟩ | ⟨ticket, task, htask, hchange, hperm⟩
  · exact ⟨order, horder.trans hperm.symm, by rw [hstays, hsame, hmemory]⟩
  · have hlast : [ticket].filterMap (next.accepted[·]?) = [task] := by
      simp [hmoves.getElem?_accepted htask]
    refine ⟨order ++ [ticket], (horder.append_right [ticket]).trans hperm.symm, ?_⟩
    rw [List.filterMap_append, hsame, hlast, List.foldl_append, ← hmemory, hchange]
    rfl

variable {memory : σ} {clients : List (Job τ σ α)} {start : Pool τ σ α} {refused : List τ}

theorem IsUnused.isCommitting (h : start.IsUnused memory clients)
    (hclients : ∀ job ∈ clients, job.ChangesOnly (· = id)) : start.IsCommitting change :=
  h.holds fun _ _ hjob => hclients _ (List.mem_of_getElem? hjob)

theorem IsUnused.isOutcome (h : start.IsUnused memory clients) : start.IsOutcome change memory := by
  refine ⟨[], ?_, h.memory_eq⟩
  have hsublist := start.committed_sublist
  rw [h.ended_eq, h.underway_eq] at hsublist
  rw [List.sublist_nil.mp hsublist]

/-- **The memory is as the tasks have left it that have made their change**, in all that is reached. -/
theorem Reached.isOutcome (h : Reached (· = body) start pool refused)
    (hbody : ∀ task, body task = .modify (change task)) (hstart : start.IsUnused memory clients)
    (hclients : ∀ job ∈ clients, job.ChangesOnly (· = id)) :
    pool.IsCommitting change ∧ pool.IsOutcome change memory := by
  refine (h.invariant (p := fun pool _ => pool.history.IsOrderly ∧ pool.IsCommitting change ∧
    pool.IsOutcome change memory)
    ⟨hstart.isOrderly, hstart.isCommitting hclients, hstart.isOutcome⟩ ?_).2
  rintro _ pool next refused event rfl hmoves ⟨horderly, hcommitting, houtcome⟩
  exact ⟨horderly.next hmoves.history, hcommitting.moves hmoves horderly hbody,
    houtcome.moves hmoves hbody hcommitting horderly⟩

end Pool

end Concordance
