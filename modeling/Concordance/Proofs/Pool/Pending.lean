import Concordance.Proofs.Pool.Moves

/-!
# The count of pending tasks

A task is pending from the moment it is accepted until it has ended: as long as it waits in the queue,
and then as long as a worker runs it. The queue and the count change at different moments, but always
so that the count is right. A thread sleeps until the pool is idle only while something is pending.

## Main definitions

* `Pool.IsCounted`: the count is right, and nobody waits for an idle pool to be idle

## Main results

* `countP_set`: a count after one member of a list has changed
* `Reached.isCounted`: the count is right in all that is reached
-/

namespace Concordance

variable {τ σ α β : Type}

/-- A count after one member of a list has changed. -/
theorem countP_set {p : β → Bool} {l : List β} {i : Nat} {b : β} (h : l[i]? = some b) (b' : β) :
    (l.set i b').countP p + (if p b then 1 else 0) = l.countP p + if p b' then 1 else 0 := by
  induction l generalizing i with
  | nil => simp at h
  | cons c l ih =>
    cases i with
    | zero =>
      cases h
      simp only [List.set_cons_zero, List.countP_cons]
      omega
    | succ i =>
      have hrest := ih (i := i) h
      simp only [List.set_cons_succ, List.countP_cons]
      omega

theorem countP_set_of_eq {p : β → Bool} {l : List β} {i : Nat} {b b' : β} (h : l[i]? = some b)
    (heq : p b' = p b) : (l.set i b').countP p = l.countP p := by
  have hset := countP_set (p := p) h b'
  rw [heq] at hset
  omega

/-- Whether a thread sleeps until the pool is idle. -/
def Activity.isIdle : Activity τ σ α → Bool
  | .idle _ => true
  | _ => false

/-- Whether a thread has done its job. -/
def Activity.isThrough : Activity τ σ α → Bool
  | .done _ | .panicked _ => true
  | _ => false

/-- Whether the task of a worker sleeps until the pool is idle. -/
def Worker.isIdle : Worker τ σ → Bool
  | .running _ activity => activity.isIdle
  | _ => false

theorem Worker.isRunning_woken (worker : Worker τ σ) : worker.woken.isRunning = worker.isRunning := by
  cases worker <;> rfl

theorem Worker.isRunning_roused (worker : Worker τ σ) :
    worker.roused.isRunning = worker.isRunning := by
  cases worker <;> rfl

theorem Activity.isIdle_roused (activity : Activity τ σ α) : activity.roused.isIdle = false := by
  cases activity <;> rfl

theorem Worker.isIdle_roused (worker : Worker τ σ) : worker.roused.isIdle = false := by
  cases worker with
  | running ticket activity => exact activity.isIdle_roused
  | _ => rfl

namespace Pool

/-- The count of pending tasks is right, and no thread waits for the pool to be idle if it is. -/
structure IsCounted (pool : Pool τ σ α) : Prop where
  pending_eq : pool.pending = pool.queue.length + pool.workers.countP Worker.isRunning
  client : ∀ activity ∈ pool.clients, activity.isIdle = true → pool.pending ≠ 0
  worker : ∀ worker ∈ pool.workers, worker.isIdle = true → pool.pending ≠ 0

theorem IsCounted.setWorker {pool : Pool τ σ α} (h : pool.IsCounted) {i : Nat}
    {worker : Worker τ σ} (worker' : Worker τ σ) (hi : pool.workers[i]? = some worker)
    (hrunning : worker'.isRunning = worker.isRunning)
    (hidle : worker'.isIdle = true → pool.pending ≠ 0) :
    ({ pool with workers := pool.workers.set i worker' } : Pool τ σ α).IsCounted where
  pending_eq := by
    rw [countP_set_of_eq hi hrunning]
    exact h.pending_eq
  client := h.client
  worker w hw hwidle := by
    rcases List.mem_or_eq_of_mem_set hw with hw | rfl
    · exact h.worker w hw hwidle
    · exact hidle hwidle

theorem IsCounted.setClient {pool : Pool τ σ α} (h : pool.IsCounted) (i : Nat)
    {activity : Activity τ σ α} (hidle : activity.isIdle = true → pool.pending ≠ 0) :
    ({ pool with clients := pool.clients.set i activity } : Pool τ σ α).IsCounted where
  pending_eq := h.pending_eq
  client a ha haidle := by
    rcases List.mem_or_eq_of_mem_set ha with ha | rfl
    · exact h.client a ha haidle
    · exact hidle haidle
  worker := h.worker

theorem Advance.isCounted {pool mid : Pool τ σ α} {self wakes : Option Nat}
    {activity activity' : Activity τ σ β} (h : pool.Advance self wakes activity mid activity')
    (hcounted : pool.IsCounted) : mid.IsCounted := by
  cases h with
  | @accept task =>
    refine ⟨?_, fun _ _ _ => Nat.succ_ne_zero _, fun _ _ _ => Nat.succ_ne_zero _⟩
    have hpending := hcounted.pending_eq
    simp only [Pool.enqueue, List.length_append, List.length_singleton]
    omega
  | wakeSome hasleep => exact hcounted.setWorker .looking hasleep rfl (by simp [Worker.isIdle])
  | wakeAll =>
    refine ⟨?_, hcounted.client, fun worker hworker hidle => ?_⟩
    · have hpending := hcounted.pending_eq
      simpa [Pool.wakeAll, List.countP_map, Function.comp_def, Worker.isRunning_woken] using hpending
    · obtain ⟨w, hw, rfl⟩ := List.mem_map.mp hworker
      refine hcounted.worker w hw ?_
      cases w <;> simp_all [Worker.woken, Worker.isIdle]
  | _ => exact ⟨hcounted.pending_eq, hcounted.client, hcounted.worker⟩

/-- A thread only goes to sleep until the pool is idle while something is pending. -/
theorem Advance.pending_ne_zero {pool mid : Pool τ σ α} {self wakes : Option Nat}
    {activity activity' : Activity τ σ β} (h : pool.Advance self wakes activity mid activity')
    (hidle : activity'.isIdle = true) : mid.pending ≠ 0 := by
  cases h with
  | rest hpending => exact hpending
  | _ => cases hidle

/-- A task ends, and those who wait for the pool to be idle wake if it was the last one. -/
theorem isCounted_endTask {pool : Pool τ σ α} (ticket : Nat)
    (hpending : pool.pending = pool.queue.length + pool.workers.countP Worker.isRunning + 1) :
    (pool.endTask ticket).IsCounted := by
  unfold Pool.endTask
  dsimp only
  split
  · -- it was the last one, and all who slept are awake
    refine ⟨?_, fun activity hactivity hidle => ?_, fun worker hworker hidle => ?_⟩
    · have hmap : (pool.workers.map Worker.roused).countP Worker.isRunning =
          pool.workers.countP Worker.isRunning := by
        simp [List.countP_map, Function.comp_def, Worker.isRunning_roused]
      dsimp only
      omega
    · obtain ⟨a, -, rfl⟩ := List.mem_map.mp hactivity
      rw [Activity.isIdle_roused] at hidle
      cases hidle
    · obtain ⟨w, -, rfl⟩ := List.mem_map.mp hworker
      rw [Worker.isIdle_roused] at hidle
      cases hidle
  · next hne =>
    -- others are pending still
    refine ⟨?_, fun _ _ _ => hne, fun _ _ _ => hne⟩
    dsimp only
    omega

theorem IsCounted.moves {body : τ → Job τ σ Unit} {pool next : Pool τ σ α} {event : Event}
    (hmoves : pool.Moves body event next) (h : pool.IsCounted) : next.IsCounted := by
  have hpending := h.pending_eq
  cases hmoves with
  | client hi hadvance =>
    exact (hadvance.isCounted h).setClient _ hadvance.pending_ne_zero
  | task hi hadvance =>
    exact (hadvance.isCounted h).setWorker _ (hadvance.running hi) rfl fun hidle =>
      hadvance.pending_ne_zero hidle
  | @take i wakes ticket task queue hi hqueue =>
    -- the task leaves the queue and runs, so as many are pending as before
    have hset := countP_set (p := Worker.isRunning) hi (.running ticket (.running (body task)))
    simp only [Worker.isRunning, hqueue, List.length_cons] at hset hpending
    refine ⟨?_, h.client, fun worker hworker hidle => ?_⟩
    · simp at hset
      dsimp only
      omega
    · rcases List.mem_or_eq_of_mem_set hworker with hworker | rfl
      · exact h.worker worker hworker hidle
      · cases hidle
  | doze hi | leave hi => exact h.setWorker _ hi rfl (by simp [Worker.isIdle])
  | done hi | panicked hi =>
    -- the worker runs the task no more, which is pending until it has ended
    have hset := countP_set (p := Worker.isRunning) hi .looking
    simp [Worker.isRunning] at hset
    refine isCounted_endTask _ ?_
    dsimp only
    omega
  | rouseWorker hi => exact h.setWorker _ hi rfl (by simp [Worker.isIdle])
  | rouseClient hi => exact h.setClient _ (by simp [Activity.isIdle])
  | rouseTask hi => exact h.setWorker _ hi rfl (by simp [Worker.isIdle, Activity.isIdle])

theorem IsReady.isCounted {memory : σ} {clients : List (Job τ σ α)} {pool : Pool τ σ α}
    (h : pool.IsReady memory clients) : pool.IsCounted where
  pending_eq := by
    have hrunning : pool.workers.countP Worker.isRunning = 0 := by
      rw [List.countP_eq_zero]
      intro worker hworker
      simp [h.isRunning_eq worker hworker]
    rw [h.pending_eq, h.queue_eq, hrunning]
    rfl
  client activity hactivity hidle := by
    rw [h.clients_eq] at hactivity
    obtain ⟨job, -, rfl⟩ := List.mem_map.mp hactivity
    cases hidle
  worker worker hworker hidle := by
    have hrunning := h.isRunning_eq worker hworker
    cases worker with
    | running => cases hrunning
    | _ => cases hidle

theorem Reached.isCounted {bodies : (τ → Job τ σ Unit) → Prop} {start pool : Pool τ σ α}
    {refused : List τ} (h : Reached bodies start pool refused) (hstart : start.IsCounted) :
    pool.IsCounted :=
  h.invariant (p := fun pool _ => pool.IsCounted) hstart fun _ hmoves h => h.moves hmoves

/-- In a pool that is idle no task waits and none runs. -/
theorem IsCounted.idle {pool : Pool τ σ α} (h : pool.IsCounted) (hpending : pool.pending = 0) :
    pool.queue = [] ∧ ∀ worker ∈ pool.workers, worker.isRunning = false := by
  have hcount := h.pending_eq
  rw [hpending] at hcount
  have hqueue : pool.queue.length = 0 := by omega
  have hworkers : pool.workers.countP Worker.isRunning = 0 := by omega
  refine ⟨List.length_eq_zero_iff.mp hqueue, fun worker hworker => ?_⟩
  exact Bool.eq_false_iff.mpr (List.countP_eq_zero.mp hworkers worker hworker)

/-- While a worker runs a task, the pool is not idle. -/
theorem IsCounted.pending_ne_zero {pool : Pool τ σ α} (h : pool.IsCounted) {i ticket : Nat}
    {activity : Activity τ σ Unit} (hi : pool.workers[i]? = some (.running ticket activity)) :
    pool.pending ≠ 0 := by
  intro hpending
  have hidle := (h.idle hpending).2 _ (List.mem_of_getElem? hi)
  cases hidle

end Pool

end Concordance
