import Concordance.Proofs.Pool.Pending

/-!
# No wakeup is lost

Whoever queues a task owes a signal until it has woken a worker or found none asleep. A worker that is
awake and runs nothing looks at the queue before it sleeps. So while some worker sleeps, each task
that waits is matched by a signal that is owed or by a worker that is about to look.

## Main definitions

* `Pool.owed`: how many signals are owed
* `Pool.IsAttended`: no task waits unnoticed

## Main results

* `Reached.isAttended`: no task waits unnoticed in all that is reached
-/

namespace Concordance

variable {τ σ α β : Type}

/-- Whether a thread has queued a task, and has not woken a worker for it. -/
def Activity.owesSignal : Activity τ σ α → Bool
  | .notifyOne _ => true
  | _ => false

/-- Whether the task of a worker has queued a task, and has not woken a worker for it. -/
def Worker.owesSignal : Worker τ σ → Bool
  | .running _ activity => activity.owesSignal
  | _ => false

/-- Whether a worker is awake and runs nothing. -/
def Worker.isLooking : Worker τ σ → Bool
  | .looking => true
  | _ => false

theorem Activity.owesSignal_roused (activity : Activity τ σ α) :
    activity.roused.owesSignal = activity.owesSignal := by
  cases activity <;> rfl

theorem Worker.owesSignal_roused (worker : Worker τ σ) :
    worker.roused.owesSignal = worker.owesSignal := by
  cases worker with
  | running ticket activity => exact activity.owesSignal_roused
  | _ => rfl

theorem Worker.owesSignal_woken (worker : Worker τ σ) :
    worker.woken.owesSignal = worker.owesSignal := by
  cases worker <;> rfl

theorem Worker.isLooking_roused (worker : Worker τ σ) :
    worker.roused.isLooking = worker.isLooking := by
  cases worker <;> rfl

namespace Pool

/-- How many signals are owed. -/
def owed (pool : Pool τ σ α) : Nat :=
  pool.clients.countP Activity.owesSignal + pool.workers.countP Worker.owesSignal

/-- While some worker sleeps, each task that waits is matched by a signal that is owed, or by a worker
that is about to look at the queue. -/
def IsAttended (pool : Pool τ σ α) : Prop :=
  .asleep ∈ pool.workers → pool.queue.length ≤ pool.owed + pool.workers.countP Worker.isLooking

theorem Advance.owesSignal_workers {pool mid : Pool τ σ α} {self wakes : Option Nat}
    {activity activity' : Activity τ σ β} (h : pool.Advance self wakes activity mid activity') :
    mid.workers.countP Worker.owesSignal = pool.workers.countP Worker.owesSignal := by
  cases h with
  | wakeSome hasleep =>
    have hset := countP_set (p := Worker.owesSignal) hasleep .looking
    simpa [Worker.owesSignal] using hset
  | wakeAll => simp [Pool.wakeAll, List.countP_map, Function.comp_def, Worker.owesSignal_woken]
  | _ => rfl

theorem Advance.asleep_mem {pool mid : Pool τ σ α} {self wakes : Option Nat}
    {activity activity' : Activity τ σ β} (h : pool.Advance self wakes activity mid activity')
    (hasleep : .asleep ∈ mid.workers) : .asleep ∈ pool.workers := by
  cases h with
  | wakeSome h => exact List.mem_of_getElem? h
  | wakeAll =>
    obtain ⟨worker, hworker, hwoken⟩ := List.mem_map.mp hasleep
    cases worker <;> cases hwoken
  | _ => exact hasleep

/-- A thread that queues a task owes a signal for it from then on; and if it gives a signal, then
either it wakes a worker or no worker is asleep. -/
theorem Advance.queue_le {pool mid : Pool τ σ α} {self wakes : Option Nat}
    {activity activity' : Activity τ σ β} (h : pool.Advance self wakes activity mid activity')
    (hasleep : .asleep ∈ mid.workers) :
    mid.queue.length + pool.workers.countP Worker.isLooking + (if activity.owesSignal then 1 else 0) ≤
      pool.queue.length + mid.workers.countP Worker.isLooking +
        if activity'.owesSignal then 1 else 0 := by
  cases h with
  | accept =>
    simp only [Pool.enqueue, Activity.owesSignal, List.length_append, List.length_singleton]
    simp
    omega
  | wakeNone hnone =>
    -- the signal wakes nobody only if no worker is asleep
    obtain ⟨i, hi⟩ := List.mem_iff_getElem?.mp hasleep
    exact absurd hi (hnone i)
  | wakeSome h =>
    have hset := countP_set (p := Worker.isLooking) h .looking
    simp only [Worker.isLooking] at hset
    simp at hset
    simp [Activity.owesSignal]
    omega
  | wakeAll =>
    obtain ⟨worker, -, hwoken⟩ := List.mem_map.mp hasleep
    cases worker <;> cases hwoken
  | _ => exact Nat.le_refl _

theorem IsAttended.endTask {pool : Pool τ σ α} (h : pool.IsAttended) (ticket : Nat) :
    (pool.endTask ticket).IsAttended := by
  unfold Pool.endTask
  dsimp only
  split
  · intro hasleep
    obtain ⟨worker, hworker, hroused⟩ := List.mem_map.mp hasleep
    have hsame : worker = .asleep := by
      cases worker with
      | asleep => rfl
      | _ => cases hroused
    -- rousing threads changes neither what is owed nor who looks
    have hle := h (hsame ▸ hworker)
    simpa [owed, List.countP_map, Function.comp_def, Activity.owesSignal_roused,
      Worker.owesSignal_roused, Worker.isLooking_roused] using hle
  · exact h

/-- A worker does something else, which costs no signal. -/
theorem IsAttended.setWorker {pool : Pool τ σ α} (h : pool.IsAttended) {i : Nat}
    {worker : Worker τ σ} (worker' : Worker τ σ) (hi : pool.workers[i]? = some worker)
    (howed : worker'.owesSignal = worker.owesSignal)
    (hlooking : worker.isLooking = true → worker'.isLooking = true) (hasleep : worker' ≠ .asleep) :
    ({ pool with workers := pool.workers.set i worker' } : Pool τ σ α).IsAttended := by
  intro hmem
  rcases List.mem_or_eq_of_mem_set hmem with hmem | heq
  · have hle := h hmem
    have hsetOwed := countP_set (p := Worker.owesSignal) hi worker'
    have hsetLooking := countP_set (p := Worker.isLooking) hi worker'
    rw [howed] at hsetOwed
    unfold owed at hle ⊢
    dsimp only
    cases hworker : worker.isLooking with
    | true =>
      simp only [hworker, hlooking hworker] at hsetLooking
      omega
    | false =>
      simp [hworker] at hsetLooking
      omega
  · exact absurd heq.symm hasleep

theorem IsAttended.moves {body : τ → Job τ σ Unit} {pool next : Pool τ σ α} {event : Event}
    (hmoves : pool.Moves body event next) (h : pool.IsAttended) : next.IsAttended := by
  cases hmoves with
  | @client i wakes activity activity' mid hi hadvance =>
    intro hasleep
    have hle := h (hadvance.asleep_mem hasleep)
    have hqueue := hadvance.queue_le hasleep
    have hworkers := hadvance.owesSignal_workers
    have hset := countP_set (p := Activity.owesSignal) hi activity'
    simp only [owed, hadvance.clients_eq] at hle ⊢
    omega
  | @task i wakes ticket activity activity' mid hi hadvance =>
    intro hasleep
    -- the worker of the task is awake, so another one sleeps
    have hmid : .asleep ∈ mid.workers := by
      rcases List.mem_or_eq_of_mem_set hasleep with hmem | heq
      · exact hmem
      · cases heq
    have hle := h (hadvance.asleep_mem hmid)
    have hqueue := hadvance.queue_le hmid
    have hworkers := hadvance.owesSignal_workers
    have hlooking : (mid.workers.set i (.running ticket activity')).countP Worker.isLooking =
        mid.workers.countP Worker.isLooking := countP_set_of_eq (hadvance.running hi) rfl
    have howed : (mid.workers.set i (.running ticket activity')).countP Worker.owesSignal +
        (if activity.owesSignal then 1 else 0) = mid.workers.countP Worker.owesSignal +
          if activity'.owesSignal then 1 else 0 := countP_set (hadvance.running hi) _
    simp only [owed, hadvance.clients_eq] at hle ⊢
    omega
  | @take i wakes ticket task queue hi hqueue =>
    intro hasleep
    have hmem : .asleep ∈ pool.workers := by
      rcases List.mem_or_eq_of_mem_set hasleep with hmem | heq
      · exact hmem
      · cases heq
    -- one task waits no more, and one worker looks no more
    have hle := h hmem
    have hsetOwed := countP_set (p := Worker.owesSignal) hi (.running ticket (.running (body task)))
    have hsetLooking := countP_set (p := Worker.isLooking) hi
      (.running ticket (.running (body task)))
    simp [Worker.isLooking, Worker.owesSignal, Activity.owesSignal] at hsetOwed hsetLooking
    simp only [owed, hqueue, List.length_cons] at hle ⊢
    omega
  | doze hi hqueue | leave hi hqueue =>
    -- the worker has found the queue empty
    intro _
    simp [hqueue]
  | done hi =>
    have hset := h.setWorker .looking hi rfl (fun _ => rfl) (by simp)
    exact hset.endTask _
  | @panicked i wakes ticket payload hi =>
    have hlogged : ({ pool with panics := pool.panics ++ [(i, payload)] } : Pool τ σ α).IsAttended :=
      h
    exact (hlogged.setWorker .looking hi rfl (fun _ => rfl) (by simp)).endTask _
  | rouseWorker hi => exact h.setWorker _ hi rfl (fun _ => rfl) (by simp)
  | @rouseClient i job hi =>
    intro hasleep
    have hset := countP_set (p := Activity.owesSignal) hi (.running (.awaitIdle job))
    have hle := h hasleep
    simp [Activity.owesSignal] at hset
    simp only [owed] at hle ⊢
    omega
  | rouseTask hi => exact h.setWorker _ hi rfl (by simp [Worker.isLooking]) (by simp)

/-- Nothing waits while all workers sleep and no signal is owed. -/
theorem IsAttended.queue_eq {pool : Pool τ σ α} (h : pool.IsAttended) (hworkers : pool.workers ≠ [])
    (hasleep : ∀ worker ∈ pool.workers, worker = .asleep) (howed : pool.owed = 0) :
    pool.queue = [] := by
  obtain ⟨worker, hworker⟩ := List.exists_mem_of_ne_nil _ hworkers
  have hle := h (hasleep worker hworker ▸ hworker)
  have hlooking : pool.workers.countP Worker.isLooking = 0 := by
    rw [List.countP_eq_zero]
    intro worker hworker
    simp [hasleep worker hworker, Worker.isLooking]
  rw [howed, hlooking] at hle
  exact List.length_eq_zero_iff.mp (Nat.le_zero.mp hle)

/-- Nothing is pending while all workers sleep and no signal is owed. -/
theorem IsAttended.pending_eq {pool : Pool τ σ α} (h : pool.IsAttended) (hcounted : pool.IsCounted)
    (hworkers : pool.workers ≠ []) (hasleep : ∀ worker ∈ pool.workers, worker = .asleep)
    (howed : pool.owed = 0) : pool.pending = 0 := by
  have hrunning : pool.workers.countP Worker.isRunning = 0 := by
    rw [List.countP_eq_zero]
    intro worker hworker
    simp [hasleep worker hworker, Worker.isRunning]
  rw [hcounted.pending_eq, hrunning, h.queue_eq hworkers hasleep howed]
  rfl

theorem IsReady.isAttended {memory : σ} {clients : List (Job τ σ α)} {pool : Pool τ σ α}
    (h : pool.IsReady memory clients) : pool.IsAttended := by
  intro _
  simp [h.queue_eq]

/-- **No wakeup is lost**: no task waits unnoticed in all that is reached. -/
theorem Reached.isAttended {bodies : (τ → Job τ σ Unit) → Prop} {start pool : Pool τ σ α}
    {refused : List τ} (h : Reached bodies start pool refused) (hstart : start.IsAttended) :
    pool.IsAttended :=
  h.invariant (p := fun pool _ => pool.IsAttended) hstart fun _ hmoves h => h.moves hmoves

end Pool

end Concordance
