import Concordance.Proofs.Pool.Pending
import Mathlib.Logic.Basic

/-!
# What an event does to one thread

A thread goes on by itself, is woken while it waits for the pool to be idle, or stays where it is. A
worker starts a task only when it takes it from the head of the queue.

## Main definitions

* `Pool.Continues`: what an event does to one thread

## Main results

* `Moves.client_continues`: what each event does to a client
* `Moves.eq_or_roused`: what it does to the other clients
* `Moves.task_continues`: what each event does to a task
* `Moves.running_or_ended`: a worker keeps its task until the task has ended
-/

namespace Concordance

variable {τ σ α β : Type}

/-- A member of a list of which one member was changed is the changed one or was there before. -/
theorem eq_or_of_getElem?_set {l : List β} {i j : Nat} {b b' : β} (h : (l.set j b)[i]? = some b') :
    j = i ∧ b' = b ∨ l[i]? = some b' := by
  rw [List.getElem?_set] at h
  split at h
  · next heq =>
    split at h
    · cases h
      exact .inl ⟨heq, rfl⟩
    · cases h
  · exact .inr h

namespace Pool

/-- What an event does to one thread. -/
inductive Continues (pool next : Pool τ σ α) (self : Option Nat) (activity : Activity τ σ β) :
    Activity τ σ β → Prop
  | stays : Continues pool next self activity activity
  | roused : Continues pool next self activity activity.roused
  | advances {wakes : Option Nat} {mid : Pool τ σ α} {activity' : Activity τ σ β}
    (h : pool.Advance self wakes activity mid activity') (hmemory : next.memory = mid.memory) :
    Continues pool next self activity activity'

variable {body : τ → Job τ σ Unit} {pool next : Pool τ σ α} {event : Event}

theorem clients_endTask (pool : Pool τ σ α) (ticket : Nat) :
    (pool.endTask ticket).clients = pool.clients ∨
      (pool.endTask ticket).clients = pool.clients.map .roused := by
  unfold endTask
  dsimp only
  split
  · exact .inr rfl
  · exact .inl rfl

/-- A client that the event is no step of stays where it is, or is woken. -/
theorem Moves.eq_or_roused (h : pool.Moves body event next) {i : Nat}
    (hevent : ∀ wakes, event ≠ .client i wakes) {activity' : Activity τ σ α}
    (hi : next.clients[i]? = some activity') :
    ∃ activity, pool.clients[i]? = some activity ∧
      (activity' = activity ∨ activity' = activity.roused) := by
  cases h with
  | @client j wakes before after mid hj hadvance =>
    have hne : j ≠ i := by
      rintro rfl
      exact hevent wakes rfl
    rw [List.getElem?_set_ne hne, hadvance.clients_eq] at hi
    exact ⟨activity', hi, .inl rfl⟩
  | task hj hadvance =>
    rw [hadvance.clients_eq] at hi
    exact ⟨activity', hi, .inl rfl⟩
  | done | panicked =>
    rcases clients_endTask _ _ with heq | heq
    · rw [heq] at hi
      exact ⟨activity', hi, .inl rfl⟩
    · rw [heq, List.getElem?_map] at hi
      obtain ⟨activity, hactivity, rfl⟩ := Option.map_eq_some_iff.mp hi
      exact ⟨activity, hactivity, .inr rfl⟩
  | @rouseClient j job hj =>
    rcases eq_or_of_getElem?_set hi with ⟨rfl, rfl⟩ | hi
    · exact ⟨.idle job, hj, .inr rfl⟩
    · exact ⟨activity', hi, .inl rfl⟩
  | take | doze | leave | rouseWorker | rouseTask => exact ⟨activity', hi, .inl rfl⟩

/-- **What each event does to a client.** -/
theorem Moves.client_continues (h : pool.Moves body event next) {i : Nat}
    {activity' : Activity τ σ α} (hi : next.clients[i]? = some activity') :
    ∃ activity, pool.clients[i]? = some activity ∧
      Continues pool next none activity activity' := by
  by_cases hevent : ∃ wakes, event = .client i wakes
  · obtain ⟨wakes, rfl⟩ := hevent
    cases h with
    | client hj hadvance =>
      rcases eq_or_of_getElem?_set hi with ⟨-, rfl⟩ | hi
      · exact ⟨_, hj, .advances hadvance rfl⟩
      · rw [hadvance.clients_eq] at hi
        exact ⟨activity', hi, .stays⟩
  · rw [not_exists] at hevent
    obtain ⟨activity, hactivity, rfl | rfl⟩ := h.eq_or_roused hevent hi
    · exact ⟨_, hactivity, .stays⟩
    · exact ⟨_, hactivity, .roused⟩

theorem Moves.length_clients (h : pool.Moves body event next) :
    next.clients.length = pool.clients.length := by
  have hended : ∀ (mid : Pool τ σ α) ticket,
      (mid.endTask ticket).clients.length = mid.clients.length := by
    intro mid ticket
    rcases mid.clients_endTask ticket with heq | heq <;> simp [heq]
  cases h with
  | client hi hadvance => rw [List.length_set, hadvance.clients_eq]
  | task hi hadvance => rw [hadvance.clients_eq]
  | done | panicked => exact hended _ _
  | rouseClient => exact List.length_set
  | take | doze | leave | rouseWorker | rouseTask => rfl

/-- A client is there after each event if it was there before. -/
theorem Moves.exists_client_continues (h : pool.Moves body event next) {i : Nat}
    {activity : Activity τ σ α} (hi : pool.clients[i]? = some activity) :
    ∃ activity', next.clients[i]? = some activity' ∧
      Continues pool next none activity activity' := by
  have hlength := (List.getElem?_eq_some_iff.mp hi).1
  rw [← h.length_clients] at hlength
  have hnext := List.getElem?_eq_getElem hlength
  rcases h.client_continues hnext with ⟨before, hbefore, hcontinues⟩
  rw [hi] at hbefore
  cases hbefore
  exact ⟨_, hnext, hcontinues⟩

/-- A client that is done stays so. -/
theorem Moves.done_client (h : pool.Moves body event next) {i : Nat} {value : α}
    (hi : pool.clients[i]? = some (.done value)) : next.clients[i]? = some (.done value) := by
  obtain ⟨activity, hactivity, hcontinues⟩ := h.exists_client_continues hi
  cases hcontinues with
  | stays | roused => exact hactivity
  | advances hadvance => cases hadvance

/-- A step of a thread makes no worker start a task. -/
theorem Advance.running_of_running {mid : Pool τ σ α} {self wakes : Option Nat}
    {activity activity' : Activity τ σ β} (h : pool.Advance self wakes activity mid activity')
    {i ticket : Nat} {task : Activity τ σ Unit}
    (hrunning : mid.workers[i]? = some (.running ticket task)) :
    pool.workers[i]? = some (.running ticket task) := by
  cases h with
  | wakeSome hasleep =>
    rcases eq_or_of_getElem?_set hrunning with ⟨-, heq⟩ | hrunning
    · cases heq
    · exact hrunning
  | wakeAll =>
    rw [Pool.wakeAll, List.getElem?_map] at hrunning
    rcases Option.map_eq_some_iff.mp hrunning with ⟨worker, hworker, hwoken⟩
    cases worker with
    | running => cases hwoken; exact hworker
    | _ => cases hwoken
  | _ => exact hrunning

/-- The end of a task leaves the tasks of other workers as they are, or wakes them. -/
theorem exists_of_running_endTask {mid : Pool τ σ α} {ticket i t : Nat} {activity' : Activity τ σ Unit}
    (hi : (mid.endTask ticket).workers[i]? = some (.running t activity')) :
    ∃ activity, mid.workers[i]? = some (.running t activity) ∧
      (activity' = activity ∨ activity' = activity.roused) := by
  rcases mid.workers_endTask ticket with heq | heq
  · rw [heq] at hi
    exact ⟨activity', hi, .inl rfl⟩
  · rw [heq, List.getElem?_map] at hi
    rcases Option.map_eq_some_iff.mp hi with ⟨worker, hworker, hroused⟩
    cases worker with
    | running t activity => cases hroused; exact ⟨activity, hworker, .inr rfl⟩
    | _ => cases hroused

/-- **What each event does to a task**: it goes on, or a worker has just taken it from the queue. -/
theorem Moves.task_continues (h : pool.Moves body event next) {i ticket : Nat}
    {activity' : Activity τ σ Unit} (hi : next.workers[i]? = some (.running ticket activity')) :
    (∃ activity, pool.workers[i]? = some (.running ticket activity) ∧
      Continues pool next (some i) activity activity') ∨
    ∃ task queue, pool.workers[i]? = some .looking ∧ pool.queue = (ticket, task) :: queue ∧
      activity' = .running (body task) ∧ next.memory = pool.memory := by
  cases h with
  | client hj hadvance => exact .inl ⟨activity', hadvance.running_of_running hi, .stays⟩
  | @task j wakes t before after mid hj hadvance =>
    rcases eq_or_of_getElem?_set hi with ⟨rfl, heq⟩ | hi
    · cases heq
      exact .inl ⟨before, hj, .advances hadvance rfl⟩
    · exact .inl ⟨activity', hadvance.running_of_running hi, .stays⟩
  | @take j wakes t task queue hj hqueue =>
    rcases eq_or_of_getElem?_set hi with ⟨rfl, heq⟩ | hi
    · cases heq
      exact .inr ⟨task, queue, hj, hqueue, rfl, rfl⟩
    · exact .inl ⟨activity', hi, .stays⟩
  | done hj | panicked hj =>
    rcases exists_of_running_endTask hi with ⟨activity, hmid, hroused⟩
    rcases eq_or_of_getElem?_set hmid with ⟨-, heq⟩ | hbefore
    · cases heq
    · refine .inl ⟨activity, hbefore, ?_⟩
      rcases hroused with rfl | rfl
      · exact .stays
      · exact .roused
  | rouseClient => exact .inl ⟨activity', hi, .stays⟩
  | @rouseTask j t job hj =>
    rcases eq_or_of_getElem?_set hi with ⟨rfl, heq⟩ | hi
    · cases heq
      exact .inl ⟨.idle job, hj, .roused⟩
    · exact .inl ⟨activity', hi, .stays⟩
  | doze hj | leave hj | rouseWorker hj =>
    rcases eq_or_of_getElem?_set hi with ⟨-, heq⟩ | hi
    · cases heq
    · exact .inl ⟨activity', hi, .stays⟩

/-- What a worker runs, it runs whatever another worker does. -/
theorem running_set {workers : List (Worker τ σ)} {i j ticket : Nat} {activity : Activity τ σ Unit}
    (hi : workers[i]? = some (.running ticket activity)) {worker : Worker τ σ}
    (hj : workers[j]? = some worker) (hrunning : worker.isRunning = false) (worker' : Worker τ σ) :
    (workers.set j worker')[i]? = some (.running ticket activity) := by
  have hne : j ≠ i := by
    rintro rfl
    rw [hi] at hj
    cases hj
    cases hrunning
  rw [List.getElem?_set_ne hne, hi]

theorem exists_running_endTask {mid : Pool τ σ α} {i t : Nat} {activity : Activity τ σ Unit}
    (hi : mid.workers[i]? = some (.running t activity)) (ticket : Nat) :
    ∃ activity', (mid.endTask ticket).workers[i]? = some (.running t activity') := by
  rcases mid.workers_endTask ticket with heq | heq
  · exact ⟨activity, by rw [heq, hi]⟩
  · exact ⟨activity.roused, by rw [heq, List.getElem?_map, hi]; rfl⟩

/-- **A worker keeps its task until the task is through and has ended.** -/
theorem Moves.running_or_ended (h : pool.Moves body event next) {i ticket : Nat}
    {activity : Activity τ σ Unit} (hi : pool.workers[i]? = some (.running ticket activity)) :
    (∃ activity', next.workers[i]? = some (.running ticket activity')) ∨
      activity.isThrough = true ∧ next.ended = pool.ended ++ [ticket] := by
  have hlength := (List.getElem?_eq_some_iff.mp hi).1
  cases h with
  | client hj hadvance => exact .inl ⟨activity, hadvance.running hi⟩
  | @task j wakes t before after mid hj hadvance =>
    have hmid := hadvance.running hi
    rcases eq_or_ne j i with rfl | hne
    · rw [hi] at hj
      cases hj
      exact .inl ⟨after, List.getElem?_set_self (List.getElem?_eq_some_iff.mp hmid).1⟩
    · exact .inl ⟨activity, by rw [List.getElem?_set_ne hne, hmid]⟩
  | @done j wakes t hj | @panicked j wakes t payload hj =>
    rcases eq_or_ne j i with rfl | hne
    · rw [hi] at hj
      cases hj
      exact .inr ⟨rfl, ended_endTask _ _⟩
    · left
      apply exists_running_endTask
      exact (List.getElem?_set_ne hne).trans hi
  | rouseClient => exact .inl ⟨activity, hi⟩
  | @rouseTask j t job hj =>
    rcases eq_or_ne j i with rfl | hne
    · rw [hi] at hj
      cases hj
      exact .inl ⟨_, List.getElem?_set_self hlength⟩
    · exact .inl ⟨activity, by rw [List.getElem?_set_ne hne, hi]⟩
  | take hj | doze hj | leave hj | rouseWorker hj =>
    exact .inl ⟨activity, running_set hi hj rfl _⟩

end Pool

end Concordance
