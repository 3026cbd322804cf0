import Concordance.Proofs.Pool.Moves
import Mathlib.Data.List.Basic

/-!
# The history of a pool

Every task that is accepted gets the next ticket, waits in the queue, is started by a worker and ends.
The history of a pool says how far its tasks have come. An event takes one task one step further, or
leaves the history as it is.

## Main definitions

* `Pool.underway`: the tickets of the tasks that workers run
* `History`, `Pool.history`: how far the tasks of a pool have come
* `History.Next`: what an event does to a history
* `History.IsOrderly`: each task is started once, in its turn, and ends once
* `Pool.IsUnused`: a pool that no task was ever given to

## Main results

* `Moves.history`: what each event does to the history of a pool
* `Reached.isOrderly`: the history of all that is reached is orderly
-/

namespace Concordance

variable {τ σ α β γ : Type}

/-- All places of a list together look up all its members. -/
theorem filterMap_range_getElem? (l : List β) : (List.range l.length).filterMap (l[·]?) = l := by
  have hrange : (List.range l.length).map (l[·]?) = l.map some := by
    refine List.ext_getElem (by simp) fun i hi _ => ?_
    rw [List.length_map, List.length_range] at hi
    simp [hi]
  calc (List.range l.length).filterMap (l[·]?)
    _ = ((List.range l.length).map (l[·]?)).filterMap id := by
      rw [List.filterMap_map]
      rfl
    _ = l := by
      rw [hrange, List.filterMap_map]
      exact List.filterMap_some

/-! ## Histories -/

/-- How far the tasks of a pool have come. -/
structure History (τ : Type) where
  accepted : List τ
  queue : List (Nat × τ)
  started : List Nat
  ended : List Nat
  /-- The tickets of the tasks that workers run, in the order of the workers. -/
  underway : List Nat

namespace History

/-- What an event does to a history, in a pool that may be shut down. -/
inductive Next (isShutdown : Bool) (history : History τ) : History τ → Prop
  | same : Next isShutdown history history
  | accept {task : τ} (h : isShutdown = false) :
    Next isShutdown history { history with
      accepted := history.accepted ++ [task]
      queue := history.queue ++ [(history.accepted.length, task)] }
  | start {ticket : Nat} {task : τ} {queue : List (Nat × τ)} {underway : List Nat}
    (hqueue : history.queue = (ticket, task) :: queue)
    (hunderway : underway.Perm (ticket :: history.underway)) :
    Next isShutdown history { history with
      queue := queue
      started := history.started ++ [ticket]
      underway := underway }
  | finish {ticket : Nat} {underway : List Nat}
    (hunderway : history.underway.Perm (ticket :: underway)) :
    Next isShutdown history { history with
      ended := history.ended ++ [ticket]
      underway := underway }

/-- Each task is started once, in its turn, and ends once. -/
structure IsOrderly (history : History τ) : Prop where
  /-- Tasks are started in the order in which they were accepted; those that wait come next. -/
  started_append : history.started ++ history.queue.map Prod.fst = List.range history.accepted.length
  /-- A task that waits is the one that was accepted with its ticket. -/
  accepted_eq : ∀ entry ∈ history.queue, history.accepted[entry.1]? = some entry.2
  /-- A task that was started is run by a worker until it ends. -/
  started_perm : history.started.Perm (history.ended ++ history.underway)

variable {history later : History τ} {isShutdown : Bool}

theorem IsOrderly.next (h : history.IsOrderly) (hnext : history.Next isShutdown later) :
    later.IsOrderly := by
  obtain ⟨hstarted, haccepted, hperm⟩ := h
  cases hnext with
  | same => exact ⟨hstarted, haccepted, hperm⟩
  | @accept task =>
    refine ⟨?_, fun entry hentry => ?_, hperm⟩
    · simp [← List.append_assoc, hstarted, List.range_succ]
    · rcases List.mem_append.mp hentry with hentry | hentry
      · -- the tasks before it keep their places
        have hlt := (List.getElem?_eq_some_iff.mp (haccepted entry hentry)).1
        rw [List.getElem?_append_left hlt]
        exact haccepted entry hentry
      · rw [List.mem_singleton.mp hentry]
        exact List.getElem?_concat_length
  | @start ticket task queue underway hqueue hunderway =>
    rw [hqueue] at hstarted haccepted
    refine ⟨by simpa using hstarted, fun entry hentry => haccepted entry (.tail _ hentry), ?_⟩
    have hmiddle : (history.ended ++ (ticket :: history.underway)).Perm
        (history.ended ++ history.underway ++ [ticket]) := by
      rw [List.append_assoc]
      exact (List.perm_append_singleton _ _).symm.append_left _
    exact (hperm.append_right [ticket]).trans (hmiddle.symm.trans (hunderway.symm.append_left _))
  | @finish ticket underway hunderway =>
    refine ⟨hstarted, haccepted, hperm.trans ?_⟩
    rw [List.append_assoc]
    exact hunderway.append_left _

/-- The task at the head of the queue is the first of the accepted ones that was not started. -/
theorem IsOrderly.head_eq (h : history.IsOrderly) {ticket : Nat} {task : τ}
    {queue : List (Nat × τ)} (hqueue : history.queue = (ticket, task) :: queue) :
    ticket = history.started.length ∧ history.accepted[ticket]? = some task := by
  have haccepted : history.accepted[ticket]? = some task :=
    h.accepted_eq (ticket, task) (by simp [hqueue])
  refine ⟨?_, haccepted⟩
  have hget : (List.range history.accepted.length)[history.started.length]? = some ticket := by
    simp [← h.started_append, hqueue]
  obtain ⟨_, hticket⟩ := List.getElem?_eq_some_iff.mp hget
  rw [List.getElem_range] at hticket
  exact hticket.symm

theorem IsOrderly.started_nodup (h : history.IsOrderly) : history.started.Nodup := by
  have hnodup := List.nodup_range (n := history.accepted.length)
  rw [← h.started_append] at hnodup
  exact (List.nodup_append.mp hnodup).1

/-- The tasks that were started and have not ended are those that workers run. -/
theorem IsOrderly.length_underway (h : history.IsOrderly) :
    (history.started.filter (· ∉ history.ended)).length = history.underway.length := by
  have hsplit := List.nodup_append.mp (h.started_perm.nodup_iff.mp h.started_nodup)
  rw [(h.started_perm.filter _).length_eq, List.filter_append]
  have hended : history.ended.filter (· ∉ history.ended) = [] := by simp
  have hunderway : history.underway.filter (· ∉ history.ended) = history.underway := by
    rw [List.filter_eq_self]
    intro ticket hticket
    simpa using fun hmem => hsplit.2.2 ticket hmem ticket hticket rfl
  rw [hended, hunderway, List.nil_append]

/-- The accepted tasks are those that were started, followed by those that wait. -/
theorem IsOrderly.accepted_append (h : history.IsOrderly) :
    history.started.filterMap (history.accepted[·]?) ++ history.queue.map Prod.snd =
      history.accepted := by
  have hqueue : history.queue.map Prod.snd =
      (history.queue.map Prod.fst).filterMap (history.accepted[·]?) := by
    rw [List.filterMap_map, ← List.filterMap_eq_map]
    exact List.filterMap_congr fun entry hentry => (h.accepted_eq entry hentry).symm
  calc history.started.filterMap (history.accepted[·]?) ++ history.queue.map Prod.snd
    _ = (List.range history.accepted.length).filterMap (history.accepted[·]?) := by
      rw [hqueue, ← List.filterMap_append, h.started_append]
    _ = history.accepted := filterMap_range_getElem? _

/-- When no task waits and none is underway, then every task that was accepted has ended. -/
theorem IsOrderly.ended_perm (h : history.IsOrderly) (hqueue : history.queue = [])
    (hunderway : history.underway = []) :
    history.ended.Perm (List.range history.accepted.length) := by
  have hstarted := h.started_append
  rw [hqueue, List.map_nil, List.append_nil] at hstarted
  have hperm := h.started_perm
  rw [hunderway, List.append_nil, hstarted] at hperm
  exact hperm.symm

end History

/-! ## Pools -/

/-- The ticket of the task that a worker runs. -/
def Worker.ticket? : Worker τ σ → Option Nat
  | .running ticket _ => some ticket
  | _ => none

theorem Worker.ticket?_woken (worker : Worker τ σ) : worker.woken.ticket? = worker.ticket? := by
  cases worker <;> rfl

theorem Worker.ticket?_roused (worker : Worker τ σ) : worker.roused.ticket? = worker.ticket? := by
  cases worker <;> rfl

/-- What is chosen from a list after one of its members has changed. -/
theorem filterMap_set_perm {f : β → Option γ} {l : List β} {i : Nat} {b : β} (h : l[i]? = some b)
    (b' : β) :
    ((f b).toList ++ (l.set i b').filterMap f).Perm ((f b').toList ++ l.filterMap f) := by
  induction l generalizing i with
  | nil => simp at h
  | cons c l ih =>
    cases i with
    | zero =>
      cases h
      simp only [List.set_cons_zero, List.filterMap_cons]
      cases f b <;> cases f b' <;> simp [List.Perm.swap]
    | succ i =>
      have hrest := ih (i := i) h
      simp only [List.set_cons_succ, List.filterMap_cons]
      cases f c with
      | none => exact hrest
      | some d =>
        have hmove : ∀ front rest : List γ, (front ++ d :: rest).Perm (d :: (front ++ rest)) :=
          fun _ _ => List.perm_middle
        exact (hmove _ _).trans ((hrest.cons d).trans (hmove _ _).symm)

/-- A member that is changed so that the same is chosen of it. -/
theorem filterMap_set_of_eq {f : β → Option γ} {l : List β} {i : Nat} {b b' : β} (h : l[i]? = some b)
    (heq : f b' = f b) : (l.set i b').filterMap f = l.filterMap f := by
  induction l generalizing i with
  | nil => simp at h
  | cons c l ih =>
    cases i with
    | zero =>
      cases h
      rw [List.set_cons_zero, List.filterMap_cons, List.filterMap_cons, heq]
    | succ i =>
      rw [List.set_cons_succ, List.filterMap_cons, List.filterMap_cons, ih (i := i) h]

namespace Pool

/-- The tickets of the tasks that workers run, in the order of the workers. -/
def underway (pool : Pool τ σ α) : List Nat :=
  pool.workers.filterMap Worker.ticket?

/-- How far the tasks of a pool have come. -/
def history (pool : Pool τ σ α) : History τ :=
  ⟨pool.accepted, pool.queue, pool.started, pool.ended, pool.underway⟩

theorem underway_map {workers : List (Worker τ σ)} {f : Worker τ σ → Worker τ σ}
    (hf : ∀ worker, (f worker).ticket? = worker.ticket?) :
    (workers.map f).filterMap Worker.ticket? = workers.filterMap Worker.ticket? := by
  rw [List.filterMap_map]
  exact congrArg (List.filterMap · workers) (funext hf)

/-- A worker does something else, and goes on with its task if it had one. -/
theorem underway_set {workers : List (Worker τ σ)} {i : Nat} {worker worker' : Worker τ σ}
    (hi : workers[i]? = some worker) (hticket : worker'.ticket? = worker.ticket?) :
    (workers.set i worker').filterMap Worker.ticket? = workers.filterMap Worker.ticket? :=
  filterMap_set_of_eq hi hticket

theorem history_setWorker {pool : Pool τ σ α} {i : Nat} {worker worker' : Worker τ σ}
    (hi : pool.workers[i]? = some worker) (hticket : worker'.ticket? = worker.ticket?) :
    ({ pool with workers := pool.workers.set i worker' } : Pool τ σ α).history = pool.history := by
  simp only [history, underway, underway_set hi hticket]

/-- A worker that goes on with its task, or without one, leaves the history as it is. -/
theorem next_setWorker {pool : Pool τ σ α} {i : Nat} {worker worker' : Worker τ σ}
    (hi : pool.workers[i]? = some worker) (hticket : worker'.ticket? = worker.ticket?)
    (isShutdown : Bool) : pool.history.Next isShutdown
      ({ pool with workers := pool.workers.set i worker' } : Pool τ σ α).history := by
  rw [history_setWorker hi hticket]
  exact .same

theorem history_endTask (pool : Pool τ σ α) (ticket : Nat) :
    (pool.endTask ticket).history =
      { pool.history with ended := pool.history.ended ++ [ticket] } := by
  have hunderway : (pool.endTask ticket).underway = pool.underway := by
    rcases pool.workers_endTask ticket with hworkers | hworkers
    · rw [underway, hworkers, underway]
    · rw [underway, hworkers]
      exact underway_map Worker.ticket?_roused
  simp [history, queue_endTask, accepted_endTask, started_endTask, ended_endTask, hunderway]

/-- A step of a thread accepts a task, or leaves the history as it is. -/
theorem Advance.history {pool mid : Pool τ σ α} {self wakes : Option Nat}
    {activity activity' : Activity τ σ β} (h : pool.Advance self wakes activity mid activity') :
    pool.history.Next pool.isShutdown mid.history := by
  cases h with
  | accept hopen => exact .accept hopen
  | wakeSome hasleep =>
    apply next_setWorker hasleep
    rfl
  | wakeAll =>
    have hsame : pool.wakeAll.history = pool.history := by
      simp only [Pool.history, Pool.underway, Pool.wakeAll, underway_map Worker.ticket?_woken]
    rw [hsame]
    exact .same
  | _ => exact .same

/-- A task ends, and its worker looks at the queue again. -/
theorem next_endTask {pool : Pool τ σ α} {i ticket : Nat} {activity : Activity τ σ Unit}
    (hi : pool.workers[i]? = some (.running ticket activity)) (isShutdown : Bool) :
    pool.history.Next isShutdown
      ({ pool with workers := pool.workers.set i .looking }.endTask ticket).history := by
  have hunderway := filterMap_set_perm (f := Worker.ticket?) hi .looking
  rw [history_endTask]
  exact .finish hunderway.symm

/-- **What each event does to the history of a pool.** -/
theorem Moves.history {body : τ → Job τ σ Unit} {pool next : Pool τ σ α} {event : Event}
    (h : pool.Moves body event next) : pool.history.Next pool.isShutdown next.history := by
  cases h with
  | client hi hadvance => exact hadvance.history
  | @task i wakes ticket activity activity' mid hi hadvance =>
    have hsame : ({ mid with workers := mid.workers.set i (.running ticket activity') } :
        Pool τ σ α).history = mid.history := history_setWorker (hadvance.running hi) rfl
    rw [hsame]
    exact hadvance.history
  | @take i wakes ticket task queue hi hqueue =>
    have hunderway := filterMap_set_perm (f := Worker.ticket?) hi
      (.running ticket (.running (body task)))
    exact .start hqueue hunderway
  | doze hi | leave hi | rouseWorker hi | rouseTask hi =>
    apply next_setWorker hi
    rfl
  | done hi => exact next_endTask hi _
  | @panicked i wakes ticket payload hi =>
    have hlogged : ({ pool with panics := pool.panics ++ [(i, payload)] } : Pool τ σ α).workers[i]? =
        some (.running ticket (.panicked payload)) := hi
    exact next_endTask hlogged _
  | rouseClient hi => exact .same

/-! ## Tasks that are underway -/

theorem mem_underway {pool : Pool τ σ α} {i ticket : Nat} {activity : Activity τ σ Unit}
    (hi : pool.workers[i]? = some (.running ticket activity)) : ticket ∈ pool.underway :=
  List.mem_filterMap.mpr ⟨_, List.mem_of_getElem? hi, rfl⟩

/-- A task is run by one worker. -/
theorem eq_of_running {pool : Pool τ σ α} (h : pool.history.IsOrderly) {i j ticket : Nat}
    {activity other : Activity τ σ Unit} (hi : pool.workers[i]? = some (.running ticket activity))
    (hj : pool.workers[j]? = some (.running ticket other)) : i = j := by
  have hnodup := (List.nodup_append.mp (h.started_perm.nodup_iff.mp h.started_nodup)).2.1
  have hpairwise := List.pairwise_iff_getElem.mp (List.pairwise_filterMap.mp hnodup)
  obtain ⟨hilt, higet⟩ := List.getElem?_eq_some_iff.mp hi
  obtain ⟨hjlt, hjget⟩ := List.getElem?_eq_some_iff.mp hj
  have hiticket : pool.workers[i].ticket? = some ticket := by rw [higet]; rfl
  have hjticket : pool.workers[j].ticket? = some ticket := by rw [hjget]; rfl
  rcases Nat.lt_trichotomy i j with hlt | heq | hlt
  · exact absurd rfl (hpairwise i j hilt hjlt hlt ticket hiticket ticket hjticket)
  · exact heq
  · exact absurd rfl (hpairwise j i hjlt hilt hlt ticket hjticket ticket hiticket)

/-- A task that is underway has not ended. -/
theorem not_mem_ended {pool : Pool τ σ α} (h : pool.history.IsOrderly) {ticket : Nat}
    (hunderway : ticket ∈ pool.underway) : ticket ∉ pool.ended := by
  have hdisjoint := (List.nodup_append.mp (h.started_perm.nodup_iff.mp h.started_nodup)).2.2
  exact fun hended => hdisjoint ticket hended ticket hunderway rfl

/-- A task that was started does not wait. -/
theorem ne_of_mem_started {pool : Pool τ σ α} (h : pool.history.IsOrderly) {ticket : Nat}
    (hstarted : ticket ∈ pool.started) {entry : Nat × τ} (hentry : entry ∈ pool.queue) :
    entry.1 ≠ ticket := by
  have hnodup := List.nodup_range (n := pool.accepted.length)
  have hall : pool.started ++ pool.queue.map Prod.fst = List.range pool.accepted.length :=
    h.started_append
  rw [← hall, List.nodup_append] at hnodup
  exact (hnodup.2.2 ticket hstarted entry.1 (List.mem_map_of_mem hentry)).symm

/-- A task that is underway does not wait. -/
theorem ne_of_mem_queue {pool : Pool τ σ α} (h : pool.history.IsOrderly) {ticket : Nat}
    (hunderway : ticket ∈ pool.underway) {entry : Nat × τ} (hentry : entry ∈ pool.queue) :
    entry.1 ≠ ticket :=
  ne_of_mem_started h (h.started_perm.mem_iff.mpr (List.mem_append_right _ hunderway)) hentry

/-! ## What can be reached -/

/-- A pool that no task was ever given to, and what its clients are about to do. -/
structure IsUnused (memory : σ) (clients : List (Job τ σ α)) (pool : Pool τ σ α) : Prop
    extends pool.IsReady memory clients where
  started_eq : pool.started = []
  ended_eq : pool.ended = []

theorem isUnused_start (size : Nat) (memory : σ) (clients : List (Job τ σ α)) :
    (start size memory clients).IsUnused memory clients :=
  ⟨isReady_start size memory clients, rfl, rfl⟩

variable {memory : σ} {clients : List (Job τ σ α)} {start pool : Pool τ σ α}
  {bodies : (τ → Job τ σ Unit) → Prop} {refused : List τ}

/-- While no worker runs a task, none is underway. -/
theorem underway_eq_nil (h : ∀ worker ∈ pool.workers, worker.isRunning = false) :
    pool.underway = [] := by
  rw [underway, List.filterMap_eq_nil_iff]
  intro worker hworker
  have hrunning := h worker hworker
  cases worker with
  | running => cases hrunning
  | _ => rfl

theorem IsUnused.underway_eq (h : pool.IsUnused memory clients) : pool.underway = [] :=
  underway_eq_nil h.isRunning_eq

theorem IsUnused.isOrderly (h : pool.IsUnused memory clients) : pool.history.IsOrderly where
  started_append := by simp [history, h.started_eq, h.queue_eq, h.accepted_eq]
  accepted_eq := by simp [history, h.queue_eq]
  started_perm := by simp [history, h.started_eq, h.ended_eq, h.underway_eq]

theorem Reached.isOrderly (h : Reached bodies start pool refused)
    (hstart : start.IsUnused memory clients) : pool.history.IsOrderly :=
  h.invariant (p := fun pool _ => pool.history.IsOrderly) hstart.isOrderly
    fun _ hmoves horderly => horderly.next hmoves.history

end Pool

end Concordance
