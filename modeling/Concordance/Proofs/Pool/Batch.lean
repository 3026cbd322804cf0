import Concordance.Proofs.Pool.Closing
import Concordance.Proofs.Pool.Return
import Concordance.Proofs.Pool.Settling
import Concordance.Proofs.Pool.Threads

/-!
# Batches of tasks

A client submits tasks and waits until the pool is idle. If it is the only one, and the tasks use the
pool for nothing themselves, then all of them have ended when it goes on. A crew that is there has
always come that far when it is done.

## Main definitions

* `Job.Works`: a job takes at most so many steps, none of which concerns the pool
* `Job.submitThen`: submits tasks, waits for them and goes on
* `Pool.BatchPhase`: how far the client of a batch has come
* `Pool.IsBatch`: a pool that works on a batch
* `Pool.HasReturned`: what a pool has done with a batch when it is done

## Main results

* `IsBatch.moves`: every event brings a batch on its way
* `IsBatch.length_run_le`: a batch takes a bounded number of steps
* `Crew.hasReturned_of_isLive`: what a crew has done when it is done with a batch
-/

namespace Concordance

variable {τ σ α β : Type}

/-! ## Jobs -/

namespace Job

/-- A job takes at most so many steps, none of which concerns the pool. -/
def Works : Job τ σ α → Nat → Prop
  | .finish _, n | .panic _, n => 1 ≤ n
  | .atomically _ next, n => ∃ m, m + 1 ≤ n ∧ ∀ memory, (next memory).Works m
  | .await _ next, n => ∃ m, m + 1 ≤ n ∧ next.Works m
  | .submit _ _, _ | .awaitIdle _, _ | .shutdown _, _ | .joinWorkers _, _ => False

theorem Works.mono {job : Job τ σ α} {m n : Nat} (h : job.Works m) (hle : m ≤ n) : job.Works n := by
  cases job with
  | finish | panic => exact Nat.le_trans h hle
  | atomically | await =>
    obtain ⟨k, hk, hnext⟩ := h
    exact ⟨k, by omega, hnext⟩
  | submit | awaitIdle | shutdown | joinWorkers => exact h

theorem Works.bind {job : Job τ σ α} {k : α → Job τ σ β} {m n : Nat} (h : job.Works m)
    (hk : ∀ value, (k value).Works n) : (job.bind k).Works (m + n) := by
  induction job generalizing m with
  | finish value => exact (hk value).mono (by omega)
  | panic => exact Nat.le_add_right_of_le h
  | atomically change next ih =>
    obtain ⟨l, hl, hnext⟩ := h
    exact ⟨l + n, by omega, fun memory => ih memory (hnext memory)⟩
  | await ready next ih =>
    obtain ⟨l, hl, hnext⟩ := h
    exact ⟨l + n, by omega, ih hnext⟩
  | submit | awaitIdle | shutdown | joinWorkers => exact h.elim

theorem Works.lasts {job : Job τ σ α} {n : Nat} (h : job.Works n) (mayIdle : Bool) :
    job.Lasts mayIdle true n := by
  induction job generalizing n with
  | finish | panic => exact h
  | atomically change next ih =>
    obtain ⟨m, hm, hnext⟩ := h
    exact ⟨m, hm, fun memory => ih memory (hnext memory)⟩
  | await ready next ih =>
    obtain ⟨m, hm, hnext⟩ := h
    exact ⟨rfl, m, hm, ih hnext⟩
  | submit | awaitIdle | shutdown | joinWorkers => exact h.elim

/-- Submits tasks until one is refused. If all were accepted, waits until no task is pending. -/
def submitThen (tasks : List τ) (k : Bool → Job τ σ α) : Job τ σ α :=
  match tasks with
  | [] => .awaitIdle (k true)
  | task :: rest => .submit task fun accepted => if accepted then submitThen rest k else k false

theorem runAll_bind (tasks : List τ) (k : Bool → Job τ σ α) :
    (runAll tasks).bind k = submitThen tasks k := by
  unfold runAll
  rw [bind_assoc]
  induction tasks with
  | nil => rfl
  | cons task rest ih =>
    rw [submitThen, ← ih]
    refine congrArg (submit task) (funext fun accepted => ?_)
    cases accepted <;> rfl

theorem submitThen_lasts {k : Bool → Job τ σ α} {mayAwait : Bool} {n : Nat}
    (hk : ∀ accepted, (k accepted).Lasts true mayAwait n) (tasks : List τ) :
    (submitThen tasks k).Lasts true mayAwait (3 * tasks.length + n + 2) := by
  induction tasks with
  | nil => exact ⟨rfl, n, by simp, hk true⟩
  | cons task rest ih =>
    refine ⟨3 * rest.length + n + 2, by simp; omega, fun accepted => ?_⟩
    cases accepted with
    | true => exact ih
    | false => exact (hk false).mono (by omega)

theorem changesOnly_submitThen {kind : (σ → σ) → Prop} {k : Bool → Job τ σ α}
    (hk : ∀ accepted, (k accepted).ChangesOnly kind) (tasks : List τ) :
    (submitThen tasks k).ChangesOnly kind := by
  induction tasks with
  | nil => exact hk true
  | cons task rest ih =>
    intro accepted
    cases accepted with
    | true => exact ih
    | false => exact hk false

end Job

/-- A thread takes at most so many steps, none of which concerns the pool. -/
def Activity.Works : Activity τ σ α → Nat → Prop
  | .running job, n => job.Works n
  | .done _, _ | .panicked _, _ => True
  | .notifyOne _, _ | .notifyAll _, _ | .idle _, _ | .joining _ _, _ => False

theorem Activity.Works.roused {activity : Activity τ σ α} {n : Nat} (h : activity.Works n) :
    activity.roused.Works n := by
  cases activity with
  | _ => exact h

theorem Activity.Works.lasts {activity : Activity τ σ α} {n : Nat} (h : activity.Works n)
    (mayIdle : Bool) : activity.Lasts mayIdle true n := by
  cases activity with
  | running => exact Job.Works.lasts h mayIdle
  | done | panicked => trivial
  | notifyOne | notifyAll | idle | joining => exact h.elim

namespace Pool

/-- A step that does not concern the pool may change its memory only. -/
theorem Advance.works {pool mid : Pool τ σ α} {self wakes : Option Nat}
    {activity activity' : Activity τ σ β} (h : pool.Advance self wakes activity mid activity')
    {n : Nat} (hworks : activity.Works n) :
    activity'.Works n ∧ mid = { pool with memory := mid.memory } := by
  cases h with
  | finish | panic => exact ⟨trivial, rfl⟩
  | atomically =>
    obtain ⟨m, hm, hnext⟩ := hworks
    exact ⟨(hnext _).mono (by omega), rfl⟩
  | await =>
    obtain ⟨m, hm, hnext⟩ := hworks
    exact ⟨hnext.mono (by omega), rfl⟩
  | _ => exact hworks.elim

/-! ## A pool that works on a batch -/

/-- How far the client of a batch has come. When it has seen the pool idle, it only reads the memory. -/
inductive BatchPhase (tasks : List τ) (k : Bool → Job τ σ α) (view : σ → α) (steps : Nat)
    (pool : Pool τ σ α) : Activity τ σ α → Prop
  | submits {rest : List τ} (h : pool.accepted ++ rest = tasks) :
    BatchPhase tasks k view steps pool (.running (.submitThen rest k))
  | signals {rest : List τ} (h : pool.accepted ++ rest = tasks) :
    BatchPhase tasks k view steps pool (.notifyOne (.submitThen rest k))
  | sleeps (h : pool.accepted = tasks) : BatchPhase tasks k view steps pool (.idle (k true))
  | reads {activity : Activity τ σ α} (h : pool.accepted = tasks) (hpending : pool.pending = 0)
    (hreads : activity.Reads pool.memory (view pool.memory))
    (hlasts : activity.Lasts true true steps) : BatchPhase tasks k view steps pool activity

/-- A pool that works on a batch: it has one client, and each task takes at most so many steps. -/
structure IsBatch (tasks : List τ) (k : Bool → Job τ σ α) (view : σ → α) (taskSteps steps : Nat)
    (pool : Pool τ σ α) : Prop where
  isShutdown_eq : pool.isShutdown = false
  client : ∃ activity, pool.clients = [activity] ∧ BatchPhase tasks k view steps pool activity
  task : ∀ ticket activity, .running ticket activity ∈ pool.workers → activity.Works taskSteps

variable {tasks : List τ} {k : Bool → Job τ σ α} {view : σ → α} {taskSteps steps : Nat}
  {body : τ → Job τ σ Unit} {pool next mid : Pool τ σ α} {event : Event}

/-- What does not change while the pool is idle, does not concern the client. -/
theorem BatchPhase.of_pending {activity : Activity τ σ α}
    (h : BatchPhase tasks k view steps pool activity) (haccepted : next.accepted = pool.accepted)
    (hidle : pool.pending = 0 → next.memory = pool.memory ∧ next.pending = 0) :
    BatchPhase tasks k view steps next activity := by
  cases h with
  | submits h => exact .submits (haccepted ▸ h)
  | signals h => exact .signals (haccepted ▸ h)
  | sleeps h => exact .sleeps (haccepted ▸ h)
  | reads h hpending hreads hlasts =>
    obtain ⟨hmemory, hpending'⟩ := hidle hpending
    exact .reads (haccepted ▸ h) hpending' (hmemory ▸ hreads) hlasts

theorem BatchPhase.roused {activity : Activity τ σ α}
    (h : BatchPhase tasks k view steps pool activity) :
    BatchPhase tasks k view steps pool activity.roused := by
  cases h with
  | submits h => exact .submits h
  | signals h => exact .signals h
  | sleeps h =>
    have hnil : pool.accepted ++ [] = tasks := by rw [List.append_nil, h]
    exact .submits hnil
  | @reads activity h hpending hreads hlasts =>
    cases activity with
    | idle => exact hreads.elim
    | _ => exact .reads h hpending hreads hlasts

/-- The step of a client that works through a batch. -/
theorem Advance.batchPhase {wakes : Option Nat} {activity activity' : Activity τ σ α}
    (h : pool.Advance none wakes activity mid activity') (hopen : pool.isShutdown = false)
    (hreads : ∀ memory, (k true).Reads memory (view memory)) (hlasts : (k true).Lasts true true steps)
    (hphase : BatchPhase tasks k view steps pool activity) :
    BatchPhase tasks k view steps mid activity' ∧ mid.isShutdown = false := by
  cases hphase with
  | @submits rest haccepted =>
    cases rest with
    | nil =>
      rw [List.append_nil] at haccepted
      cases h with
      | pass hpending => exact ⟨.reads haccepted hpending (hreads _) hlasts, hopen⟩
      | rest => exact ⟨.sleeps haccepted, hopen⟩
    | cons task rest =>
      cases h with
      | accept =>
        refine ⟨.signals ?_, hopen⟩
        rw [Pool.enqueue, List.append_assoc]
        exact haccepted
      | refuse hclosed =>
        rw [hopen] at hclosed
        cases hclosed
  | signals haccepted =>
    cases h with
    | wakeNone | wakeSome => exact ⟨.submits haccepted, hopen⟩
  | sleeps => cases h
  | reads haccepted hpending hreading hbound =>
    have hreading' := h.reads hreading
    obtain ⟨n, hbound', hle, -⟩ := h.lasts (fun _ => 0) hbound
    cases h with
    | finish | atomically =>
      obtain ⟨hreading', hmemory, -⟩ := hreading'
      refine ⟨.reads haccepted hpending ?_ (hbound'.mono (by omega)), hopen⟩
      rw [hmemory] at hreading' ⊢
      exact hreading'
    | _ => exact hreading.elim

/-- Workers do something, none of them with a task that it had not before. -/
theorem IsBatch.of_workers (h : pool.IsBatch tasks k view taskSteps steps)
    (hshutdown : next.isShutdown = pool.isShutdown) (hclients : next.clients = pool.clients)
    (haccepted : next.accepted = pool.accepted)
    (hidle : pool.pending = 0 → next.memory = pool.memory ∧ next.pending = 0)
    (htask : ∀ ticket activity, .running ticket activity ∈ next.workers →
      activity.Works taskSteps) : next.IsBatch tasks k view taskSteps steps := by
  obtain ⟨activity, hactivity, hphase⟩ := h.client
  exact ⟨hshutdown.trans h.isShutdown_eq,
    ⟨activity, hclients.trans hactivity, hphase.of_pending haccepted hidle⟩, htask⟩

/-- What a worker runs after it has changed. -/
theorem works_set {workers : List (Worker τ σ)} {i n : Nat} {worker : Worker τ σ}
    (htask : ∀ ticket (activity : Activity τ σ Unit), .running ticket activity ∈ workers →
      activity.Works n)
    (hworker : ∀ ticket activity, worker = .running ticket activity → activity.Works n) :
    ∀ ticket activity, .running ticket activity ∈ workers.set i worker → activity.Works n := by
  intro ticket activity hmem
  rcases List.mem_or_eq_of_mem_set hmem with hmem | heq
  · exact htask ticket activity hmem
  · exact hworker ticket activity heq.symm

/-- A task ends, so the pool was not idle. -/
theorem IsBatch.endTask (h : pool.IsBatch tasks k view taskSteps steps) (hpending : pool.pending ≠ 0)
    (ticket : Nat) : (pool.endTask ticket).IsBatch tasks k view taskSteps steps := by
  obtain ⟨activity, hactivity, hphase⟩ := h.client
  unfold Pool.endTask
  dsimp only
  split
  · refine ⟨h.isShutdown_eq, ⟨activity.roused, by simp [hactivity], ?_⟩, ?_⟩
    · exact hphase.roused.of_pending rfl fun hidle => absurd hidle hpending
    · intro t roused hmem
      obtain ⟨worker, hworker, heq⟩ := List.mem_map.mp hmem
      cases worker with
      | running t' before =>
        cases heq
        exact (h.task _ _ hworker).roused
      | _ => cases heq
  · exact h.of_workers rfl rfl rfl (fun hidle => absurd hidle hpending) h.task

/-- **Every event brings a batch on its way**, or leaves it where it is. -/
theorem IsBatch.moves (hmoves : pool.Moves body event next) (hcounted : pool.IsCounted)
    (hbody : ∀ task, (body task).Works taskSteps)
    (hreads : ∀ memory, (k true).Reads memory (view memory)) (hlasts : (k true).Lasts true true steps)
    (h : pool.IsBatch tasks k view taskSteps steps) : next.IsBatch tasks k view taskSteps steps := by
  obtain ⟨activity, hactivity, hphase⟩ := h.client
  have hclient : ∀ {i : Nat} {a : Activity τ σ α}, pool.clients[i]? = some a →
      i = 0 ∧ a = activity := by
    intro i a hi
    rw [hactivity] at hi
    cases i with
    | zero => exact ⟨rfl, (Option.some.inj hi).symm⟩
    | succ i => simp at hi
  -- The client may have seen the pool idle only if nothing is pending. Whatever a worker does with a
  -- task is done while this task is pending, and so is no concern of a client that has.
  cases hmoves with
  | @client i wakes before after mid hi hadvance =>
    obtain ⟨rfl, rfl⟩ := hclient hi
    obtain ⟨hphase', hopen⟩ := hadvance.batchPhase h.isShutdown_eq hreads hlasts hphase
    refine ⟨hopen, ⟨after, ?_, hphase'.of_pending rfl fun hidle => ⟨rfl, hidle⟩⟩, ?_⟩
    · dsimp only
      rw [hadvance.clients_eq, hactivity]
      rfl
    · intro ticket a hmem
      obtain ⟨j, hj⟩ := List.mem_iff_getElem?.mp hmem
      exact h.task ticket a (List.mem_of_getElem? (hadvance.running_of_running hj))
  | @task i wakes ticket before after mid hi hadvance =>
    obtain ⟨hworks, hmid⟩ := hadvance.works (h.task ticket before (List.mem_of_getElem? hi))
    rw [hmid]
    have hpending := hcounted.pending_ne_zero hi
    refine h.of_workers rfl rfl rfl (fun hidle => absurd hidle hpending) (works_set h.task ?_)
    rintro _ _ ⟨⟩
    exact hworks
  | @take i wakes ticket task queue hi hqueue =>
    have hpending : pool.pending ≠ 0 := by
      intro hidle
      have hempty := (hcounted.idle hidle).1
      rw [hqueue] at hempty
      cases hempty
    refine h.of_workers rfl rfl rfl (fun hidle => absurd hidle hpending) (works_set h.task ?_)
    rintro _ _ ⟨⟩
    exact hbody task
  | doze | leave | rouseWorker =>
    exact h.of_workers rfl rfl rfl (fun hidle => ⟨rfl, hidle⟩) (works_set h.task (by simp))
  | @done i wakes ticket hi =>
    have hlooking : ({ pool with workers := pool.workers.set i .looking } : Pool τ σ α).IsBatch
        tasks k view taskSteps steps :=
      h.of_workers rfl rfl rfl (fun hidle => ⟨rfl, hidle⟩) (works_set h.task (by simp))
    exact hlooking.endTask (hcounted.pending_ne_zero hi) _
  | @panicked i wakes ticket payload hi =>
    have hlooking : ({ pool with
        workers := pool.workers.set i .looking
        panics := pool.panics ++ [(i, payload)] } : Pool τ σ α).IsBatch
        tasks k view taskSteps steps :=
      h.of_workers rfl rfl rfl (fun hidle => ⟨rfl, hidle⟩) (works_set h.task (by simp))
    exact hlooking.endTask (hcounted.pending_ne_zero hi) _
  | @rouseClient i job hi =>
    obtain ⟨rfl, rfl⟩ := hclient hi
    refine ⟨h.isShutdown_eq, ⟨_, by dsimp only; rw [hactivity]; rfl, ?_⟩, h.task⟩
    exact hphase.roused.of_pending rfl fun hidle => ⟨rfl, hidle⟩
  | rouseTask hi =>
    -- no task waits until the pool is idle
    exact (h.task _ _ (List.mem_of_getElem? hi)).elim

theorem IsReady.isBatch {memory : σ} (h : pool.IsReady memory [(Job.runAll tasks).bind k])
    (hopen : pool.isShutdown = false) : pool.IsBatch tasks k view taskSteps steps where
  isShutdown_eq := hopen
  client := by
    refine ⟨.running ((Job.runAll tasks).bind k), h.clients_eq, ?_⟩
    rw [Job.runAll_bind]
    apply BatchPhase.submits
    rw [h.accepted_eq, List.nil_append]
  task ticket activity hactivity := by
    have hrunning := h.isRunning_eq _ hactivity
    cases hrunning

theorem Reached.isBatch {start : Pool τ σ α} {refused : List τ}
    (h : Reached (· = body) start pool refused) (hbody : ∀ task, (body task).Works taskSteps)
    (hreads : ∀ memory, (k true).Reads memory (view memory)) (hlasts : (k true).Lasts true true steps)
    (hcounted : start.IsCounted) (hstart : start.IsBatch tasks k view taskSteps steps) :
    pool.IsBatch tasks k view taskSteps steps := by
  refine (h.invariant (p := fun pool _ =>
    pool.IsCounted ∧ pool.IsBatch tasks k view taskSteps steps) ⟨hcounted, hstart⟩ ?_).2
  rintro _ pool next refused event rfl hmoves ⟨hcounted, hbatch⟩
  exact ⟨hcounted.moves hmoves, hbatch.moves hmoves hcounted hbody hreads hlasts⟩

/-! ## How long a batch lasts -/

theorem IsBatch.exists_append (h : pool.IsBatch tasks k view taskSteps steps) :
    ∃ rest, pool.accepted ++ rest = tasks := by
  obtain ⟨activity, -, hphase⟩ := h.client
  cases hphase with
  | submits h | signals h => exact ⟨_, h⟩
  | sleeps h | reads h => exact ⟨[], by rw [List.append_nil, h]⟩

theorem BatchPhase.lasts {activity : Activity τ σ α}
    (h : BatchPhase tasks k view steps pool activity)
    (hk : ∀ accepted, (k accepted).Lasts true true steps) :
    activity.Lasts true true (3 * tasks.length + steps + 4) := by
  have hrest : ∀ {rest : List τ}, pool.accepted ++ rest = tasks → rest.length ≤ tasks.length := by
    rintro rest rfl
    simp
  cases h with
  | submits h =>
    have hle := hrest h
    exact (Job.submitThen_lasts hk _).mono (by omega)
  | signals h =>
    have hle := hrest h
    exact ⟨_, by omega, Job.submitThen_lasts hk _⟩
  | sleeps => exact ⟨rfl, steps, by omega, hk true⟩
  | reads _ _ _ hlasts => exact hlasts.mono (by omega)

/-- The client waits for the pool only. -/
theorem BatchPhase.waitsIn_eq {activity : Activity τ σ α}
    (h : BatchPhase tasks k view steps pool activity) (memory : σ) :
    activity.waitsIn memory = false := by
  cases h with
  | @submits rest =>
    cases rest with
    | _ => rfl
  | signals | sleeps => rfl
  | reads _ _ hreads =>
    cases activity with
    | running job =>
      cases job with
      | await => exact hreads.elim
      | _ => rfl
    | _ => rfl

theorem costs_const (cost : Nat) (tasks : List τ) :
    costs (fun _ => cost) tasks = tasks.length * cost := by
  simp [costs]

theorem IsBatch.lasts (h : pool.IsBatch tasks k view taskSteps steps)
    (hk : ∀ accepted, (k accepted).Lasts true true steps) :
    pool.Lasts true (fun _ => taskSteps + 3) 1 (pool.size * (taskSteps + 3) +
      (3 * tasks.length + steps + 4) + pool.queue.length * (taskSteps + 3)) := by
  obtain ⟨activity, hactivity, hphase⟩ := h.client
  have hworkers : ∀ worker ∈ pool.workers, worker.Lasts true 1 (taskSteps + 3) := by
    intro worker hworker
    cases worker with
    | looking => exact Nat.le_add_left 1 _
    | asleep | exited => trivial
    | running ticket activity =>
      exact ⟨taskSteps, Nat.le_refl _, (h.task ticket activity hworker).lasts false⟩
  refine ⟨_, 3 * tasks.length + steps + 4 + 0, .of_forall hworkers, ?_, by rw [hactivity]; rfl, ?_⟩
  · rw [hactivity]
    exact .cons (hphase.lasts hk) .nil
  · simp [costs_const, waiting, size]

/-- **A batch takes a bounded number of steps**, and two more for each thread that wakes for no
reason. -/
theorem IsBatch.length_run_le {events : List Event}
    (h : pool.IsBatch tasks k view taskSteps steps) (hcounted : pool.IsCounted)
    (horderly : pool.history.IsOrderly) (hbody : ∀ task, (body task).Works taskSteps)
    (hreads : ∀ memory, (k true).Reads memory (view memory))
    (hk : ∀ accepted, (k accepted).Lasts true true steps)
    (hrun : pool.run body events = some next) :
    events.length ≤ (pool.size + tasks.length) * (taskSteps + 3) + 3 * tasks.length + steps + 4 +
      2 * events.countP Event.isSpurious := by
  have hcost : ∀ task : τ, ∃ m, m + 1 + 2 ≤ taskSteps + 3 ∧ (body task).Lasts false true m :=
    fun task => ⟨taskSteps, Nat.le_refl _, (hbody task).lasts false⟩
  have hlength := (h.lasts hk).run hrun hcost
  rw [costs_const, costs_const] at hlength
  have hqueue : pool.queue.length ≤ pool.accepted.length := by
    have heq := congrArg List.length horderly.started_append
    rw [List.length_append, List.length_map, List.length_range] at heq
    exact Nat.le_trans (Nat.le_add_left _ _) (Nat.le_of_eq heq)
  have haccepted : next.accepted.length ≤ tasks.length := by
    have hreached : Reached (· = body) pool next _ := .of_run (by rfl) hrun
    obtain ⟨rest, hrest⟩ := (hreached.isBatch hbody hreads (hk true) hcounted h).exists_append
    rw [← hrest, List.length_append]
    omega
  have hqueue' := Nat.mul_le_mul_right (taskSteps + 3) hqueue
  have haccepted' := Nat.mul_le_mul_right (taskSteps + 3) haccepted
  rw [Nat.add_mul]
  omega

/-! ## What a crew has done when it is done -/

/-- What a pool has done with a batch when it is done. -/
structure HasReturned (tasks : List τ) (view : σ → α) (pool : Pool τ σ α) : Prop where
  result_eq : pool.result? 0 = some (view pool.memory)
  accepted_eq : pool.accepted = tasks
  pending_eq : pool.pending = 0
  ended_perm : pool.ended.Perm (List.range tasks.length)

/-- In a pool at rest a batch is done, unless somebody waits for what the memory has not. -/
theorem IsBatch.hasReturned (h : pool.IsBatch tasks k view taskSteps steps)
    (hk : ∀ accepted, (k accepted).Lasts true true steps) (hstuck : pool.IsStuck body)
    (hready : ∀ ticket activity, .running ticket activity ∈ pool.workers →
      activity.waitsIn pool.memory = false) (hcounted : pool.IsCounted)
    (hattended : pool.IsAttended) (hvacated : pool.IsVacated) (horderly : pool.history.IsOrderly)
    (hworkers : pool.workers ≠ []) : pool.HasReturned tasks view := by
  -- nobody waits for the memory, and a worker is left: so at rest nothing is pending
  have hnobody : pool.WaitsForNothing := by
    refine ⟨fun activity hactivity => ?_, hready⟩
    obtain ⟨client, hclient, hphase⟩ := h.client
    rw [hclient] at hactivity
    rw [List.mem_singleton.mp hactivity]
    exact hphase.waitsIn_eq pool.memory
  have hstaffed : .exited ∉ pool.workers := by
    intro hexited
    have hclosed := (hvacated hexited).1
    rw [h.isShutdown_eq] at hclosed
    cases hclosed
  obtain ⟨hpending, hthrough⟩ :=
    hstuck.through (h.lasts hk) hnobody hcounted hattended hstaffed hworkers
  obtain ⟨hqueue, hidle⟩ := hcounted.idle hpending
  obtain ⟨activity, hactivity, hphase⟩ := h.client
  have hend := hthrough activity (by rw [hactivity]; exact List.mem_singleton.mpr rfl)
  -- the client is through, so it has read the memory
  cases hphase with
  | submits | signals | sleeps => cases hend
  | reads haccepted _ hreads =>
    refine ⟨?_, haccepted, hpending, ?_⟩
    · cases activity with
      | done value =>
        rw [result?, hactivity]
        exact congrArg some hreads
      | panicked => exact hreads.elim
      | _ => cases hend
    · have hperm := horderly.ended_perm hqueue (underway_eq_nil hidle)
      have haccepted' : pool.history.accepted = tasks := haccepted
      rw [haccepted'] at hperm
      exact hperm

end Pool

namespace Crew

variable {tasks : List τ} {k : Bool → Job τ σ α} {view : σ → α} {taskSteps steps : Nat}
  {body : τ → Job τ σ Unit} {crew : Crew}

theorem le_eventsFor {size tasks taskSteps steps : Nat} (h : taskSteps + steps ≤ 24) :
    (max size 1 + tasks) * (taskSteps + 3) + 3 * tasks + steps + 4 ≤ Pool.eventsFor size tasks := by
  have hsize : max size 1 + tasks ≤ size + tasks + 1 := by omega
  have hwork := Nat.mul_le_mul_right (taskSteps + 3) hsize
  have hbound : (size + tasks + 1) * (taskSteps + 3 + steps) ≤ (size + tasks + 1) * 27 :=
    Nat.mul_le_mul_left _ (by omega)
  have hsteps : steps ≤ (size + tasks + 1) * steps := Nat.le_mul_of_pos_left _ (by omega)
  rw [Nat.mul_add _ _ steps] at hbound
  rw [Pool.eventsFor]
  omega

/-- **A crew that is there is done with a batch when it has come to rest**, whatever was laid down for
its threads, if no task waits then for what the memory has not. -/
theorem hasReturned_of_isLive (hlive : crew.isLive = true) (memory : σ)
    (hbody : ∀ task, (body task).Works taskSteps)
    (hreads : ∀ memory, (k true).Reads memory (view memory))
    (hk : ∀ accepted, (k accepted).Lasts true true steps) (hsteps : taskSteps + steps ≤ 24)
    (hready : ∀ (pool : Pool τ σ α) (refused : List τ),
      Pool.Reached (· = body) (.start crew.size memory [(Job.runAll tasks).bind k]) pool refused →
      pool.IsBatch tasks k view taskSteps steps → pool.IsStuck body →
      ∀ ticket activity, .running ticket activity ∈ pool.workers →
        activity.waitsIn pool.memory = false) :
    let pool := crew.work body (Pool.eventsFor crew.size tasks.length) memory
      ((Job.runAll tasks).bind k)
    ∃ refused, Pool.Reached (· = body) (.start crew.size memory [(Job.runAll tasks).bind k]) pool
        refused ∧
      pool.IsBatch tasks k view taskSteps steps ∧ pool.IsStuck body ∧ pool.HasReturned tasks view := by
  intro pool
  let client := (Job.runAll tasks).bind k
  have hstart : (Pool.start crew.size memory [client]).IsUnused memory [client] :=
    Pool.isUnused_start crew.size memory [client]
  have hbatch : (Pool.start crew.size memory [client]).IsBatch tasks k view taskSteps steps :=
    hstart.isBatch rfl
  -- the schedule leads to some state of the batch, and the pool settles from there
  let mid := (Pool.start crew.size memory [client]).follow body crew.schedule
  have hpool : pool = mid.settle body (Pool.eventsFor crew.size tasks.length) := by
    simp [pool, mid, client, work, Crew.pool, hlive]
  obtain ⟨events, hevents⟩ :=
    Pool.exists_run_follow body (Pool.start crew.size memory [client]) crew.schedule
  have hmid : Pool.Reached (· = body) (Pool.start crew.size memory [client]) mid _ :=
    .of_run (by rfl) hevents
  have hsize : mid.size = max crew.size 1 := by rw [hmid.size_eq, Pool.size_start]
  have hstuck : (mid.settle body (Pool.eventsFor crew.size tasks.length)).IsStuck body := by
    apply Pool.isStuck_settle
    intro events next hrun hspurious
    have hmidBatch := hmid.isBatch hbody hreads (hk true) hstart.isCounted hbatch
    have hle := hmidBatch.length_run_le (hmid.isCounted hstart.isCounted) (hmid.isOrderly hstart)
      hbody hreads hk hrun
    rw [hsize, hspurious] at hle
    exact Nat.le_trans hle (le_eventsFor hsteps)
  obtain ⟨more, hmore⟩ := Pool.exists_run_settle body mid (Pool.eventsFor crew.size tasks.length)
  have hreached := hmid.trans (.of_run (by rfl) hmore)
  rw [← hpool] at hstuck hreached
  have hworkers : pool.workers ≠ [] := by
    have hlength : pool.workers.length = max crew.size 1 := by
      have heq := hreached.size_eq
      rw [Pool.size_start] at heq
      exact heq
    rw [← List.length_pos_iff, hlength]
    omega
  have hend := hreached.isBatch hbody hreads (hk true) hstart.isCounted hbatch
  have hreturned := hend.hasReturned hk hstuck (hready pool _ hreached hend hstuck)
    (hreached.isCounted hstart.isCounted) (hreached.isAttended hstart.isAttended)
    (hreached.isVacated hstart.isVacated) (hreached.isOrderly hstart) hworkers
  exact ⟨_, hreached, hend, hstuck, hreturned⟩

end Crew

end Concordance
