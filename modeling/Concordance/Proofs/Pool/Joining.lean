import Concordance.Proofs.Pool.Execution

/-!
# Waiting for the workers

A thread that waits for the workers takes their handles along and waits for one after the other. When it
is through, all workers have left, nothing waits in the queue, and every task has ended. Only one thread
can take the handles. Whoever comes later finds none and goes on at once, even if the workers still have
work to do.

## Main definitions

* `Job.NeverJoins`: a job that does not wait for workers
* `Activity.handles`: the workers that a thread waits for
* `Pool.Hands`: what an event does to the handles
* `Pool.IsAwaited`: who waits for which workers
* `Pool.IsOver`: no worker and no task is left

## Main results

* `Moves.hands`: the handles are taken all at once, and given back one by one
* `exists_joined_while_working`: a thread that comes later does not wait
* `joins_of_reached`: a thread is through when everything is over, unless another one took the handles
-/

namespace Concordance

variable {τ σ α β : Type}

/-- A job that does not wait for workers. -/
def Job.NeverJoins : Job τ σ α → Prop
  | .finish _ | .panic _ => True
  | .atomically _ next => ∀ memory, (next memory).NeverJoins
  | .submit _ next => ∀ accepted, (next accepted).NeverJoins
  | .await _ next | .awaitIdle next | .shutdown next => next.NeverJoins
  | .joinWorkers _ => False

namespace Activity

/-- A thread that does not wait for workers, and is not going to. -/
def NeverJoins : Activity τ σ α → Prop
  | .running job | .notifyOne job | .notifyAll job | .idle job => job.NeverJoins
  | .joining _ _ => False
  | .done _ | .panicked _ => True

/-- The workers that a thread waits for. -/
def handles : Activity τ σ α → List Nat
  | .joining handles _ => handles
  | _ => []

/-- Whether a thread has asked for workers to wait for, and is not through. -/
def isJoining : Activity τ σ α → Bool
  | .joining _ _ => true
  | _ => false

theorem NeverJoins.roused {activity : Activity τ σ α} (h : activity.NeverJoins) :
    activity.roused.NeverJoins := by
  cases activity with
  | _ => exact h

theorem handles_roused (activity : Activity τ σ α) : activity.roused.handles = activity.handles := by
  cases activity <;> rfl

theorem isJoining_roused (activity : Activity τ σ α) :
    activity.roused.isJoining = activity.isJoining := by
  cases activity <;> rfl

end Activity

namespace Pool

variable {body : τ → Job τ σ Unit} {pool next : Pool τ σ α} {event : Event}

/-! ## Workers that have left -/

theorem hasExited_iff {w : Nat} : pool.hasExited w = true ↔ pool.workers[w]? = some .exited := by
  unfold hasExited
  split
  · next h => simp [h]
  · next h => simpa using fun heq => h heq

/-- What another worker does, a worker that has left stays away. -/
theorem exited_set {workers : List (Worker τ σ)} {w i : Nat} {worker : Worker τ σ}
    (hw : workers[w]? = some .exited) (hi : workers[i]? = some worker) (hne : worker ≠ .exited)
    (worker' : Worker τ σ) : (workers.set i worker')[w]? = some .exited := by
  have hother : i ≠ w := by
    rintro rfl
    rw [hi] at hw
    exact hne (Option.some.inj hw)
  rw [List.getElem?_set_ne hother, hw]

theorem Advance.exited {mid : Pool τ σ α} {self wakes : Option Nat} {activity activity' : Activity τ σ β}
    (h : pool.Advance self wakes activity mid activity') {w : Nat}
    (hw : pool.workers[w]? = some .exited) : mid.workers[w]? = some .exited := by
  cases h with
  | wakeSome hasleep => exact exited_set hw hasleep (by simp) _
  | wakeAll => simp [Pool.wakeAll, hw, Worker.woken]
  | _ => exact hw

theorem exited_endTask {w : Nat} (hw : pool.workers[w]? = some .exited) (ticket : Nat) :
    (pool.endTask ticket).workers[w]? = some .exited := by
  rcases pool.workers_endTask ticket with heq | heq
  · rw [heq, hw]
  · rw [heq, List.getElem?_map, hw]
    rfl

/-- A worker that has left does not come back. -/
theorem Moves.exited (h : pool.Moves body event next) {w : Nat} (hw : pool.hasExited w = true) :
    next.hasExited w = true := by
  rw [hasExited_iff] at hw ⊢
  cases h with
  | client hi hadvance => exact hadvance.exited hw
  | task hi hadvance => exact exited_set (hadvance.exited hw) (hadvance.running hi) (by simp) _
  | take hi | doze hi | leave hi | rouseWorker hi | rouseTask hi => exact exited_set hw hi (by simp) _
  | done hi => exact exited_endTask (exited_set hw hi (by simp) _) _
  | panicked hi => exact exited_endTask (exited_set hw hi (by simp) _) _
  | rouseClient => exact hw

/-! ## What an event does to the handles -/

/-- A thread may be through with waiting for a worker that has left. It asks for no others. -/
structure Waits (pool : Pool τ σ α) (activity activity' : Activity τ σ β) : Prop where
  isJoining_of : activity'.isJoining = true → activity.isJoining = true
  handles_eq : activity'.handles = activity.handles ∨
    ∃ w, pool.hasExited w = true ∧ activity.handles = w :: activity'.handles

theorem Waits.refl (pool : Pool τ σ α) (activity : Activity τ σ β) : pool.Waits activity activity :=
  ⟨id, .inl rfl⟩

theorem Waits.roused (pool : Pool τ σ α) (activity : Activity τ σ β) :
    pool.Waits activity activity.roused :=
  ⟨fun h => by rwa [activity.isJoining_roused] at h, .inl activity.handles_roused⟩

/-- What an event does to the handles: a client takes all that are there, or they stay where they are, and
threads may be through with waiting. -/
inductive Hands (pool : Pool τ σ α) : Pool τ σ α → Prop
  | takes {i : Nat} {job : Job τ σ α} (h : pool.clients[i]? = some (.running (.joinWorkers job))) :
    Hands pool { pool with
      handles := [], clients := pool.clients.set i (.joining pool.handles job) }
  | keeps {next : Pool τ σ α} (handles_eq : next.handles = pool.handles)
    (h : ∀ (i : Nat) (activity' : Activity τ σ α), next.clients[i]? = some activity' →
      ∃ activity, pool.clients[i]? = some activity ∧ pool.Waits activity activity') : Hands pool next

/-- The tasks of a pool do not wait for workers. -/
def HasFreeTasks (pool : Pool τ σ α) : Prop :=
  ∀ (i ticket : Nat) (activity : Activity τ σ Unit),
    pool.workers[i]? = some (.running ticket activity) → activity.NeverJoins

/-- A step of a client. -/
theorem Advance.hands {mid : Pool τ σ α} {wakes : Option Nat} {activity activity' : Activity τ σ α}
    (h : pool.Advance none wakes activity mid activity') :
    (∃ job, activity = .running (.joinWorkers job) ∧ activity' = .joining pool.handles job ∧
      mid = { pool with handles := [] }) ∨ mid.handles = pool.handles ∧ pool.Waits activity activity' := by
  cases h with
  | @takeHandles job => exact .inl ⟨job, rfl, rfl, rfl⟩
  | @join worker handles next hexited =>
    refine .inr ⟨rfl, id, .inr ⟨worker, ?_, rfl⟩⟩
    rcases hexited with hself | hexited
    · cases hself
    · exact hexited
  | _ => exact .inr ⟨rfl, nofun, .inl rfl⟩

/-- A step of a task. -/
theorem Advance.neverJoins {mid : Pool τ σ α} {self wakes : Option Nat}
    {activity activity' : Activity τ σ β} (h : pool.Advance self wakes activity mid activity')
    (hnever : activity.NeverJoins) : activity'.NeverJoins ∧ mid.handles = pool.handles := by
  cases h with
  | finish | panic => exact ⟨trivial, rfl⟩
  | atomically => exact ⟨hnever _, rfl⟩
  | accept | refuse => exact ⟨hnever _, rfl⟩
  | takeHandles | joined | join => exact hnever.elim
  | _ => exact ⟨hnever, rfl⟩

/-- **The handles are taken all at once, and threads are through with them one by one.** -/
theorem Moves.hands (h : pool.Moves body event next) (htasks : pool.HasFreeTasks) :
    pool.Hands next := by
  have hsame : ∀ {later : Pool τ σ α}, later.handles = pool.handles → later.clients = pool.clients →
      pool.Hands later := by
    intro later hhandles hclients
    refine .keeps hhandles fun i activity hi => ⟨activity, ?_, .refl pool activity⟩
    rwa [← hclients]
  have hended : ∀ (mid : Pool τ σ α) ticket, mid.handles = pool.handles → mid.clients = pool.clients →
      pool.Hands (mid.endTask ticket) := by
    intro mid ticket hhandles hclients
    rcases mid.clients_endTask ticket with heq | heq
    · exact hsame ((handles_endTask mid ticket).trans hhandles) (heq.trans hclients)
    · refine .keeps ((handles_endTask mid ticket).trans hhandles) fun i activity' hi => ?_
      rw [heq, hclients, List.getElem?_map] at hi
      obtain ⟨activity, hactivity, rfl⟩ := Option.map_eq_some_iff.mp hi
      exact ⟨activity, hactivity, .roused pool activity⟩
  cases h with
  | @client i wakes activity activity' mid hi hadvance =>
    rcases hadvance.hands with ⟨job, rfl, rfl, rfl⟩ | ⟨hhandles, hwaits⟩
    · exact .takes hi
    · refine .keeps hhandles fun j other hj => ?_
      rcases eq_or_of_getElem?_set hj with ⟨rfl, rfl⟩ | hj
      · exact ⟨activity, hi, hwaits⟩
      · rw [hadvance.clients_eq] at hj
        exact ⟨other, hj, .refl pool other⟩
  | task hi hadvance =>
    exact hsame (hadvance.neverJoins (htasks _ _ _ hi)).2 hadvance.clients_eq
  | done | panicked => exact hended _ _ rfl rfl
  | rouseClient hi =>
    refine .keeps rfl fun j other hj => ?_
    rcases eq_or_of_getElem?_set hj with ⟨rfl, rfl⟩ | hj
    · exact ⟨_, hi, .roused pool _⟩
    · exact ⟨other, hj, .refl pool other⟩
  | take | doze | leave | rouseWorker | rouseTask => exact hsame rfl rfl

theorem Continues.neverJoins {self : Option Nat} {activity activity' : Activity τ σ β}
    (h : Continues pool next self activity activity') (hnever : activity.NeverJoins) :
    activity'.NeverJoins := by
  cases h with
  | stays => exact hnever
  | roused => exact hnever.roused
  | advances hadvance => exact (hadvance.neverJoins hnever).1

theorem HasFreeTasks.moves (hmoves : pool.Moves body event next)
    (hbody : ∀ task, (body task).NeverJoins) (h : pool.HasFreeTasks) : next.HasFreeTasks := by
  intro i ticket activity' hi
  rcases hmoves.task_continues hi with ⟨activity, hactivity, hcontinues⟩ | ⟨task, -, -, -, rfl, -⟩
  · exact hcontinues.neverJoins (h i ticket activity hactivity)
  · exact hbody task

/-! ## Who waits for whom -/

/-- Who waits for which workers, in a state of a pool. -/
structure IsAwaited (pool : Pool τ σ α) : Prop where
  hasFreeTasks : pool.HasFreeTasks
  /-- Every worker that has not left can still be waited for, or a client does. -/
  worker : ∀ w < pool.size, w ∈ pool.handles ∨ pool.hasExited w = true ∨
    ∃ (i : Nat) (activity : Activity τ σ α), pool.clients[i]? = some activity ∧ w ∈ activity.handles
  /-- Once a client has asked for the handles, they are taken. -/
  taken : ∀ (i : Nat) (activity : Activity τ σ α), pool.clients[i]? = some activity →
    activity.isJoining = true → pool.handles = []

theorem Waits.mem_handles {activity activity' : Activity τ σ β} (h : pool.Waits activity activity')
    {w : Nat} (hw : w ∈ activity.handles) : w ∈ activity'.handles ∨ pool.hasExited w = true := by
  rcases h.handles_eq with heq | ⟨left, hleft, heq⟩
  · exact .inl (heq ▸ hw)
  · rw [heq] at hw
    rcases List.mem_cons.mp hw with rfl | hw
    · exact .inr hleft
    · exact .inl hw

theorem IsAwaited.moves (hmoves : pool.Moves body event next)
    (hbody : ∀ task, (body task).NeverJoins) (h : pool.IsAwaited) : next.IsAwaited := by
  have htasks := h.hasFreeTasks.moves hmoves hbody
  have hexited : ∀ {w}, pool.hasExited w = true → next.hasExited w = true := hmoves.exited
  have hsize := hmoves.size_eq
  have hthere : ∀ {i : Nat} {activity : Activity τ σ α}, pool.clients[i]? = some activity →
      ∃ activity', next.clients[i]? = some activity' := by
    intro i activity hi
    obtain ⟨activity', hi', -⟩ := hmoves.exists_client_continues hi
    exact ⟨activity', hi'⟩
  have hhands := hmoves.hands h.hasFreeTasks
  clear hmoves
  cases hhands with
  | @takes i job hi =>
    have hlength := (List.getElem?_eq_some_iff.mp hi).1
    refine ⟨htasks, fun w hw => ?_, fun _ _ _ _ => rfl⟩
    rcases h.worker w (hsize ▸ hw) with hhandle | hleft | ⟨j, activity, hj, hmem⟩
    · exact .inr (.inr ⟨i, _, List.getElem?_set_self hlength, hhandle⟩)
    · exact .inr (.inl (hexited hleft))
    · -- whoever waits already is not the one that takes the handles
      have hne : i ≠ j := by
        rintro rfl
        rw [hi] at hj
        cases hj
        cases hmem
      exact .inr (.inr ⟨j, activity, (List.getElem?_set_ne hne).trans hj, hmem⟩)
  | keeps hhandles hclients =>
    refine ⟨htasks, fun w hw => ?_, fun i activity' hi hjoining => ?_⟩
    · rcases h.worker w (hsize ▸ hw) with hhandle | hleft | ⟨j, activity, hj, hmem⟩
      · exact .inl (hhandles ▸ hhandle)
      · exact .inr (.inl (hexited hleft))
      · obtain ⟨activity', hj'⟩ := hthere hj
        obtain ⟨before, hbefore, hwaits⟩ := hclients j activity' hj'
        obtain rfl : activity = before := Option.some.inj (hj.symm.trans hbefore)
        rcases hwaits.mem_handles hmem with hmem | hleft
        · exact .inr (.inr ⟨j, activity', hj', hmem⟩)
        · exact .inr (.inl (hexited hleft))
    · obtain ⟨activity, hactivity, hwaits⟩ := hclients i activity' hi
      exact hhandles.trans (h.taken i activity hactivity (hwaits.isJoining_of hjoining))

/-- The handles were taken, and nobody waits but one client. -/
structure IsLeftTo (i : Nat) (pool : Pool τ σ α) : Prop where
  handles_eq : pool.handles = []
  other : ∀ (j : Nat) (activity : Activity τ σ α), j ≠ i → pool.clients[j]? = some activity →
    activity.handles = []

theorem Waits.handles_eq_nil {activity activity' : Activity τ σ β} (h : pool.Waits activity activity')
    (hnone : activity.handles = []) : activity'.handles = [] := by
  rcases h.handles_eq with heq | ⟨w, -, heq⟩
  · exact heq.trans hnone
  · rw [hnone] at heq
    cases heq

/-- Whoever asks later finds no handles. -/
theorem IsLeftTo.moves (hmoves : pool.Moves body event next) (htasks : pool.HasFreeTasks) {i : Nat}
    (h : pool.IsLeftTo i) : next.IsLeftTo i := by
  cases hmoves.hands htasks with
  | @takes k job hk =>
    refine ⟨rfl, fun j activity hne hj => ?_⟩
    rcases eq_or_of_getElem?_set hj with ⟨-, rfl⟩ | hj
    · exact h.handles_eq
    · exact h.other j activity hne hj
  | keeps hhandles hclients =>
    refine ⟨hhandles.trans h.handles_eq, fun j activity' hne hj => ?_⟩
    obtain ⟨activity, hactivity, hwaits⟩ := hclients j activity' hj
    exact hwaits.handles_eq_nil (h.other j activity hne hactivity)

/-- As long as there are handles, nobody waits. -/
theorem IsAwaited.handles_eq_nil (h : pool.IsAwaited) (hhandles : pool.handles ≠ []) {i : Nat}
    {activity : Activity τ σ α} (hi : pool.clients[i]? = some activity) : activity.handles = [] := by
  cases activity with
  | joining handles job => exact absurd (h.taken i _ hi rfl) hhandles
  | _ => rfl

/-- The client that takes the handles is the only one to wait. -/
theorem isLeftTo_of_takes (h : pool.IsAwaited) {i : Nat} {wakes : Option Nat} {job : Job τ σ α}
    (hi : pool.clients[i]? = some (.running (.joinWorkers job))) (hhandles : pool.handles ≠ [])
    (hstep : pool.step body (.client i wakes) = some next) : next.IsLeftTo i := by
  have hnext : next = { pool with
      handles := [], clients := pool.clients.set i (.joining pool.handles job) } := by
    simpa [step, stepClient, hi, advance] using hstep.symm
  subst hnext
  refine ⟨rfl, fun j activity hne hj => ?_⟩
  exact h.handles_eq_nil hhandles ((List.getElem?_set_ne hne.symm).symm.trans hj)

/-! ## When everything is over -/

/-- No worker is left, and every task that was accepted has ended. -/
structure IsOver (pool : Pool τ σ α) : Prop where
  exited : ∀ worker ∈ pool.workers, worker = .exited
  pending_eq : pool.pending = 0
  allEnded : pool.AllEnded

variable {n : Nat} {memory : σ} {clients : List (Job τ σ α)}
  {bodies : (τ → Job τ σ Unit) → Prop} {refused : List τ}

theorem isAwaited_start (size : Nat) (memory : σ) (clients : List (Job τ σ α)) :
    (start size memory clients).IsAwaited where
  hasFreeTasks i ticket activity hi := by
    cases List.eq_of_mem_replicate (List.mem_of_getElem? hi)
  worker w hw := .inl (List.mem_range.mpr (size_start size memory clients ▸ hw))
  taken i activity hi hjoining := by
    obtain ⟨job, -, rfl⟩ := List.mem_map.mp (List.mem_of_getElem? hi)
    cases hjoining

theorem Reached.isAwaited (h : Reached bodies (Pool.start n memory clients) pool refused)
    (hbodies : ∀ body, bodies body → ∀ task, (body task).NeverJoins) : pool.IsAwaited :=
  h.invariant (p := fun pool _ => pool.IsAwaited) (isAwaited_start n memory clients)
    fun hbody hmoves h => h.moves hmoves (hbodies _ hbody)

/-- When the handles were taken and nobody waits, everything is over. -/
theorem Reached.isOver (h : Reached bodies (Pool.start n memory clients) pool refused)
    (hbodies : ∀ body, bodies body → ∀ task, (body task).NeverJoins) (hhandles : pool.handles = [])
    (hnone : ∀ (j : Nat) (activity : Activity τ σ α), pool.clients[j]? = some activity →
      activity.handles = []) : pool.IsOver := by
  have hunused := isUnused_start n memory clients
  have hcounted := h.isCounted hunused.isCounted
  have hexited : ∀ worker ∈ pool.workers, worker = .exited := by
    intro worker hworker
    obtain ⟨w, hw⟩ := List.mem_iff_getElem?.mp hworker
    have hlt : w < pool.size := (List.getElem?_eq_some_iff.mp hw).1
    -- nobody can wait for the worker any more, so it has left
    rcases (h.isAwaited hbodies).worker w hlt with hhandle | hleft | ⟨j, activity, hj, hmem⟩
    · rw [hhandles] at hhandle
      cases hhandle
    · rw [hasExited_iff, hw] at hleft
      exact Option.some.inj hleft
    · rw [hnone j activity hj] at hmem
      cases hmem
  have hworkers : pool.workers ≠ [] := by
    have hsize : 0 < pool.size := by
      rw [h.size_eq, size_start]
      omega
    exact List.ne_nil_of_length_pos hsize
  obtain ⟨-, -, hpending⟩ := (h.isVacated hunused.isVacated).finished hcounted hworkers hexited
  exact ⟨hexited, hpending, allEnded_of_pending_eq_zero hcounted (h.isOrderly hunused) hpending⟩

/-- A second client that waits for the workers comes too late for the handles, and goes on at once. The
worker has not even looked at the task that a third client has submitted meanwhile. -/
theorem exists_joined_while_working :
    ∃ (events : List Event) (pool : Pool Unit Unit Unit),
      (Pool.start 1 () [Job.joinAll, Job.joinAll, .submit () fun _ => .finish ()]).run
        (fun _ => .finish ()) events = some pool ∧
      pool.result? 1 = some () ∧ pool.hasExited 0 = false ∧ pool.queue = [(0, ())] ∧
      pool.accepted = [()] ∧ pool.ended = [] := by
  -- both see the pool idle before the task comes, and the first one takes the handles
  let events : List Event := [.client 0 none, .client 1 none, .client 2 none, .client 2 none,
    .client 0 none, .client 0 none, .client 0 none, .client 1 none, .client 1 none, .client 1 none,
    .client 1 none, .client 1 none]
  exact ⟨events, _, rfl, rfl, rfl, rfl, rfl, rfl⟩

/-- **A client that has waited for the workers finds everything over**, unless another one still waits for
workers whose handles it took first. The client that takes the handles is never misled: when it is through,
then or later, everything is over. -/
theorem joins_of_reached (h : Reached bodies (Pool.start n memory clients) pool refused)
    (hbodies : ∀ body, bodies body → ∀ task, (body task).NeverJoins) :
    (∀ (i : Nat) (job : Job τ σ α), pool.clients[i]? = some (.joining [] job) →
      pool.IsOver ∨ ∃ (j : Nat) (activity : Activity τ σ α), j ≠ i ∧
        pool.clients[j]? = some activity ∧ activity.handles ≠ []) ∧
    ∀ (i : Nat) (wakes : Option Nat) (job : Job τ σ α) (body : τ → Job τ σ Unit) (taken : Pool τ σ α),
      bodies body → pool.clients[i]? = some (.running (.joinWorkers job)) → pool.handles ≠ [] →
      pool.step body (.client i wakes) = some taken →
      ∀ (later : Pool τ σ α) (more : List τ) (job' : Job τ σ α), Reached bodies taken later more →
        later.clients[i]? = some (.joining [] job') → later.IsOver := by
  refine ⟨fun i job hi => ?_, ?_⟩
  · by_cases hwaits : ∃ (j : Nat) (activity : Activity τ σ α), j ≠ i ∧
        pool.clients[j]? = some activity ∧ activity.handles ≠ []
    · exact .inr hwaits
    · refine .inl (h.isOver hbodies ((h.isAwaited hbodies).taken i _ hi rfl) fun j activity hj => ?_)
      by_contra hhandles
      refine hwaits ⟨j, activity, ?_, hj, hhandles⟩
      rintro rfl
      rw [hi] at hj
      cases hj
      exact hhandles rfl
  · intro i wakes job body taken hbody hi hhandles hstep later more job' hlater hi'
    -- from here on nobody else has handles, so when this client is through there are none
    have hawaited := h.isAwaited hbodies
    have htaken : taken.IsLeftTo i := isLeftTo_of_takes hawaited hi hhandles hstep
    have hboth : later.IsAwaited ∧ later.IsLeftTo i := by
      refine hlater.invariant (p := fun pool _ => pool.IsAwaited ∧ pool.IsLeftTo i)
        ⟨hawaited.moves (moves_of_step hstep) (hbodies body hbody), htaken⟩ ?_
      intro body pool next refused event hbody hmoves ⟨hawaited, hleft⟩
      exact ⟨hawaited.moves hmoves (hbodies body hbody), hleft.moves hmoves hawaited.hasFreeTasks⟩
    have hreached := (h.step hbody hstep).trans hlater
    refine hreached.isOver hbodies hboth.2.handles_eq fun j activity hj => ?_
    by_cases hne : j = i
    · subst hne
      rw [hi'] at hj
      cases hj
      rfl
    · exact hboth.2.other j activity hne hj

/-- Two clients that wait for one worker, which has run the task of the first one. The first one takes the
handle. -/
theorem joins_of_two_clients :
    ∃ (events more : List Event) (pool taken later : Pool Unit Unit Unit),
      (Pool.start 1 () [.submit () fun _ => Job.joinAll, Job.joinAll]).run
        (fun _ => .finish ()) events = some pool ∧
      pool.handles = [0] ∧ pool.step (fun _ => .finish ()) (.client 0 none) = some taken ∧
      taken.run (fun _ => .finish ()) more = some later ∧
      later.clients[0]? = some (.joining [] (.finish ())) ∧ later.ended = [0] ∧ later.IsOver := by
  let body : Unit → Job Unit Unit Unit := fun _ => .finish ()
  let start : Pool Unit Unit Unit := Pool.start 1 () [.submit () fun _ => Job.joinAll, Job.joinAll]
  let events : List Event := [.client 0 none, .client 0 none, .worker 0 none, .worker 0 none,
    .worker 0 none, .client 0 none, .client 1 none, .client 0 none, .client 0 none]
  let more : List Event := [.client 1 none, .worker 0 none, .client 0 none]
  obtain ⟨pool, hpool⟩ : ∃ pool, start.run body events = some pool := ⟨_, rfl⟩
  obtain ⟨taken, htaken⟩ : ∃ taken, pool.step body (.client 0 none) = some taken := by
    cases hpool
    exact ⟨_, rfl⟩
  obtain ⟨later, hlater⟩ : ∃ later, taken.run body more = some later := by
    cases hpool
    cases htaken
    exact ⟨_, rfl⟩
  have hasks : pool.clients[0]? = some (.running (.joinWorkers (.finish ()))) := by
    cases hpool
    rfl
  have hhandles : pool.handles = [0] := by
    cases hpool
    rfl
  have hthrough : later.clients[0]? = some (.joining [] (.finish ())) ∧ later.ended = [0] := by
    cases hpool
    cases htaken
    cases hlater
    exact ⟨rfl, rfl⟩
  have hbodies : ∀ other, other = body → ∀ task, (other task).NeverJoins := by
    rintro other rfl task
    trivial
  have hreached : Reached (· = body) start pool _ := .of_run (by rfl) hpool
  have hmore : Reached (· = body) taken later _ := .of_run (by rfl) hlater
  have hover : later.IsOver := (joins_of_reached hreached hbodies).2 0 none _ body taken rfl hasks
    (by simp [hhandles]) htaken later _ _ hmore hthrough.1
  exact ⟨events, more, pool, taken, later, hpool, hhandles, htaken, hlater, hthrough.1, hthrough.2, hover⟩

end Pool

end Concordance
