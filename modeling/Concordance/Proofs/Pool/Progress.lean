import Concordance.Proofs.Pool.Shares
import Concordance.Proofs.Pool.Wakeup
import Mathlib.Algebra.Order.BigOperators.Group.List
import Mathlib.Algebra.Order.Group.Nat

/-!
# Progress

If every job takes a bounded number of steps, then so does every run that accepts a bounded number of
tasks, apart from threads that wake for no reason: those cost one step more each. And a pool that
is not shut down comes to rest only when all its clients are through.

## Main definitions

* `Event.isSpurious`: whether a thread wakes for no reason
* `Job.Lasts`: a job takes at most so many steps
* `Pool.Lasts`: a pool takes at most so many steps, if no more tasks are accepted
* `Pool.IsStuck`: nothing can happen any more, unless a thread wakes for no reason
* `Pool.WaitsForNothing`: no thread waits for what the memory has not

## Main results

* `Lasts.run`: the events of a run are counted
* `IsStuck.through`: in a pool at rest all clients are through
-/

namespace Concordance

variable {τ σ α β : Type} {mayIdle mayAwait : Bool}

/-- Whether a thread wakes for no reason. -/
def Event.isSpurious : Event → Bool
  | .client _ _ | .worker _ _ => false
  | .rouseWorker _ | .rouseClient _ | .rouseTask _ => true

/-! ## How long jobs last -/

/-- A job takes at most so many steps, those included that it makes others take. It does not wait for
workers, does not shut the pool down, and may be forbidden to wait until the pool is idle, or for the
memory. -/
def Job.Lasts (mayIdle mayAwait : Bool) : Job τ σ α → Nat → Prop
  | .finish _, n | .panic _, n => 1 ≤ n
  | .atomically _ next, n => ∃ m, m + 1 ≤ n ∧ ∀ memory, (next memory).Lasts mayIdle mayAwait m
  | .submit _ next, n => ∃ m, m + 3 ≤ n ∧ ∀ accepted, (next accepted).Lasts mayIdle mayAwait m
  | .awaitIdle next, n => mayIdle = true ∧ ∃ m, m + 2 ≤ n ∧ next.Lasts mayIdle mayAwait m
  | .await _ next, n => mayAwait = true ∧ ∃ m, m + 1 ≤ n ∧ next.Lasts mayIdle mayAwait m
  | .shutdown _, _ | .joinWorkers _, _ => False

theorem Job.Lasts.mono {job : Job τ σ α} {m n : Nat}
    (h : job.Lasts mayIdle mayAwait m) (hle : m ≤ n) : job.Lasts mayIdle mayAwait n := by
  cases job with
  | finish | panic => exact Nat.le_trans h hle
  | atomically | submit =>
    obtain ⟨k, hk, hnext⟩ := h
    exact ⟨k, by omega, hnext⟩
  | awaitIdle | await =>
    obtain ⟨hmay, k, hk, hnext⟩ := h
    exact ⟨hmay, k, by omega, hnext⟩
  | shutdown | joinWorkers => exact h

/-- A job that never waits for the memory lasts as long where it might. -/
theorem Job.Lasts.of_never {job : Job τ σ α} {n : Nat} (h : job.Lasts mayIdle false n) :
    job.Lasts mayIdle mayAwait n := by
  induction job generalizing n with
  | finish | panic => exact h
  | atomically change next ih =>
    obtain ⟨m, hm, hnext⟩ := h
    exact ⟨m, hm, fun memory => ih memory (hnext memory)⟩
  | submit task next ih =>
    obtain ⟨m, hm, hnext⟩ := h
    exact ⟨m, hm, fun accepted => ih accepted (hnext accepted)⟩
  | await => cases h.1
  | awaitIdle next ih =>
    obtain ⟨hidle, m, hm, hnext⟩ := h
    exact ⟨hidle, m, hm, ih hnext⟩
  | shutdown | joinWorkers => exact h.elim

/-- One job after another lasts as long as both. -/
theorem Job.Lasts.bind {job : Job τ σ α} {k : α → Job τ σ β} {m n : Nat}
    (h : job.Lasts mayIdle mayAwait m) (hk : ∀ value, (k value).Lasts mayIdle mayAwait n) :
    (job.bind k).Lasts mayIdle mayAwait (m + n) := by
  -- induction on the first job, with the steps of the second added to each of its bounds
  induction job generalizing m with
  | finish value => exact (hk value).mono (by omega)
  | panic => exact Nat.le_add_right_of_le h
  | atomically change next ih | submit task next ih =>
    obtain ⟨l, hl, hnext⟩ := h
    exact ⟨l + n, by omega, fun value => ih value (hnext value)⟩
  | awaitIdle next ih | await ready next ih =>
    obtain ⟨hmay, l, hl, hnext⟩ := h
    exact ⟨hmay, l + n, by omega, ih hnext⟩
  | shutdown | joinWorkers => exact h.elim

/-- A thread takes at most so many steps. -/
def Activity.Lasts (mayIdle mayAwait : Bool) : Activity τ σ α → Nat → Prop
  | .running job, n => job.Lasts mayIdle mayAwait n
  | .notifyOne next, n => ∃ m, m + 2 ≤ n ∧ next.Lasts mayIdle mayAwait m
  | .idle next, n => mayIdle = true ∧ ∃ m, m + 1 ≤ n ∧ next.Lasts mayIdle mayAwait m
  | .done _, _ | .panicked _, _ => True
  | .notifyAll _, _ | .joining _ _, _ => False

theorem Activity.Lasts.mono {activity : Activity τ σ α} {m n : Nat}
    (h : activity.Lasts mayIdle mayAwait m) (hle : m ≤ n) : activity.Lasts mayIdle mayAwait n := by
  cases activity with
  | running => exact Job.Lasts.mono h hle
  | notifyOne =>
    obtain ⟨k, hk, hnext⟩ := h
    exact ⟨k, by omega, hnext⟩
  | idle =>
    obtain ⟨hmay, k, hk, hnext⟩ := h
    exact ⟨hmay, k, by omega, hnext⟩
  | done | panicked => trivial
  | notifyAll | joining => exact h

/-- A worker takes at most so many steps. When its task ends, it wakes clients and looks at the queue
again. -/
def Worker.Lasts (mayAwait : Bool) (clients : Nat) : Worker τ σ → Nat → Prop
  | .looking, n => 1 ≤ n
  | .asleep, _ | .exited, _ => True
  | .running _ activity, n => ∃ m, m + clients + 2 ≤ n ∧ activity.Lasts false mayAwait m

theorem Activity.Lasts.roused {activity : Activity τ σ α} {n : Nat}
    (h : activity.Lasts true mayAwait n) : activity.roused.Lasts true mayAwait (n + 1) := by
  cases activity with
  | running => exact Job.Lasts.mono h (Nat.le_succ n)
  | notifyOne =>
    obtain ⟨m, hm, hnext⟩ := h
    exact ⟨m, by omega, hnext⟩
  | idle =>
    obtain ⟨-, m, hm, hnext⟩ := h
    exact ⟨rfl, m, by omega, hnext⟩
  | done | panicked => trivial
  | notifyAll | joining => exact h

/-- Whether a thread waits for the memory to have a property that it has not. -/
def Activity.waitsIn (memory : σ) : Activity τ σ α → Bool
  | .running (.await ready _) => !ready memory
  | _ => false

theorem Activity.Lasts.waitsIn_eq {activity : Activity τ σ α} {n : Nat}
    (h : activity.Lasts mayIdle false n) (memory : σ) : activity.waitsIn memory = false := by
  cases activity with
  | running job =>
    cases job with
    | await => cases h.1
    | _ => rfl
  | _ => rfl

/-- Whether a thread waits for something: for the memory, for the pool to be idle, or for a worker to
exit. -/
def Activity.isWaiting (memory : σ) : Activity τ σ α → Bool
  | .running (.await ready _) => !ready memory
  | .idle _ => true
  | .joining (_ :: _) _ => true
  | _ => false

/-- A thread that lasts so long does not wait for workers. -/
theorem Activity.Lasts.isIdle_of_isWaiting {activity : Activity τ σ α} {n : Nat} {memory : σ}
    (h : activity.Lasts mayIdle mayAwait n) (hwaits : activity.waitsIn memory = false)
    (hwaiting : activity.isWaiting memory = true) : activity.isIdle = true := by
  cases activity with
  | running job =>
    cases job with
    | await ready next =>
      change (!ready memory) = false at hwaits
      change (!ready memory) = true at hwaiting
      rw [hwaits] at hwaiting
      cases hwaiting
    | _ => cases hwaiting
  | idle => rfl
  | joining => exact h.elim
  | notifyOne | notifyAll | done | panicked => cases hwaiting

/-- No worker waits until the pool is idle. -/
theorem Worker.Lasts.roused {clients : Nat} {worker : Worker τ σ} {n : Nat}
    (h : worker.Lasts mayAwait clients n) : worker.roused.Lasts mayAwait clients n := by
  cases worker with
  | running ticket activity =>
    obtain ⟨m, hm, hlasts⟩ := h
    cases activity with
    | idle => cases hlasts.1
    | _ => exact ⟨m, hm, hlasts⟩
  | _ => exact h

namespace Pool

/-- What the tasks of a list cost together. -/
def costs (cost : τ → Nat) (tasks : List τ) : Nat :=
  (tasks.map cost).sum

theorem costs_append (cost : τ → Nat) (tasks more : List τ) :
    costs cost (tasks ++ more) = costs cost tasks + costs cost more := by
  simp [costs]

/-- The tasks that wait. -/
def waiting (pool : Pool τ σ α) : List τ :=
  pool.queue.map (·.2)

/-- A step of a thread uses up one of its steps. If it gives a signal it uses up another, and if it
queues a task it leaves the steps that this costs. -/
theorem Advance.lasts {pool mid : Pool τ σ α} {self wakes : Option Nat}
    {activity activity' : Activity τ σ β} (h : pool.Advance self wakes activity mid activity')
    (cost : τ → Nat) {n : Nat} (hlasts : activity.Lasts mayIdle mayAwait n) :
    ∃ n', activity'.Lasts mayIdle mayAwait n' ∧
      n' + 1 + (if activity.owesSignal then 1 else 0) ≤ n ∧
      costs cost mid.waiting + costs cost pool.accepted =
        costs cost pool.waiting + costs cost mid.accepted := by
  cases h with
  | finish | panic =>
    have hle : 1 ≤ n := hlasts
    exact ⟨0, trivial, by show 0 + 1 + 0 ≤ n; omega, rfl⟩
  | atomically =>
    obtain ⟨m, hm, hnext⟩ := hlasts
    exact ⟨m, hnext _, by show m + 1 + 0 ≤ n; omega, rfl⟩
  | @accept task =>
    obtain ⟨m, hm, hnext⟩ := hlasts
    -- two of the three steps are left, one to give a signal and one for the worker it wakes
    refine ⟨m + 2, ⟨m, Nat.le_refl _, hnext _⟩, by show m + 2 + 1 + 0 ≤ n; omega, ?_⟩
    simp [enqueue, waiting, costs_append]
    omega
  | refuse =>
    obtain ⟨m, hm, hnext⟩ := hlasts
    exact ⟨m, hnext _, by show m + 1 + 0 ≤ n; omega, rfl⟩
  | await =>
    obtain ⟨-, m, hm, hnext⟩ := hlasts
    exact ⟨m, hnext, by show m + 1 + 0 ≤ n; omega, rfl⟩
  | pass =>
    obtain ⟨-, m, hm, hnext⟩ := hlasts
    exact ⟨m, hnext, by show m + 1 + 0 ≤ n; omega, rfl⟩
  | rest =>
    obtain ⟨hmay, m, hm, hnext⟩ := hlasts
    -- a thread that goes to sleep has a step left for when it wakes
    exact ⟨m + 1, ⟨hmay, m, Nat.le_refl _, hnext⟩, by show m + 1 + 1 + 0 ≤ n; omega, rfl⟩
  | wakeNone | wakeSome =>
    obtain ⟨m, hm, hnext⟩ := hlasts
    exact ⟨m, hnext, by show m + 1 + 1 ≤ n; omega, rfl⟩
  | shutdown | takeHandles | wakeAll | joined | join => exact hlasts.elim

/-- A signal makes one worker look at the queue. -/
theorem Advance.total_lasts {pool mid : Pool τ σ α} {self wakes : Option Nat}
    {activity activity' : Activity τ σ β} (h : pool.Advance self wakes activity mid activity')
    {n clients ofWorkers : Nat} (hlasts : activity.Lasts mayIdle mayAwait n)
    (hworkers : Total (Worker.Lasts mayAwait clients) pool.workers ofWorkers) :
    ∃ ofWorkers', Total (Worker.Lasts mayAwait clients) mid.workers ofWorkers' ∧
      ofWorkers' ≤ ofWorkers + if activity.owesSignal then 1 else 0 := by
  cases h with
  | wakeSome hasleep =>
    obtain ⟨g, others, -, rfl, hset⟩ := hworkers.focus hasleep
    refine ⟨1 + others, hset .looking 1 (Nat.le_refl 1), ?_⟩
    show 1 + others ≤ g + others + 1
    omega
  | wakeAll => exact hlasts.elim
  | _ => exact ⟨ofWorkers, hworkers, Nat.le_add_right _ _⟩

/-- A pool takes at most so many steps, if no more tasks are accepted. -/
def Lasts (mayAwait : Bool) (cost : τ → Nat) (clients : Nat) (pool : Pool τ σ α) (n : Nat) : Prop :=
  ∃ ofWorkers ofClients, Total (Worker.Lasts mayAwait clients) pool.workers ofWorkers ∧
    Total (Activity.Lasts true mayAwait) pool.clients ofClients ∧ pool.clients.length = clients ∧
    ofWorkers + ofClients + costs cost pool.waiting ≤ n

theorem total_lasts_roused {clients : List (Activity τ σ α)} {n : Nat}
    (h : Total (Activity.Lasts true mayAwait) clients n) :
    Total (Activity.Lasts true mayAwait) (clients.map .roused) (n + clients.length) := by
  induction h with
  | nil => exact .nil
  | @cons activity clients g m hg _ ih =>
    have hsum : g + m + (activity :: clients).length = g + 1 + (m + clients.length) := by
      rw [List.length_cons]
      omega
    rw [hsum]
    exact .cons (Activity.Lasts.roused hg) ih

/-- The end of a task may wake all clients. -/
theorem Lasts.endTask {cost : τ → Nat} {clients : Nat} {pool : Pool τ σ α} {n : Nat}
    (h : pool.Lasts mayAwait cost clients n) (ticket : Nat) :
    (pool.endTask ticket).Lasts mayAwait cost clients (n + clients) := by
  obtain ⟨ofWorkers, ofClients, hworkers, hclients, hlength, hle⟩ := h
  unfold Pool.endTask
  dsimp only
  split
  · refine ⟨ofWorkers, _, hworkers.map fun _ _ => Worker.Lasts.roused, total_lasts_roused hclients,
      by simpa using hlength, ?_⟩
    rw [hlength]
    change ofWorkers + (ofClients + clients) + costs cost pool.waiting ≤ n + clients
    omega
  · refine ⟨ofWorkers, ofClients, hworkers, hclients, hlength, ?_⟩
    change ofWorkers + ofClients + costs cost pool.waiting ≤ n + clients
    omega

/-- When a task ends, its worker has steps left to wake all clients and to look at the queue. -/
theorem Lasts.look {cost : τ → Nat} {clients : Nat} {pool : Pool τ σ α} {n : Nat}
    (h : pool.Lasts mayAwait cost clients n) {i ticket : Nat} {activity : Activity τ σ Unit}
    (hi : pool.workers[i]? = some (.running ticket activity)) :
    ∃ m, m + clients + 1 ≤ n ∧
      ({ pool with workers := pool.workers.set i .looking } : Pool τ σ α).Lasts mayAwait cost
        clients m := by
  obtain ⟨ofWorkers, ofClients, hworkers, hclients, hlength, hle⟩ := h
  obtain ⟨g, others, ⟨k, hk, -⟩, rfl, hset⟩ := hworkers.focus hi
  refine ⟨1 + others + ofClients + costs cost pool.waiting, by omega, _, ofClients,
    hset .looking 1 (Nat.le_refl 1), hclients, hlength, Nat.le_refl _⟩

/-- An event uses up a step, unless a thread wakes for no reason. -/
theorem Lasts.moves {body : τ → Job τ σ Unit} {pool next : Pool τ σ α} {event : Event}
    (hmoves : pool.Moves body event next) {cost : τ → Nat} {clients n : Nat}
    (hbody : ∀ task, ∃ m, m + clients + 2 ≤ cost task ∧ (body task).Lasts false mayAwait m)
    (h : pool.Lasts mayAwait cost clients n) :
    ∃ n', next.Lasts mayAwait cost clients n' ∧
      n' + 1 + costs cost pool.accepted ≤
        n + costs cost next.accepted + if event.isSpurious then 2 else 0 := by
  have hpool := h
  obtain ⟨ofWorkers, ofClients, hworkers, hclients, hlength, hle⟩ := h
  cases hmoves with
  | @client i wakes activity activity' mid hi hadvance =>
    obtain ⟨g, others, hg, rfl, hset⟩ := hclients.focus hi
    obtain ⟨g', hg', hsteps, hcosts⟩ := hadvance.lasts cost hg
    obtain ⟨ofWorkers', hworkers', hwoken⟩ := hadvance.total_lasts hg hworkers
    refine ⟨ofWorkers' + (g' + others) + costs cost mid.waiting, ⟨ofWorkers', g' + others, hworkers',
      ?_, ?_, Nat.le_refl _⟩, ?_⟩
    · simpa [hadvance.clients_eq] using hset activity' g' hg'
    · simpa [hadvance.clients_eq] using hlength
    · dsimp only
      omega
  | @task i wakes ticket activity activity' mid hi hadvance =>
    obtain ⟨g₀, _, ⟨k, -, hk⟩, -, -⟩ := hworkers.focus hi
    -- the task may wake another worker, so its own is looked for among the workers after that
    obtain ⟨ofWorkers', hworkers', hwoken⟩ := hadvance.total_lasts hk hworkers
    obtain ⟨g, others, ⟨m, hm, hlasts⟩, rfl, hset⟩ := hworkers'.focus (hadvance.running hi)
    obtain ⟨m', hm', hsteps, hcosts⟩ := hadvance.lasts cost hlasts
    refine ⟨m' + clients + 2 + others + ofClients + costs cost mid.waiting,
      ⟨_, ofClients, hset _ (m' + clients + 2) ⟨m', Nat.le_refl _, hm'⟩, ?_, ?_, Nat.le_refl _⟩, ?_⟩
    · simpa [hadvance.clients_eq] using hclients
    · simpa [hadvance.clients_eq] using hlength
    · dsimp only
      omega
  | @take i wakes ticket task queue hi hqueue =>
    obtain ⟨g, others, hg, rfl, hset⟩ := hworkers.focus hi
    obtain ⟨m, hm, hlasts⟩ := hbody task
    have hg : 1 ≤ g := hg
    -- the cost of the task has paid for all its steps
    have hwaiting : costs cost pool.waiting =
        cost task + costs cost (queue.map (·.2)) := by simp [costs, waiting, hqueue]
    refine ⟨cost task + others + ofClients + costs cost (queue.map (·.2)),
      ⟨_, ofClients, hset _ (cost task) ⟨m, hm, hlasts⟩, hclients, hlength, Nat.le_refl _⟩, ?_⟩
    simp [Event.isSpurious]
    omega
  | doze hi | leave hi =>
    obtain ⟨g, others, hg, rfl, hset⟩ := hworkers.focus hi
    have hg : 1 ≤ g := hg
    refine ⟨0 + others + ofClients + costs cost pool.waiting,
      ⟨_, ofClients, hset _ 0 trivial, hclients, hlength, Nat.le_refl _⟩, ?_⟩
    simp [Event.isSpurious]
    omega
  | @done i wakes ticket hi =>
    obtain ⟨m, hm, hlooking⟩ := hpool.look hi
    refine ⟨m + clients, hlooking.endTask ticket, ?_⟩
    simp [Event.isSpurious, accepted_endTask]
    omega
  | @panicked i wakes ticket payload hi =>
    have hlogged : ({ pool with panics := pool.panics ++ [(i, payload)] } : Pool τ σ α).Lasts
        mayAwait cost clients n := hpool
    obtain ⟨m, hm, hlooking⟩ := hlogged.look hi
    refine ⟨m + clients, hlooking.endTask ticket, ?_⟩
    simp [Event.isSpurious, accepted_endTask]
    omega
  | rouseWorker hi =>
    obtain ⟨g, others, hg, rfl, hset⟩ := hworkers.focus hi
    refine ⟨1 + others + ofClients + costs cost pool.waiting,
      ⟨_, ofClients, hset _ 1 (Nat.le_refl 1), hclients, hlength, Nat.le_refl _⟩, ?_⟩
    simp [Event.isSpurious]
    omega
  | @rouseClient i job hi =>
    obtain ⟨g, others, hg, rfl, hset⟩ := hclients.focus hi
    refine ⟨ofWorkers + (g + 1 + others) + costs cost pool.waiting,
      ⟨ofWorkers, _, hworkers, hset _ (g + 1) (Activity.Lasts.roused hg), by simpa using hlength,
        Nat.le_refl _⟩, ?_⟩
    simp [Event.isSpurious]
    omega
  | rouseTask hi =>
    -- no task waits until the pool is idle
    obtain ⟨g, others, ⟨m, hm, hidle⟩, -, -⟩ := hworkers.focus hi
    cases hidle.1

/-- **The events of a run are counted**: there are as many as the pool had steps for, those for the
tasks that were accepted, and two for each thread that woke for no reason. -/
theorem Lasts.run {body : τ → Job τ σ Unit} {pool next : Pool τ σ α} {events : List Event}
    (hrun : pool.run body events = some next) {cost : τ → Nat} {clients n : Nat}
    (hbody : ∀ task, ∃ m, m + clients + 2 ≤ cost task ∧ (body task).Lasts false mayAwait m)
    (h : pool.Lasts mayAwait cost clients n) :
    events.length + costs cost pool.accepted ≤
      n + costs cost next.accepted + 2 * events.countP Event.isSpurious := by
  -- induction on the events, each of which uses up a step
  induction events generalizing pool n with
  | nil =>
    cases hrun
    simp
  | cons event rest ih =>
    obtain ⟨mid, hmid, hrest⟩ := Option.bind_eq_some_iff.mp hrun
    obtain ⟨n', hlasts, hstep⟩ := h.moves (moves_of_step hmid) hbody
    have hle := ih hrest hlasts
    rw [List.length_cons, List.countP_cons]
    split at hstep <;> rename_i hspurious <;> simp only [hspurious] <;> simp <;> omega

theorem Reached.lasts {bodies : (τ → Job τ σ Unit) → Prop} {start pool : Pool τ σ α}
    {refused : List τ} (h : Reached bodies start pool refused) {cost : τ → Nat}
    {clients : Nat}
    (hbodies : ∀ body, bodies body →
      ∀ task, ∃ m, m + clients + 2 ≤ cost task ∧ (body task).Lasts false mayAwait m)
    (hstart : ∃ n, start.Lasts mayAwait cost clients n) : ∃ n, pool.Lasts mayAwait cost clients n := by
  refine h.invariant (p := fun pool _ => ∃ n, pool.Lasts mayAwait cost clients n) hstart ?_
  intro body pool next refused event hbody hmoves ⟨n, hlasts⟩
  obtain ⟨n', hlasts', -⟩ := hlasts.moves hmoves (hbodies body hbody)
  exact ⟨n', hlasts'⟩

/-- Tasks cost no more than others that include them, if none is repeated. -/
theorem costs_le_of_subset (cost : τ → Nat) {tasks more : List τ} (hnodup : tasks.Nodup)
    (hsubset : tasks ⊆ more) : costs cost tasks ≤ costs cost more := by
  obtain ⟨same, hperm, hsublist⟩ := List.subperm_of_subset hnodup hsubset
  rw [costs, ← (hperm.map cost).sum_eq]
  exact (hsublist.map cost).sum_le_sum fun _ _ => Nat.zero_le _

/-! ## Pools at rest -/

/-- Nothing can happen any more, unless a thread wakes for no reason. -/
def IsStuck (body : τ → Job τ σ Unit) (pool : Pool τ σ α) : Prop :=
  ∀ event next, pool.step body event = some next → event.isSpurious = true

/-- A signal always finds a worker asleep, or none. -/
theorem exists_wakeOne (pool : Pool τ σ α) : ∃ wakes mid, pool.wakeOne wakes = some mid := by
  by_cases h : (List.range pool.size).any pool.isAsleep = true
  · obtain ⟨i, -, hi⟩ := List.any_eq_true.mp h
    exact ⟨some i, _, if_pos hi⟩
  · exact ⟨none, _, if_neg h⟩

/-- A thread that is not through and waits for nothing can go on. -/
theorem exists_advance (pool : Pool τ σ α) (self : Option Nat) {activity : Activity τ σ β}
    (hwaits : activity.isWaiting pool.memory = false) (hthrough : activity.isThrough = false) :
    ∃ wakes next, pool.advance self wakes activity = some next := by
  cases activity with
  | running job =>
    refine ⟨none, ?_⟩
    cases job with
    | finish | panic | atomically | shutdown | joinWorkers => exact ⟨_, rfl⟩
    | submit | awaitIdle =>
      rw [advance]
      split <;> exact ⟨_, rfl⟩
    | await ready next =>
      have hready : ready pool.memory = true := by simpa [Activity.isWaiting] using hwaits
      exact ⟨(pool, .running next), by rw [advance, if_pos hready]⟩
  | notifyOne next =>
    obtain ⟨wakes, mid, hmid⟩ := pool.exists_wakeOne
    exact ⟨wakes, (mid, .running next), by rw [advance, hmid]; rfl⟩
  | notifyAll => exact ⟨none, _, rfl⟩
  | joining handles =>
    cases handles with
    | nil => exact ⟨none, _, rfl⟩
    | cons => cases hwaits
  | idle => cases hwaits
  | done | panicked => cases hthrough

variable {body : τ → Job τ σ Unit} {pool : Pool τ σ α}

/-- A client of a pool at rest is through, or waits for something. -/
theorem IsStuck.client_waits (hstuck : pool.IsStuck body) {i : Nat} {activity : Activity τ σ α}
    (hi : pool.clients[i]? = some activity) :
    activity.isThrough = true ∨ activity.isWaiting pool.memory = true := by
  by_contra hawake
  rw [not_or, Bool.not_eq_true, Bool.not_eq_true] at hawake
  obtain ⟨wakes, next, hnext⟩ := pool.exists_advance none hawake.2 hawake.1
  have hstep : pool.step body (.client i wakes) =
      some { next.1 with clients := next.1.clients.set i next.2 } := by
    simp [step, stepClient, hi, hnext]
  cases hstuck _ _ hstep

/-- A worker of a pool at rest sleeps or has left, or its task waits for something. -/
theorem IsStuck.worker_waits (hstuck : pool.IsStuck body) {i : Nat} {worker : Worker τ σ}
    (hi : pool.workers[i]? = some worker) :
    worker = .asleep ∨ worker = .exited ∨ ∃ ticket activity, worker = .running ticket activity ∧
      activity.isWaiting pool.memory = true := by
  cases worker with
  | looking =>
    have hstep : ∃ next, pool.step body (.worker i none) = some next :=
      ⟨_, by rw [step, stepWorker, hi]⟩
    obtain ⟨next, hnext⟩ := hstep
    cases hstuck _ _ hnext
  | asleep => exact .inl rfl
  | exited => exact .inr (.inl rfl)
  | running ticket activity =>
    refine .inr (.inr ⟨ticket, activity, rfl, ?_⟩)
    by_contra hwaits
    rw [Bool.not_eq_true] at hwaits
    have hstep : ∃ wakes next, pool.step body (.worker i wakes) = some next := by
      cases activity with
      | done | panicked => exact ⟨none, _, by rw [step, stepWorker, hi]⟩
      | idle => cases hwaits
      | running | notifyOne | notifyAll | joining =>
        obtain ⟨wakes, next, hnext⟩ := pool.exists_advance (some i) hwaits rfl
        refine ⟨wakes, { next.1 with workers := next.1.workers.set i (.running ticket next.2) }, ?_⟩
        rw [step, stepWorker, hi]
        dsimp only
        rw [hnext]
        rfl
    obtain ⟨wakes, next, hnext⟩ := hstep
    cases hstuck _ _ hnext

/-- A client of a pool at rest is through, or sleeps until the pool is idle. -/
theorem IsStuck.client (hstuck : pool.IsStuck body) {i n : Nat} {activity : Activity τ σ α}
    (hi : pool.clients[i]? = some activity) (hlasts : activity.Lasts mayIdle mayAwait n)
    (hwaits : activity.waitsIn pool.memory = false) :
    activity.isThrough = true ∨ activity.isIdle = true := by
  rcases hstuck.client_waits hi with hthrough | hwaiting
  · exact .inl hthrough
  · exact .inr (hlasts.isIdle_of_isWaiting hwaits hwaiting)

/-- A worker of a pool at rest sleeps or has left, unless its task waits for the memory. -/
theorem IsStuck.worker (hstuck : pool.IsStuck body) {i clients n : Nat} {worker : Worker τ σ}
    (hi : pool.workers[i]? = some worker) (hlasts : worker.Lasts mayAwait clients n)
    (hwaits : ∀ ticket activity, worker = .running ticket activity →
      activity.waitsIn pool.memory = false) :
    worker = .asleep ∨ worker = .exited := by
  rcases hstuck.worker_waits hi with hasleep | hexited | ⟨ticket, activity, rfl, hwaiting⟩
  · exact .inl hasleep
  · exact .inr hexited
  · obtain ⟨m, -, hactivity⟩ := hlasts
    -- the task of a worker that lasts so long does not wait until the pool is idle
    have hidle := hactivity.isIdle_of_isWaiting (hwaits _ _ rfl) hwaiting
    cases activity with
    | idle => cases hactivity.1
    | _ => cases hidle

theorem IsReady.lasts {memory : σ} {clients : List (Job τ σ α)} {pool : Pool τ σ α}
    (h : pool.IsReady memory clients) (cost : τ → Nat) {ofClients : Nat}
    (hclients : Total (Job.Lasts true mayAwait) clients ofClients) :
    pool.Lasts mayAwait cost clients.length (pool.size + ofClients) := by
  refine ⟨pool.workers.length • 1, ofClients, .of_forall fun worker hworker => ?_, ?_, ?_, ?_⟩
  · have hrunning := h.isRunning_eq worker hworker
    cases worker with
    | looking => exact Nat.le_refl 1
    | asleep | exited => trivial
    | running => cases hrunning
  · rw [h.clients_eq]
    exact hclients.map fun _ _ => id
  · rw [h.clients_eq, List.length_map]
  · simp [waiting, h.queue_eq, costs, size]

/-- No thread waits for what the memory has not. -/
def WaitsForNothing (pool : Pool τ σ α) : Prop :=
  pool.Each fun _ activity => activity.waitsIn pool.memory = false

theorem Lasts.waitsForNothing {cost : τ → Nat} {clients n : Nat}
    (h : pool.Lasts false cost clients n) : pool.WaitsForNothing := by
  obtain ⟨ofWorkers, ofClients, hofWorkers, hofClients, -, -⟩ := h
  constructor
  · intro activity hactivity
    obtain ⟨i, hi⟩ := List.mem_iff_getElem?.mp hactivity
    obtain ⟨g, -, hg, -, -⟩ := hofClients.focus hi
    exact hg.waitsIn_eq pool.memory
  · intro ticket activity hactivity
    obtain ⟨i, hi⟩ := List.mem_iff_getElem?.mp hactivity
    obtain ⟨g, -, ⟨m, -, hm⟩, -, -⟩ := hofWorkers.focus hi
    exact hm.waitsIn_eq pool.memory

/-- In a pool at rest no thread has anything in hand: what all threads have agreed on holds of what is
set aside for tasks that wait. -/
theorem IsStuck.holds {M : Type} [AddCommMonoid M] {agreement : Agreement τ σ M} {refused : List τ}
    (hstuck : pool.IsStuck body) {cost : τ → Nat} {clients n : Nat}
    (hlasts : pool.Lasts mayAwait cost clients n) (hkeeps : pool.Keeps agreement refused) :
    agreement.holds (pool.ledger refused) (pool.setAside agreement) := by
  obtain ⟨ofWorkers, ofClients, hofWorkers, hofClients, -, -⟩ := hlasts
  obtain ⟨inHand, inHand', hworkers, hclients, hholds⟩ := hkeeps
  -- a thread that waits for the memory has nothing in hand, and the others have come to an end
  have hwaiting : ∀ {γ : Type} {activity : Activity τ σ γ} {g : M}, activity.Keeps agreement g →
      activity.waitsIn pool.memory = true → g = 0 := by
    intro γ activity g hg hwaits
    unfold Activity.waitsIn at hwaits
    split at hwaits
    · exact hg.1
    · cases hwaits
  have hworkersZero : inHand = 0 := by
    apply hworkers.eq_zero
    intro worker hworker g hg
    obtain ⟨i, hi⟩ := List.mem_iff_getElem?.mp hworker
    obtain ⟨k, -, hk, -, -⟩ := hofWorkers.focus hi
    by_cases hwaits : ∀ ticket activity, worker = .running ticket activity →
        activity.waitsIn pool.memory = false
    · rcases hstuck.worker hi hk hwaits with rfl | rfl <;> exact hg
    · push Not at hwaits
      obtain ⟨ticket, activity, rfl, hwaits⟩ := hwaits
      exact hwaiting hg (Bool.eq_true_of_not_eq_false hwaits)
  have hclientsZero : inHand' = 0 := by
    apply hclients.eq_zero
    intro activity hactivity g hg
    obtain ⟨i, hi⟩ := List.mem_iff_getElem?.mp hactivity
    obtain ⟨k, -, hk, -, -⟩ := hofClients.focus hi
    cases hwaits : activity.waitsIn pool.memory with
    | true => exact hwaiting hg hwaits
    | false =>
      rcases hstuck.client hi hk hwaits with hend | hend
      · cases activity with
        | done | panicked => exact hg
        | _ => cases hend
      · cases activity with
        | idle => exact hg.1
        | _ => cases hend
  rw [hworkersZero, hclientsZero, add_zero, zero_add] at hholds
  exact hholds

/-- **In a pool at rest nothing is pending and all clients are through**, unless it is shut down or has
no workers, or somebody waits for what the memory has not. -/
theorem IsStuck.through (hstuck : pool.IsStuck body) {cost : τ → Nat} {clients n : Nat}
    (hlasts : pool.Lasts mayAwait cost clients n) (hready : pool.WaitsForNothing)
    (hcounted : pool.IsCounted) (hattended : pool.IsAttended)
    (hstaffed : .exited ∉ pool.workers) (hworkers : pool.workers ≠ []) :
    pool.pending = 0 ∧ ∀ activity ∈ pool.clients, activity.isThrough = true := by
  obtain ⟨ofWorkers, ofClients, hofWorkers, hofClients, -, -⟩ := hlasts
  -- a worker that is awake could go on, and none has left
  have hasleep : ∀ worker ∈ pool.workers, worker = .asleep := by
    intro worker hworker
    obtain ⟨i, hi⟩ := List.mem_iff_getElem?.mp hworker
    obtain ⟨g, -, hg, -, -⟩ := hofWorkers.focus hi
    rcases hstuck.worker hi hg (fun ticket activity heq => hready.task ticket activity (heq ▸ hworker))
      with rfl | rfl
    · rfl
    · exact absurd hworker hstaffed
  -- so could a client that is not through, unless it sleeps
  have hclients : ∀ activity ∈ pool.clients, activity.isThrough = true ∨ activity.isIdle = true := by
    intro activity hactivity
    obtain ⟨i, hi⟩ := List.mem_iff_getElem?.mp hactivity
    obtain ⟨g, -, hg, -, -⟩ := hofClients.focus hi
    exact hstuck.client hi hg (hready.client activity hactivity)
  -- nobody owes a signal and nobody looks at the queue, so nothing waits there
  have howed : pool.owed = 0 := by
    rw [owed, Nat.add_eq_zero_iff, List.countP_eq_zero, List.countP_eq_zero]
    constructor
    · intro activity hactivity howes
      cases activity with
      | notifyOne next => rcases hclients _ hactivity with h | h <;> cases h
      | _ => cases howes
    · intro worker hworker howes
      rw [hasleep worker hworker] at howes
      cases howes
  have hpending := hattended.pending_eq hcounted hworkers hasleep howed
  refine ⟨hpending, fun activity hactivity => ?_⟩
  -- nobody sleeps until the pool is idle when it is
  rcases hclients activity hactivity with hthrough | hidle
  · exact hthrough
  · exact absurd hpending (hcounted.client activity hactivity hidle)

end Pool

end Concordance
