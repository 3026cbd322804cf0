import Concordance.Pool.Step

/-!
# What a step can do

Every event that can happen in a pool is of one of a few kinds. An invariant is looked at for each of
them once, and then holds after every run.

## Main definitions

* `Pool.Advance`: what a step of a thread does to the pool and to the thread
* `Pool.Moves`: what an event does to the pool
* `Pool.refusedBy`, `Pool.refusals`: the tasks that an event or a run fails to submit
* `Pool.Reached`: the pools that a pool can come to, with the tasks that were refused until then
* `Pool.Each`: all threads of a pool have a property
* `Pool.IsReady`: a pool without work, and the jobs of its clients

## Main results

* `advance_of_eq_some`, `moves_of_step`: nothing else can happen
* `Reached.of_run`: a run reaches the pool that it ends with
-/

namespace Concordance

variable {τ σ α β : Type}

/-- Whether a worker runs a task. -/
def Worker.isRunning : Worker τ σ → Bool
  | .running _ _ => true
  | _ => false

namespace Pool

/-- What a step of a thread does to the pool and to the thread. -/
inductive Advance (pool : Pool τ σ α) (self wakes : Option Nat) :
    Activity τ σ β → Pool τ σ α → Activity τ σ β → Prop
  | finish {value : β} : Advance pool self wakes (.running (.finish value)) pool (.done value)
  | panic {payload : Payload} :
    Advance pool self wakes (.running (.panic payload)) pool (.panicked payload)
  | atomically {change : σ → σ} {next : σ → Job τ σ β} :
    Advance pool self wakes (.running (.atomically change next))
      { pool with memory := change pool.memory } (.running (next pool.memory))
  | await {ready : σ → Bool} {next : Job τ σ β} (h : ready pool.memory = true) :
    Advance pool self wakes (.running (.await ready next)) pool (.running next)
  | accept {task : τ} {next : Bool → Job τ σ β} (h : pool.isShutdown = false) :
    Advance pool self wakes (.running (.submit task next)) (pool.enqueue task)
      (.notifyOne (next true))
  | refuse {task : τ} {next : Bool → Job τ σ β} (h : pool.isShutdown = true) :
    Advance pool self wakes (.running (.submit task next)) pool (.running (next false))
  | pass {next : Job τ σ β} (h : pool.pending = 0) :
    Advance pool self wakes (.running (.awaitIdle next)) pool (.running next)
  | rest {next : Job τ σ β} (h : pool.pending ≠ 0) :
    Advance pool self wakes (.running (.awaitIdle next)) pool (.idle next)
  | shutdown {next : Job τ σ β} :
    Advance pool self wakes (.running (.shutdown next)) { pool with isShutdown := true }
      (.notifyAll next)
  | takeHandles {next : Job τ σ β} :
    Advance pool self wakes (.running (.joinWorkers next)) { pool with handles := [] }
      (.joining pool.handles next)
  | wakeNone {next : Job τ σ β} (h : ∀ i : Nat, pool.workers[i]? ≠ some .asleep) :
    Advance pool self wakes (.notifyOne next) pool (.running next)
  | wakeSome {i : Nat} {next : Job τ σ β} (h : pool.workers[i]? = some .asleep) :
    Advance pool self wakes (.notifyOne next) { pool with workers := pool.workers.set i .looking }
      (.running next)
  | wakeAll {next : Job τ σ β} :
    Advance pool self wakes (.notifyAll next) pool.wakeAll (.running next)
  | joined {next : Job τ σ β} : Advance pool self wakes (.joining [] next) pool (.running next)
  | join {worker : Nat} {handles : List Nat} {next : Job τ σ β}
    (h : self = some worker ∨ pool.hasExited worker = true) :
    Advance pool self wakes (.joining (worker :: handles) next) pool (.joining handles next)

theorem isAsleep_iff {pool : Pool τ σ α} {i : Nat} :
    pool.isAsleep i = true ↔ pool.workers[i]? = some .asleep := by
  unfold isAsleep
  split
  · next h => simp [h]
  · next h => simpa using fun heq => h heq

theorem advance_of_eq_some {pool mid : Pool τ σ α} {self wakes : Option Nat}
    {activity activity' : Activity τ σ β}
    (h : pool.advance self wakes activity = some (mid, activity')) :
    pool.Advance self wakes activity mid activity' := by
  cases activity with
  | running job =>
    cases job with
    | finish value => cases h; exact .finish
    | panic payload => cases h; exact .panic
    | atomically change next => cases h; exact .atomically
    | await ready next =>
      rw [advance] at h
      split at h
      · next hready => cases h; exact .await hready
      · cases h
    | submit task next =>
      rw [advance] at h
      split at h
      · next hshutdown => cases h; exact .refuse hshutdown
      · next hshutdown => cases h; exact .accept (Bool.eq_false_iff.mpr hshutdown)
    | awaitIdle next =>
      rw [advance] at h
      split at h
      · next hpending => cases h; exact .pass hpending
      · next hpending => cases h; exact .rest hpending
    | shutdown next => cases h; exact .shutdown
    | joinWorkers next => cases h; exact .takeHandles
  | notifyOne next =>
    rw [advance, Option.map_eq_some_iff] at h
    obtain ⟨woken, hwoken, heq⟩ := h
    cases heq
    unfold wakeOne at hwoken
    split at hwoken
    · next i =>
      -- the event names the worker to wake, which has to be asleep
      split at hwoken
      · next hasleep => cases hwoken; exact .wakeSome (isAsleep_iff.mp hasleep)
      · cases hwoken
    · split at hwoken
      · cases hwoken
      · next hnone =>
        cases hwoken
        -- the event names no worker, and none is asleep
        refine .wakeNone fun i hasleep => hnone (List.any_eq_true.mpr ⟨i, ?_, isAsleep_iff.mpr hasleep⟩)
        exact List.mem_range.mpr (List.getElem?_eq_some_iff.mp hasleep).1
  | notifyAll next => cases h; exact .wakeAll
  | idle next => cases h
  | joining handles next =>
    cases handles with
    | nil => cases h; exact .joined
    | cons worker handles =>
      rw [advance] at h
      split at h
      · next hexited => cases h; exact .join hexited
      · cases h
  | done value => cases h
  | panicked payload => cases h

theorem Advance.clients_eq {pool mid : Pool τ σ α} {self wakes : Option Nat}
    {activity activity' : Activity τ σ β} (h : pool.Advance self wakes activity mid activity') :
    mid.clients = pool.clients := by
  cases h with
  | _ => rfl

/-- A step of a thread leaves running workers alone. -/
theorem Advance.running {pool mid : Pool τ σ α} {self wakes : Option Nat}
    {activity activity' : Activity τ σ β} (h : pool.Advance self wakes activity mid activity')
    {i ticket : Nat} {task : Activity τ σ Unit}
    (hrunning : pool.workers[i]? = some (.running ticket task)) :
    mid.workers[i]? = some (.running ticket task) := by
  cases h with
  | @wakeSome j next hasleep =>
    -- the woken worker was asleep, so it is another one
    have hne : j ≠ i := by
      rintro rfl
      rw [hasleep] at hrunning
      cases hrunning
    simpa [List.getElem?_set, hne] using hrunning
  | wakeAll => simp [Pool.wakeAll, hrunning, Worker.woken]
  | _ => exact hrunning

/-- What an event does to the pool. -/
inductive Moves (body : τ → Job τ σ Unit) (pool : Pool τ σ α) : Event → Pool τ σ α → Prop
  | client {i : Nat} {wakes : Option Nat} {activity activity' : Activity τ σ α} {mid : Pool τ σ α}
    (h : pool.clients[i]? = some activity) (hadvance : pool.Advance none wakes activity mid activity') :
    Moves body pool (.client i wakes) { mid with clients := mid.clients.set i activity' }
  | task {i : Nat} {wakes : Option Nat} {ticket : Nat} {activity activity' : Activity τ σ Unit}
    {mid : Pool τ σ α} (h : pool.workers[i]? = some (.running ticket activity))
    (hadvance : pool.Advance (some i) wakes activity mid activity') :
    Moves body pool (.worker i wakes)
      { mid with workers := mid.workers.set i (.running ticket activity') }
  | take {i : Nat} {wakes : Option Nat} {ticket : Nat} {task : τ} {queue : List (Nat × τ)}
    (h : pool.workers[i]? = some .looking) (hqueue : pool.queue = (ticket, task) :: queue) :
    Moves body pool (.worker i wakes)
      { pool with
        queue := queue
        workers := pool.workers.set i (.running ticket (.running (body task)))
        started := pool.started ++ [ticket] }
  | doze {i : Nat} {wakes : Option Nat} (h : pool.workers[i]? = some .looking)
    (hqueue : pool.queue = []) (hshutdown : pool.isShutdown = false) :
    Moves body pool (.worker i wakes) { pool with workers := pool.workers.set i .asleep }
  | leave {i : Nat} {wakes : Option Nat} (h : pool.workers[i]? = some .looking)
    (hqueue : pool.queue = []) (hshutdown : pool.isShutdown = true) :
    Moves body pool (.worker i wakes) { pool with workers := pool.workers.set i .exited }
  | done {i : Nat} {wakes : Option Nat} {ticket : Nat}
    (h : pool.workers[i]? = some (.running ticket (.done ()))) :
    Moves body pool (.worker i wakes)
      ({ pool with workers := pool.workers.set i .looking }.endTask ticket)
  | panicked {i : Nat} {wakes : Option Nat} {ticket : Nat} {payload : Payload}
    (h : pool.workers[i]? = some (.running ticket (.panicked payload))) :
    Moves body pool (.worker i wakes)
      ({ pool with
        workers := pool.workers.set i .looking
        panics := pool.panics ++ [(i, payload)] }.endTask ticket)
  | rouseWorker {i : Nat} (h : pool.workers[i]? = some .asleep) :
    Moves body pool (.rouseWorker i) { pool with workers := pool.workers.set i .looking }
  | rouseClient {i : Nat} {next : Job τ σ α} (h : pool.clients[i]? = some (.idle next)) :
    Moves body pool (.rouseClient i)
      { pool with clients := pool.clients.set i (.running (.awaitIdle next)) }
  | rouseTask {i : Nat} {ticket : Nat} {next : Job τ σ Unit}
    (h : pool.workers[i]? = some (.running ticket (.idle next))) :
    Moves body pool (.rouseTask i)
      { pool with workers := pool.workers.set i (.running ticket (.running (.awaitIdle next))) }

theorem moves_of_stepWorker {body : τ → Job τ σ Unit} {pool next : Pool τ σ α} {i : Nat}
    {wakes : Option Nat} (h : pool.stepWorker body i wakes = some next) :
    pool.Moves body (.worker i wakes) next := by
  unfold stepWorker at h
  split at h
  · next hlooking =>
    cases h
    unfold lookAtQueue
    split
    · next ticket task queue hqueue => exact .take hlooking hqueue
    · next hqueue =>
      split
      · next hshutdown => exact .leave hlooking hqueue hshutdown
      · next hshutdown => exact .doze hlooking hqueue (Bool.eq_false_iff.mpr hshutdown)
  · next hdone => cases h; exact .done hdone
  · next hpanicked => cases h; exact .panicked hpanicked
  · next hrunning =>
    obtain ⟨⟨mid, activity'⟩, hadvance, heq⟩ := Option.map_eq_some_iff.mp h
    cases heq
    exact .task hrunning (advance_of_eq_some hadvance)
  · cases h

/-- Nothing else can happen. -/
theorem moves_of_step {body : τ → Job τ σ Unit} {pool next : Pool τ σ α} {event : Event}
    (h : pool.step body event = some next) : pool.Moves body event next := by
  cases event with
  | client i wakes =>
    obtain ⟨activity, hactivity, h⟩ := Option.bind_eq_some_iff.mp h
    obtain ⟨⟨mid, activity'⟩, hadvance, heq⟩ := Option.bind_eq_some_iff.mp h
    cases heq
    exact .client hactivity (advance_of_eq_some hadvance)
  | worker i wakes => exact moves_of_stepWorker h
  | rouseWorker i =>
    rw [step] at h
    split at h
    · next hasleep => cases h; exact .rouseWorker (isAsleep_iff.mp hasleep)
    · cases h
  | rouseClient i =>
    rw [step] at h
    split at h
    · next hidle => cases h; exact .rouseClient hidle
    · cases h
  | rouseTask i =>
    rw [step] at h
    split at h
    · next hidle => cases h; exact .rouseTask hidle
    · cases h

theorem Advance.size_eq {pool mid : Pool τ σ α} {self wakes : Option Nat}
    {activity activity' : Activity τ σ β} (h : pool.Advance self wakes activity mid activity') :
    mid.size = pool.size := by
  cases h with
  | _ => simp [size, Pool.enqueue, Pool.wakeAll]

theorem size_endTask (pool : Pool τ σ α) (ticket : Nat) : (pool.endTask ticket).size = pool.size := by
  unfold endTask
  dsimp only
  split <;> simp [size]

theorem memory_endTask (pool : Pool τ σ α) (ticket : Nat) :
    (pool.endTask ticket).memory = pool.memory := by
  unfold endTask
  dsimp only
  split <;> rfl

theorem handles_endTask (pool : Pool τ σ α) (ticket : Nat) :
    (pool.endTask ticket).handles = pool.handles := by
  unfold endTask
  dsimp only
  split <;> rfl

theorem queue_endTask (pool : Pool τ σ α) (ticket : Nat) :
    (pool.endTask ticket).queue = pool.queue := by
  unfold endTask
  dsimp only
  split <;> rfl

theorem isShutdown_endTask (pool : Pool τ σ α) (ticket : Nat) :
    (pool.endTask ticket).isShutdown = pool.isShutdown := by
  unfold endTask
  dsimp only
  split <;> rfl

theorem accepted_endTask (pool : Pool τ σ α) (ticket : Nat) :
    (pool.endTask ticket).accepted = pool.accepted := by
  unfold endTask
  dsimp only
  split <;> rfl

theorem started_endTask (pool : Pool τ σ α) (ticket : Nat) :
    (pool.endTask ticket).started = pool.started := by
  unfold endTask
  dsimp only
  split <;> rfl

theorem ended_endTask (pool : Pool τ σ α) (ticket : Nat) :
    (pool.endTask ticket).ended = pool.ended ++ [ticket] := by
  unfold endTask
  dsimp only
  split <;> rfl

theorem pending_endTask (pool : Pool τ σ α) (ticket : Nat) :
    (pool.endTask ticket).pending = pool.pending - 1 := by
  unfold endTask
  dsimp only
  split <;> rfl

/-- The end of a task may wake threads that wait for the pool to be idle. -/
theorem workers_endTask (pool : Pool τ σ α) (ticket : Nat) :
    (pool.endTask ticket).workers = pool.workers ∨
      (pool.endTask ticket).workers = pool.workers.map .roused := by
  unfold endTask
  dsimp only
  split
  · exact .inr rfl
  · exact .inl rfl

/-- No event changes how many workers there are. -/
theorem Moves.size_eq {body : τ → Job τ σ Unit} {pool next : Pool τ σ α} {event : Event}
    (h : pool.Moves body event next) : next.size = pool.size := by
  cases h with
  | client hi hadvance => exact hadvance.size_eq
  | task hi hadvance => exact List.length_set.trans hadvance.size_eq
  | done | panicked => exact (size_endTask _ _).trans List.length_set
  | rouseClient => rfl
  | take | doze | leave | rouseWorker | rouseTask => exact List.length_set

/-! ## What can be reached -/

end Pool

/-- The task that a thread is about to submit. -/
def Activity.offer? : Activity τ σ α → Option τ
  | .running (.submit task _) => some task
  | _ => none

namespace Pool

/-- The task that an event submits. -/
def offer? (pool : Pool τ σ α) : Event → Option τ
  | .client i _ => pool.clients[i]?.bind Activity.offer?
  | .worker i _ =>
    match pool.workers[i]? with
    | some (.running _ activity) => activity.offer?
    | _ => none
  | _ => none

/-- The tasks that an event fails to submit. -/
def refusedBy (pool : Pool τ σ α) (event : Event) : List τ :=
  if pool.isShutdown then (pool.offer? event).toList else []

/-- The pools that a pool can come to, each with the tasks that were refused until then, in order.
What tasks do may change from event to event. -/
inductive Reached (bodies : (τ → Job τ σ Unit) → Prop) (start : Pool τ σ α) :
    Pool τ σ α → List τ → Prop
  | start : Reached bodies start start []
  | step {body : τ → Job τ σ Unit} {pool next : Pool τ σ α} {refused : List τ} {event : Event}
    (h : Reached bodies start pool refused) (hbody : bodies body)
    (hstep : pool.step body event = some next) :
    Reached bodies start next (refused ++ pool.refusedBy event)

theorem Reached.trans {bodies : (τ → Job τ σ Unit) → Prop} {start pool next : Pool τ σ α}
    {refused more : List τ} (h : Reached bodies start pool refused)
    (hnext : Reached bodies pool next more) : Reached bodies start next (refused ++ more) := by
  induction hnext with
  | start => simpa using h
  | step _ hbody hstep ih => simpa using ih.step hbody hstep

theorem Reached.mono {bodies more : (τ → Job τ σ Unit) → Prop} {start pool : Pool τ σ α}
    {refused : List τ} (h : Reached bodies start pool refused)
    (hmore : ∀ body, bodies body → more body) : Reached more start pool refused := by
  induction h with
  | start => exact .start
  | step _ hbody hstep ih => exact ih.step (hmore _ hbody) hstep

/-- The tasks that a run fails to submit. -/
def refusals (body : τ → Job τ σ Unit) (pool : Pool τ σ α) : List Event → List τ
  | [] => []
  | event :: rest => pool.refusedBy event ++
    match pool.step body event with
    | some next => next.refusals body rest
    | none => []

/-- A run reaches the pool that it ends with. -/
theorem Reached.of_run {bodies : (τ → Job τ σ Unit) → Prop} {body : τ → Job τ σ Unit}
    (hbody : bodies body) {pool next : Pool τ σ α} {events : List Event}
    (h : pool.run body events = some next) :
    Reached bodies pool next (pool.refusals body events) := by
  induction events generalizing pool with
  | nil => cases h; exact .start
  | cons event rest ih =>
    obtain ⟨mid, hmid, hrest⟩ := Option.bind_eq_some_iff.mp h
    have hfirst : Reached bodies pool mid (pool.refusedBy event) := Reached.start.step hbody hmid
    rw [refusals, hmid]
    exact hfirst.trans (ih hrest)

/-- What holds at the start and is kept by every event holds in all that is reached. -/
theorem Reached.invariant {bodies : (τ → Job τ σ Unit) → Prop} {start pool : Pool τ σ α}
    {refused : List τ} (h : Reached bodies start pool refused)
    {p : Pool τ σ α → List τ → Prop} (hstart : p start [])
    (hstep : ∀ {body pool next refused event}, bodies body → pool.Moves body event next →
      p pool refused → p next (refused ++ pool.refusedBy event)) : p pool refused := by
  induction h with
  | start => exact hstart
  | step _ hbody hmove ih => exact hstep hbody (moves_of_step hmove) ih

theorem Reached.size_eq {bodies : (τ → Job τ σ Unit) → Prop} {start pool : Pool τ σ α}
    {refused : List τ} (h : Reached bodies start pool refused) : pool.size = start.size :=
  h.invariant (p := fun pool _ => pool.size = start.size) rfl fun _ hmoves hsize =>
    hmoves.size_eq.trans hsize

/-! ## Properties of all threads -/

/-- All threads of a pool have a property. -/
structure Each (p : ∀ β : Type, Activity τ σ β → Prop) (pool : Pool τ σ α) : Prop where
  client : ∀ activity ∈ pool.clients, p α activity
  task : ∀ ticket activity, .running ticket activity ∈ pool.workers → p Unit activity

section Each

variable {p : ∀ β : Type, Activity τ σ β → Prop}

/-- A worker that runs nothing, or whose task has the property, leaves the others with it. -/
theorem Each.setWorker {pool : Pool τ σ α} (h : pool.Each p) (i : Nat) {worker : Worker τ σ}
    (hworker : ∀ ticket activity, worker = .running ticket activity → p Unit activity) :
    ({ pool with workers := pool.workers.set i worker } : Pool τ σ α).Each p where
  client := h.client
  task ticket activity hactivity := by
    rcases List.mem_or_eq_of_mem_set hactivity with hactivity | heq
    · exact h.task ticket activity hactivity
    · exact hworker ticket activity heq.symm

theorem Advance.each {pool mid : Pool τ σ α} {self wakes : Option Nat}
    {activity activity' : Activity τ σ β} (h : pool.Advance self wakes activity mid activity')
    (heach : pool.Each p) : mid.Each p := by
  cases h with
  | wakeSome => exact heach.setWorker _ (by simp)
  | wakeAll =>
    refine ⟨heach.client, fun ticket activity hactivity => ?_⟩
    obtain ⟨worker, hworker, hwoken⟩ := List.mem_map.mp hactivity
    cases worker with
    | running => cases hwoken; exact heach.task _ _ hworker
    | _ => cases hwoken
  | _ => exact ⟨heach.client, heach.task⟩

theorem Each.endTask (hroused : ∀ β (activity : Activity τ σ β), p β activity → p β activity.roused)
    {pool : Pool τ σ α} (h : pool.Each p) (ticket : Nat) : (pool.endTask ticket).Each p := by
  unfold Pool.endTask
  dsimp only
  split
  · constructor
    · intro activity hactivity
      obtain ⟨a, ha, rfl⟩ := List.mem_map.mp hactivity
      exact hroused α a (h.client a ha)
    · intro ticket activity hactivity
      obtain ⟨worker, hworker, heq⟩ := List.mem_map.mp hactivity
      cases worker with
      | running => cases heq; exact hroused Unit _ (h.task _ _ hworker)
      | _ => cases heq
  · exact ⟨h.client, h.task⟩

/-- A property of all threads is kept if the steps of a thread in this pool keep it, and tasks start
with it. The step that is made decides whether the pool is shut down after the event. -/
theorem Each.moves_of_advance {body : τ → Job τ σ Unit} {pool next : Pool τ σ α} {event : Event}
    (hmoves : pool.Moves body event next)
    (hadvance : ∀ β (mid : Pool τ σ α) (self wakes : Option Nat)
      (activity activity' : Activity τ σ β), pool.Advance self wakes activity mid activity' →
      mid.isShutdown = next.isShutdown → p β activity → p β activity')
    (hroused : ∀ β (activity : Activity τ σ β), p β activity → p β activity.roused)
    (hbody : ∀ task, p Unit (.running (body task))) (h : pool.Each p) : next.Each p := by
  cases hmoves with
  | client hi hstep =>
    have hmid := hstep.each h
    refine ⟨fun activity hactivity => ?_, hmid.task⟩
    rcases List.mem_or_eq_of_mem_set hactivity with hactivity | rfl
    · exact hmid.client activity hactivity
    · exact hadvance _ _ _ _ _ _ hstep rfl (h.client _ (List.mem_of_getElem? hi))
  | task hi hstep =>
    refine (hstep.each h).setWorker _ ?_
    rintro ticket activity ⟨⟩
    exact hadvance _ _ _ _ _ _ hstep rfl (h.task _ _ (List.mem_of_getElem? hi))
  | @take i wakes ticket task queue hi hqueue =>
    -- the worker goes on to run the task from its first step
    have hpool : ({ pool with queue := queue, started := pool.started ++ [ticket] } :
        Pool τ σ α).Each p := ⟨h.client, h.task⟩
    refine hpool.setWorker i ?_
    rintro ticket activity ⟨⟩
    exact hbody task
  | doze | leave | rouseWorker => exact h.setWorker _ (by simp)
  | done => exact (h.setWorker _ (by simp)).endTask hroused _
  | @panicked i wakes ticket payload =>
    have hlogged : ({ pool with panics := pool.panics ++ [(i, payload)] } : Pool τ σ α).Each p :=
      ⟨h.client, h.task⟩
    exact (hlogged.setWorker _ (by simp)).endTask hroused _
  | rouseClient hi =>
    refine ⟨fun activity hactivity => ?_, h.task⟩
    rcases List.mem_or_eq_of_mem_set hactivity with hactivity | rfl
    · exact h.client activity hactivity
    · exact hroused _ _ (h.client _ (List.mem_of_getElem? hi))
  | rouseTask hi =>
    refine h.setWorker _ ?_
    rintro ticket activity ⟨⟩
    exact hroused _ _ (h.task _ _ (List.mem_of_getElem? hi))

/-- A property of all threads is kept if the steps of a thread keep it, and tasks start with it. -/
theorem Each.moves {body : τ → Job τ σ Unit} {pool next : Pool τ σ α} {event : Event}
    (hmoves : pool.Moves body event next)
    (hadvance : ∀ β (pool mid : Pool τ σ α) (self wakes : Option Nat)
      (activity activity' : Activity τ σ β),
      pool.Advance self wakes activity mid activity' → p β activity → p β activity')
    (hroused : ∀ β (activity : Activity τ σ β), p β activity → p β activity.roused)
    (hbody : ∀ task, p Unit (.running (body task))) (h : pool.Each p) : next.Each p := by
  refine h.moves_of_advance hmoves ?_ hroused hbody
  intro β mid self wakes activity activity' hstep _
  exact hadvance β pool mid self wakes activity activity' hstep

end Each

/-! ## Pools without work -/

/-- A pool without work, and what its clients are about to do. It may have just started, have been shut
down before, or have done other work. -/
structure IsReady (memory : σ) (clients : List (Job τ σ α)) (pool : Pool τ σ α) : Prop where
  memory_eq : pool.memory = memory
  queue_eq : pool.queue = []
  pending_eq : pool.pending = 0
  clients_eq : pool.clients = clients.map .running
  accepted_eq : pool.accepted = []
  isRunning_eq : ∀ worker ∈ pool.workers, worker.isRunning = false
  isShutdown_of_exited : .exited ∈ pool.workers → pool.isShutdown = true

theorem IsReady.each {memory : σ} {clients : List (Job τ σ α)} {pool : Pool τ σ α}
    (h : pool.IsReady memory clients) {p : ∀ β : Type, Activity τ σ β → Prop}
    (hclients : ∀ job ∈ clients, p α (.running job)) : pool.Each p where
  client activity hactivity := by
    rw [h.clients_eq] at hactivity
    obtain ⟨job, hjob, rfl⟩ := List.mem_map.mp hactivity
    exact hclients job hjob
  task ticket activity hactivity := by cases h.isRunning_eq _ hactivity

theorem isReady_start (size : Nat) (memory : σ) (clients : List (Job τ σ α)) :
    (start size memory clients).IsReady memory clients where
  memory_eq := rfl
  queue_eq := rfl
  pending_eq := rfl
  clients_eq := rfl
  accepted_eq := rfl
  isRunning_eq worker hworker := by
    rw [List.eq_of_mem_replicate hworker]
    rfl
  isShutdown_of_exited hexited := by cases List.eq_of_mem_replicate hexited

theorem isReady_startClosed (size : Nat) (memory : σ) (clients : List (Job τ σ α)) :
    (startClosed size memory clients).IsReady memory clients where
  memory_eq := rfl
  queue_eq := rfl
  pending_eq := rfl
  clients_eq := rfl
  accepted_eq := rfl
  isRunning_eq worker hworker := by
    rw [List.eq_of_mem_replicate hworker]
    rfl
  isShutdown_of_exited _ := rfl

end Pool

end Concordance
