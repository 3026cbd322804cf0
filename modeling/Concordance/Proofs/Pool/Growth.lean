import Concordance.Proofs.Pool.History
import Concordance.Proofs.Pool.Progress
import Concordance.Proofs.Pool.Threads
import Mathlib.Order.Defs.PartialOrder

/-!
# Threads over a memory that only grows

Where the memory only grows, what a thread has seen in it once stays true, whatever the others do. So a
job can be looked at alone: between two of its steps the memory has grown, and nothing else is known
of it. What a job assures when it is done is true of the memory from then on.

## Main definitions

* `Job.Assures`, `Activity.Assures`: what is true of the memory when a job is done
* `Pool.Holds`: every client, every task that is underway and every task that has ended has a property

## Main results

* `Job.Assures.bind`: jobs one after another
* `Continues.assures`: a thread goes on to assure what it assured
* `Activity.Assures.waitsIn_eq`: a thread waits only while someone is busy
* `Pool.Holds.moves`: a property of threads is kept if each thread keeps it by itself
-/

namespace Concordance

variable {τ σ α β : Type}

/-! ## Jobs -/

section Assures

variable [Preorder σ]

/-- A job that starts in a memory ends with a value that has a property in the memory then and later. It
breaks off never, and waits only for what the memory has already or someone is busy with. -/
def Job.Assures (busy : σ → Prop) (post : α → σ → Prop) : Job τ σ α → σ → Prop
  | .finish value, memory => ∀ later, memory ≤ later → post value later
  | .panic _, _ => False
  | .atomically change next, memory =>
    ∀ later, memory ≤ later → (next later).Assures busy post (change later)
  | .await ready next, memory => ∀ later, memory ≤ later →
    (ready later = true ∨ busy later) ∧ (ready later = true → next.Assures busy post later)
  | .submit _ next, memory => ∀ accepted, (next accepted).Assures busy post memory
  | .awaitIdle next, memory | .shutdown next, memory | .joinWorkers next, memory =>
    next.Assures busy post memory

variable {busy : σ → Prop} {memory later : σ}

theorem Job.Assures.mono {job : Job τ σ α} {post : α → σ → Prop}
    (h : job.Assures busy post memory) (hle : memory ≤ later) : job.Assures busy post later := by
  induction job with
  | finish | atomically | await => exact fun last hlast => h last (le_trans hle hlast)
  | panic => exact h
  | submit task next ih => exact fun accepted => ih accepted (h accepted)
  | awaitIdle next ih | shutdown next ih | joinWorkers next ih => exact ih h

theorem Job.Assures.imp {job : Job τ σ α} {post post' : α → σ → Prop}
    (h : job.Assures busy post memory) (himp : ∀ value later, post value later → post' value later) :
    job.Assures busy post' memory := by
  induction job generalizing memory with
  | finish value => exact fun later hlater => himp value later (h later hlater)
  | panic => exact h
  | atomically change next ih => exact fun later hlater => ih later (h later hlater)
  | await ready next ih =>
    intro later hlater
    obtain ⟨hbusy, hnext⟩ := h later hlater
    exact ⟨hbusy, fun hready => ih (hnext hready)⟩
  | submit task next ih => exact fun accepted => ih accepted (h accepted)
  | awaitIdle next ih | shutdown next ih | joinWorkers next ih => exact ih h

/-- One job after another assures what the second does, if that starts with what the first assures. -/
theorem Job.Assures.bind {job : Job τ σ α} {k : α → Job τ σ β} {post : β → σ → Prop}
    (h : job.Assures busy (fun value memory => (k value).Assures busy post memory) memory) :
    (job.bind k).Assures busy post memory := by
  induction job generalizing memory with
  | finish => exact h memory le_rfl
  | panic => exact h
  | atomically change next ih => exact fun later hlater => ih later (h later hlater)
  | await ready next ih =>
    intro later hlater
    obtain ⟨hbusy, hnext⟩ := h later hlater
    exact ⟨hbusy, fun hready => ih (hnext hready)⟩
  | submit task next ih => exact fun accepted => ih accepted (h accepted)
  | awaitIdle next ih | shutdown next ih | joinWorkers next ih => exact ih h

/-- A thread assures a property of its value and the memory. -/
def Activity.Assures (busy : σ → Prop) (post : α → σ → Prop) : Activity τ σ α → σ → Prop
  | .running job, memory => job.Assures busy post memory
  | .notifyOne next, memory | .notifyAll next, memory | .idle next, memory
  | .joining _ next, memory => next.Assures busy post memory
  | .done value, memory => ∀ later, memory ≤ later → post value later
  | .panicked _, _ => False

variable {post : α → σ → Prop} {activity activity' : Activity τ σ α}

theorem Activity.Assures.mono (h : activity.Assures busy post memory) (hle : memory ≤ later) :
    activity.Assures busy post later := by
  cases activity with
  | running | notifyOne | notifyAll | idle | joining => exact Job.Assures.mono h hle
  | done => exact fun last hlast => h last (le_trans hle hlast)
  | panicked => exact h

theorem Activity.Assures.roused (h : activity.Assures busy post memory) :
    activity.roused.Assures busy post memory := by
  cases activity with
  | _ => exact h

/-- While nobody is busy, a thread waits for nothing. -/
theorem Activity.Assures.waitsIn_eq (h : activity.Assures busy post memory) (hbusy : ¬ busy memory) :
    activity.waitsIn memory = false := by
  cases activity with
  | running job =>
    cases job with
    | await ready next =>
      rcases (h memory le_rfl).1 with hready | hbusy'
      · simp [Activity.waitsIn, hready]
      · exact absurd hbusy' hbusy
    | _ => rfl
  | _ => rfl

namespace Pool

theorem Advance.assures {γ : Type} {pool mid : Pool τ σ γ} {self wakes : Option Nat}
    (h : pool.Advance self wakes activity mid activity')
    (hassures : activity.Assures busy post pool.memory) (hle : pool.memory ≤ mid.memory) :
    activity'.Assures busy post mid.memory := by
  cases h with
  | panic => exact hassures.elim
  | atomically => exact hassures pool.memory le_rfl
  | await hready => exact (hassures pool.memory le_rfl).2 hready
  | accept | refuse => exact hassures _
  | _ => exact hassures

/-- **A thread goes on to assure what it assured**, while the memory grows. -/
theorem Continues.assures {γ : Type} {pool next : Pool τ σ γ} {self : Option Nat}
    (h : Continues pool next self activity activity')
    (hassures : activity.Assures busy post pool.memory) (hle : pool.memory ≤ next.memory) :
    activity'.Assures busy post next.memory := by
  cases h with
  | stays => exact hassures.mono hle
  | roused => exact hassures.roused.mono hle
  | advances hadvance hmemory =>
    rw [hmemory] at hle ⊢
    exact hadvance.assures hassures hle

end Pool

end Assures

/-! ## Pools -/

namespace Pool

/-- Every client, every task that a worker runs and every task that has ended has a property, which may
depend on the memory. -/
structure Holds (ofClient : Nat → Activity τ σ α → σ → Prop)
    (ofTask : τ → Activity τ σ Unit → σ → Prop) (pool : Pool τ σ α) : Prop where
  client : ∀ (i : Nat) (activity : Activity τ σ α), pool.clients[i]? = some activity →
    ofClient i activity pool.memory
  task : ∀ (i ticket : Nat) (activity : Activity τ σ Unit),
    pool.workers[i]? = some (.running ticket activity) →
    ∃ task, pool.accepted[ticket]? = some task ∧ ofTask task activity pool.memory
  ended : ∀ ticket ∈ pool.ended, ∃ task activity, pool.accepted[ticket]? = some task ∧
    activity.isThrough = true ∧ ofTask task activity pool.memory

variable {body : τ → Job τ σ Unit} {pool next : Pool τ σ α} {event : Event}

/-- A task that was accepted stays so. -/
theorem Moves.accepted_prefix (h : pool.Moves body event next) : pool.accepted <+: next.accepted := by
  have hhistory := h.history
  generalize hlater : next.history = later at hhistory
  have haccepted : next.accepted = later.accepted := by rw [← hlater]; rfl
  rw [haccepted]
  cases hhistory with
  | accept => exact List.prefix_append _ _
  | same | start | finish => exact List.prefix_rfl

theorem getElem?_of_isPrefix {list more : List β} (h : list <+: more) {i : Nat}
    (hi : i < list.length) : more[i]? = list[i]? := by
  obtain ⟨rest, rfl⟩ := h
  exact List.getElem?_append_left hi

/-- A ticket stays with its task. -/
theorem Moves.getElem?_accepted (h : pool.Moves body event next) {ticket : Nat} {task : τ}
    (htask : pool.accepted[ticket]? = some task) : next.accepted[ticket]? = some task := by
  rw [getElem?_of_isPrefix h.accepted_prefix (List.getElem?_eq_some_iff.mp htask).1, htask]

/-- A task ends when it is through. -/
theorem Moves.ended_eq (h : pool.Moves body event next) :
    next.ended = pool.ended ∨ ∃ (i ticket : Nat) (activity : Activity τ σ Unit),
      pool.workers[i]? = some (.running ticket activity) ∧ activity.isThrough = true ∧
        next.ended = pool.ended ++ [ticket] := by
  cases h with
  | client hi hadvance | task hi hadvance =>
    left
    cases hadvance with
    | _ => rfl
  | done hi | panicked hi => exact .inr ⟨_, _, _, hi, rfl, ended_endTask _ _⟩
  | _ => exact .inl rfl

theorem Moves.ended_prefix (h : pool.Moves body event next) : pool.ended <+: next.ended := by
  rcases h.ended_eq with heq | ⟨_, ticket, _, _, _, heq⟩
  · exact heq ▸ List.prefix_rfl
  · exact heq ▸ List.prefix_append _ _

variable {ofClient : Nat → Activity τ σ α → σ → Prop} {ofTask : τ → Activity τ σ Unit → σ → Prop}

/-- **A property of threads is kept if each thread keeps it by itself**, and tasks start with it. -/
theorem Holds.moves (hmoves : pool.Moves body event next) (horderly : pool.history.IsOrderly)
    (hclient : ∀ i activity activity', Continues pool next none activity activity' →
      ofClient i activity pool.memory → ofClient i activity' next.memory)
    (htask : ∀ t self activity activity', Continues pool next self activity activity' →
      ofTask t activity pool.memory → ofTask t activity' next.memory)
    (hbody : ∀ t, ofTask t (.running (body t)) pool.memory) (h : pool.Holds ofClient ofTask) :
    next.Holds ofClient ofTask := by
  constructor
  case client =>
    intro i activity' hi
    rcases hmoves.client_continues hi with ⟨activity, hactivity, hcontinues⟩
    exact hclient i _ _ hcontinues (h.client i activity hactivity)
  case task =>
    intro i ticket activity' hi
    rcases hmoves.task_continues hi with
      ⟨activity, hactivity, hcontinues⟩ | ⟨t, queue, -, hqueue, rfl, hmemory⟩
    · rcases h.task i ticket activity hactivity with ⟨t, ht, hholds⟩
      exact ⟨t, hmoves.getElem?_accepted ht, htask t _ _ _ hcontinues hholds⟩
    · refine ⟨t, hmoves.getElem?_accepted (horderly.head_eq hqueue).2, ?_⟩
      rw [hmemory]
      exact hbody t
  case ended =>
    -- a task that has ended makes no more steps, while the memory goes on to change
    have hstays : ∀ t activity, ofTask t activity pool.memory → ofTask t activity next.memory := by
      intro t activity
      exact htask t none _ _ .stays
    have hold : ∀ ticket ∈ pool.ended, ∃ t activity, next.accepted[ticket]? = some t ∧
        activity.isThrough = true ∧ ofTask t activity next.memory := by
      intro ticket hticket
      rcases h.ended ticket hticket with ⟨t, activity, ht, hthrough, hholds⟩
      exact ⟨t, activity, hmoves.getElem?_accepted ht, hthrough, hstays t activity hholds⟩
    intro ticket hticket
    rcases hmoves.ended_eq with hended | ⟨i, last, activity, hi, hthrough, hended⟩
    · rw [hended] at hticket
      exact hold ticket hticket
    · rw [hended] at hticket
      rcases List.mem_append.mp hticket with hticket | hticket
      · exact hold ticket hticket
      · rw [List.mem_singleton.mp hticket]
        rcases h.task i last activity hi with ⟨t, ht, hholds⟩
        exact ⟨t, activity, hmoves.getElem?_accepted ht, hthrough, hstays t activity hholds⟩

theorem IsUnused.holds {memory : σ} {clients : List (Job τ σ α)} (h : pool.IsUnused memory clients)
    (hclients : ∀ i job, clients[i]? = some job → ofClient i (.running job) memory) :
    pool.Holds ofClient ofTask := by
  constructor
  case client =>
    intro i activity hi
    rw [h.clients_eq, List.getElem?_map] at hi
    rcases Option.map_eq_some_iff.mp hi with ⟨job, hjob, rfl⟩
    rw [h.memory_eq]
    exact hclients i job hjob
  case task =>
    intro i ticket activity hi
    have hrunning := h.isRunning_eq _ (List.mem_of_getElem? hi)
    cases hrunning
  case ended =>
    intro ticket hticket
    rw [h.ended_eq] at hticket
    cases hticket

end Pool

end Concordance
