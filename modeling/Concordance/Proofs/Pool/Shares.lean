import Concordance.Proofs.Pool.Moves
import Mathlib.Algebra.BigOperators.Group.List.Basic
import Mathlib.Tactic.Abel

/-!
# Threads that share an invariant

Threads keep an invariant together: each holds a share of what is left to do, a task that waits has
its share set aside, and the invariant ties the memory to the sum of all shares. A step of one thread
may change its own share only, and has to keep the invariant whatever the others hold. So each job is
looked at alone, and holds its part of the bargain under every schedule.

## Main definitions

* `Ledger`: what an invariant is about
* `Agreement`: an invariant, and the share that each task comes with
* `Job.Keeps`, `Activity.Keeps`, `Worker.Keeps`: a thread with a share keeps an agreement
* `Job.ChangesOnly`: a job whose changes to the memory are of one kind
* `Total`: the sum of what the members of a list hold
* `Pool.Keeps`: a pool in which every thread keeps an agreement

## Main results

* `Job.Keeps.bind`: jobs one after another
* `Pool.Keeps.moves`: every event keeps what all threads have agreed on
* `Pool.Keeps.rel_memory`: every event changes the memory only as is permitted
-/

namespace Concordance

variable {τ σ α β γ M : Type} [AddCommMonoid M]

/-! ## Agreements -/

/-- What an invariant is about: the memory, and which tasks were accepted and refused. -/
structure Ledger (τ σ : Type) where
  memory : σ
  accepted : List τ
  refused : List τ
  isShutdown : Bool

/-- An invariant on the sum of all shares, and the share that each task comes with. Some changes of
the memory may be permitted only to a thread with a share that covers them. -/
structure Agreement (τ σ M : Type) where
  holds : Ledger τ σ → M → Prop
  share : τ → M
  permits : (σ → σ) → M → Prop := fun _ _ => True

/-- A job with a share keeps an agreement: each of its steps keeps the invariant, whatever the
others hold, and leaves a share with which the rest of the job keeps it. A job that waits for the
memory or for the pool to be idle, and one that breaks off, hold nothing. -/
def Job.Keeps (agreement : Agreement τ σ M) (post : α → M → Prop) : Job τ σ α → M → Prop
  | .finish value, g => post value g
  | .panic _, g => g = 0
  | .atomically change next, g => agreement.permits change g ∧
    ∀ ledger others, agreement.holds ledger (g + others) →
      ∃ g', agreement.holds { ledger with memory := change ledger.memory } (g' + others) ∧
        (next ledger.memory).Keeps agreement post g'
  | .await _ next, g => g = 0 ∧ next.Keeps agreement post 0
  | .submit task next, g =>
    (∀ ledger others, ledger.isShutdown = false → agreement.holds ledger (g + others) →
      ∃ g', agreement.holds { ledger with accepted := ledger.accepted ++ [task] }
          (g' + agreement.share task + others) ∧
        (next true).Keeps agreement post g') ∧
    ∀ ledger others, ledger.isShutdown = true → agreement.holds ledger (g + others) →
      ∃ g', agreement.holds { ledger with refused := ledger.refused ++ [task] } (g' + others) ∧
        (next false).Keeps agreement post g'
  | .awaitIdle next, g => g = 0 ∧ next.Keeps agreement post 0
  | .shutdown next, g =>
    (∀ ledger others, agreement.holds ledger (g + others) →
      agreement.holds { ledger with isShutdown := true } (g + others)) ∧
    next.Keeps agreement post g
  | .joinWorkers next, g => next.Keeps agreement post g

/-- A thread that does nothing more holds nothing. -/
def Spent (_ : α) (g : M) : Prop := g = 0

variable {agreement : Agreement τ σ M}

/-- One job after another keeps an agreement if the first leaves what the second needs. -/
theorem Job.Keeps.bind {job : Job τ σ α} {k : α → Job τ σ β} {post : β → M → Prop} {g : M}
    (h : job.Keeps agreement (fun value g => (k value).Keeps agreement post g) g) :
    (job.bind k).Keeps agreement post g := by
  -- induction on the first job, each step of which leaves the rest of it a share
  induction job generalizing g with
  | finish | panic => exact h
  | atomically change next ih =>
    refine ⟨h.1, fun ledger others hholds => ?_⟩
    obtain ⟨g', hg', hnext⟩ := h.2 ledger others hholds
    exact ⟨g', hg', ih _ hnext⟩
  | await ready next ih => exact ⟨h.1, ih h.2⟩
  | submit task next ih =>
    refine ⟨fun ledger others hopen hholds => ?_, fun ledger others hclosed hholds => ?_⟩
    · obtain ⟨g', hg', hnext⟩ := h.1 ledger others hopen hholds
      exact ⟨g', hg', ih _ hnext⟩
    · obtain ⟨g', hg', hnext⟩ := h.2 ledger others hclosed hholds
      exact ⟨g', hg', ih _ hnext⟩
  | awaitIdle next ih => exact ⟨h.1, ih h.2⟩
  | shutdown next ih => exact ⟨h.1, ih h.2⟩
  | joinWorkers next ih => exact ih h

theorem Job.keeps_look {view : σ → α} {post : α → M → Prop} {g : M}
    (hpermits : agreement.permits id g) (hpost : ∀ value, post value g) :
    (Job.look view).Keeps agreement post g :=
  ⟨hpermits, fun _ _ hholds => ⟨g, hholds, hpost _⟩⟩

theorem Job.keeps_modify {change : σ → σ} {post : Unit → M → Prop} {g g' : M}
    (hpermits : agreement.permits change g)
    (hchange : ∀ ledger others, agreement.holds ledger (g + others) →
      agreement.holds { ledger with memory := change ledger.memory } (g' + others))
    (hpost : post () g') : (Job.modify change).Keeps agreement post g :=
  ⟨hpermits, fun ledger others hholds => ⟨g', hchange ledger others hholds, hpost⟩⟩

/-- Every change that a job makes to the memory is of one kind. -/
def Job.ChangesOnly (kind : (σ → σ) → Prop) : Job τ σ α → Prop
  | .finish _ | .panic _ => True
  | .atomically change next => kind change ∧ ∀ memory, (next memory).ChangesOnly kind
  | .submit _ next => ∀ accepted, (next accepted).ChangesOnly kind
  | .await _ next | .awaitIdle next | .shutdown next | .joinWorkers next => next.ChangesOnly kind

/-- A job that holds nothing keeps an agreement if its changes do not concern the invariant. -/
theorem Job.ChangesOnly.keeps {kind : (σ → σ) → Prop} {job : Job τ σ α} (h : job.ChangesOnly kind)
    (hchange : ∀ change, kind change → agreement.permits change 0 ∧ ∀ ledger m,
      agreement.holds ledger m → agreement.holds { ledger with memory := change ledger.memory } m)
    (haccept : ∀ ledger m task, ledger.isShutdown = false → agreement.holds ledger m →
      agreement.holds { ledger with accepted := ledger.accepted ++ [task] }
        (agreement.share task + m))
    (hrefuse : ∀ ledger m task, agreement.holds ledger m →
      agreement.holds { ledger with refused := ledger.refused ++ [task] } m)
    (hshutdown : ∀ ledger m, agreement.holds ledger m →
      agreement.holds { ledger with isShutdown := true } m) :
    job.Keeps agreement Spent 0 := by
  induction job with
  | finish | panic => rfl
  | atomically change next ih =>
    obtain ⟨hpermits, hholds⟩ := hchange change h.1
    exact ⟨hpermits, fun ledger others hledger => ⟨0, hholds ledger _ hledger, ih _ (h.2 _)⟩⟩
  | await ready next ih | awaitIdle next ih => exact ⟨rfl, ih h⟩
  | submit task next ih =>
    refine ⟨fun ledger others hopen hledger => ⟨0, ?_, ih _ (h _)⟩,
      fun ledger others _ hledger => ⟨0, hrefuse ledger _ task hledger, ih _ (h _)⟩⟩
    rw [zero_add] at hledger ⊢
    exact haccept ledger others task hopen hledger
  | shutdown next ih => exact ⟨fun ledger others => hshutdown ledger (0 + others), ih h⟩
  | joinWorkers next ih => exact ih h

/-- A thread with a share keeps an agreement. -/
def Activity.Keeps (agreement : Agreement τ σ M) : Activity τ σ α → M → Prop
  | .running job, g => job.Keeps agreement Spent g
  | .notifyOne next, g | .notifyAll next, g | .joining _ next, g => next.Keeps agreement Spent g
  | .idle next, g => g = 0 ∧ next.Keeps agreement Spent 0
  | .done _, g | .panicked _, g => g = 0

/-- A worker with a share keeps an agreement. -/
def Worker.Keeps (agreement : Agreement τ σ M) : Worker τ σ → M → Prop
  | .looking, g | .asleep, g | .exited, g => g = 0
  | .running _ activity, g => activity.Keeps agreement g

theorem Activity.Keeps.roused {activity : Activity τ σ α} {g : M}
    (h : activity.Keeps agreement g) : activity.roused.Keeps agreement g := by
  cases activity with
  | _ => exact h

theorem Worker.Keeps.roused {worker : Worker τ σ} {g : M} (h : worker.Keeps agreement g) :
    worker.roused.Keeps agreement g := by
  cases worker with
  | running ticket activity => exact Activity.Keeps.roused h
  | _ => exact h

theorem Worker.Keeps.woken {worker : Worker τ σ} {g : M} (h : worker.Keeps agreement g) :
    worker.woken.Keeps agreement g := by
  cases worker with
  | _ => exact h

/-! ## Sums of shares -/

/-- The sum of what the members of a list hold. -/
inductive Total (holds : β → M → Prop) : List β → M → Prop
  | nil : Total holds [] 0
  | cons {b : β} {l : List β} {g m : M} (h : holds b g) (hrest : Total holds l m) :
    Total holds (b :: l) (g + m)

namespace Total

variable {holds : β → M → Prop} {l : List β} {m : M}

/-- The share of one member, beside those of the others. -/
theorem focus (h : Total holds l m) {i : Nat} {b : β} (hi : l[i]? = some b) :
    ∃ g others, holds b g ∧ m = g + others ∧
      ∀ b' g', holds b' g' → Total holds (l.set i b') (g' + others) := by
  -- induction on the list, along with the place of the member in it
  induction h generalizing i with
  | nil => simp at hi
  | @cons c l g m hc hrest ih =>
    cases i with
    | zero =>
      cases hi
      exact ⟨g, m, hc, rfl, fun b' g' hb' => .cons hb' hrest⟩
    | succ i =>
      obtain ⟨g', others, hb, hm, hset⟩ := ih hi
      refine ⟨g', g + others, hb, by rw [hm, add_left_comm], fun b' g'' hb' => ?_⟩
      rw [List.set_cons_succ, add_left_comm]
      exact .cons hc (hset b' g'' hb')

theorem map {f : β → γ} {holds' : γ → M → Prop} (h : Total holds l m)
    (hf : ∀ b g, holds b g → holds' (f b) g) : Total holds' (l.map f) m := by
  induction h with
  | nil => exact .nil
  | cons hb _ ih => exact .cons (hf _ _ hb) ih

theorem eq_zero (h : Total holds l m) (hzero : ∀ b ∈ l, ∀ g, holds b g → g = 0) : m = 0 := by
  induction h with
  | nil => rfl
  | cons hb _ ih =>
    rw [hzero _ List.mem_cons_self _ hb, ih fun b hb' => hzero b (List.mem_cons_of_mem _ hb'),
      add_zero]

theorem of_forall {g : M} (h : ∀ b ∈ l, holds b g) : Total holds l (l.length • g) := by
  induction l with
  | nil =>
    rw [List.length_nil, zero_nsmul]
    exact .nil
  | cons b l ih =>
    rw [List.length_cons, succ_nsmul']
    exact .cons (h b List.mem_cons_self) (ih fun b' hb' => h b' (List.mem_cons_of_mem _ hb'))

end Total

/-! ## Pools -/

namespace Pool

/-- What an invariant is about, in a pool that has refused some tasks. -/
def ledger (pool : Pool τ σ α) (refused : List τ) : Ledger τ σ :=
  ⟨pool.memory, pool.accepted, refused, pool.isShutdown⟩

/-- The shares that are set aside for tasks that wait. -/
def setAside (agreement : Agreement τ σ M) (pool : Pool τ σ α) : M :=
  (pool.queue.map fun entry => agreement.share entry.2).sum

/-- Every thread of a pool keeps an agreement, and the invariant holds of all their shares. -/
def Keeps (agreement : Agreement τ σ M) (pool : Pool τ σ α) (refused : List τ) : Prop :=
  ∃ ofWorkers ofClients, Total (Worker.Keeps agreement) pool.workers ofWorkers ∧
    Total (Activity.Keeps agreement) pool.clients ofClients ∧
    agreement.holds (pool.ledger refused) (ofWorkers + ofClients + pool.setAside agreement)

/-- A step of a thread keeps the agreement, whatever the others hold. -/
theorem Advance.keeps {pool mid : Pool τ σ α} {self wakes : Option Nat}
    {activity activity' : Activity τ σ β} (h : pool.Advance self wakes activity mid activity')
    {refused : List τ} {g others : M} (hkeeps : activity.Keeps agreement g)
    (hholds : agreement.holds (pool.ledger refused) (g + others + pool.setAside agreement)) :
    ∃ g', activity'.Keeps agreement g' ∧
      agreement.holds
        (mid.ledger (refused ++ if pool.isShutdown then activity.offer?.toList else []))
        (g' + others + mid.setAside agreement) := by
  -- only a task that is submitted can be refused
  have hnone : ∀ {a : Activity τ σ β}, a.offer? = none →
      (refused ++ if pool.isShutdown then a.offer?.toList else []) = refused := by
    intro a ha
    simp [ha]
  cases h with
  | finish | panic | takeHandles | wakeNone | wakeSome | wakeAll | joined | join =>
    rw [hnone rfl]
    exact ⟨g, hkeeps, hholds⟩
  | await =>
    rw [hnone rfl]
    obtain ⟨rfl, hnext⟩ := hkeeps
    exact ⟨0, hnext, hholds⟩
  | pass | rest =>
    rw [hnone rfl]
    obtain ⟨rfl, hnext⟩ := hkeeps
    exact ⟨0, by first | exact hnext | exact ⟨rfl, hnext⟩, hholds⟩
  | atomically =>
    rw [hnone rfl]
    rw [add_assoc] at hholds
    obtain ⟨g', hg', hnext⟩ := hkeeps.2 _ _ hholds
    exact ⟨g', hnext, by rwa [add_assoc]⟩
  | @accept task next hopen =>
    rw [add_assoc] at hholds
    obtain ⟨g', hg', hnext⟩ := hkeeps.1 _ _ hopen hholds
    refine ⟨g', hnext, ?_⟩
    -- the thread gives up the share of the task, which is set aside for it
    have haside : (pool.enqueue task).setAside agreement =
        pool.setAside agreement + agreement.share task := by simp [setAside, enqueue]
    rw [haside, hopen]
    convert hg' using 1
    · simp [ledger, enqueue, hopen]
    · abel
  | @refuse task next hclosed =>
    rw [add_assoc] at hholds
    obtain ⟨g', hg', hnext⟩ := hkeeps.2 _ _ hclosed hholds
    refine ⟨g', hnext, ?_⟩
    rw [hclosed, add_assoc]
    exact hg'
  | shutdown =>
    rw [hnone rfl]
    rw [add_assoc] at hholds
    exact ⟨g, hkeeps.2, by rw [add_assoc]; exact hkeeps.1 _ _ hholds⟩

/-- Waking workers changes nobody's share. -/
theorem Advance.total_workers {pool mid : Pool τ σ α} {self wakes : Option Nat}
    {activity activity' : Activity τ σ β} (h : pool.Advance self wakes activity mid activity')
    {m : M} (hworkers : Total (Worker.Keeps agreement) pool.workers m) :
    Total (Worker.Keeps agreement) mid.workers m := by
  cases h with
  | @wakeSome i next hasleep =>
    obtain ⟨g, others, hg, rfl, hset⟩ := hworkers.focus hasleep
    exact hset .looking g hg
  | wakeAll => exact hworkers.map fun _ _ => Worker.Keeps.woken
  | _ => exact hworkers

theorem Keeps.endTask {pool : Pool τ σ α} {refused : List τ} (h : pool.Keeps agreement refused)
    (ticket : Nat) : (pool.endTask ticket).Keeps agreement refused := by
  obtain ⟨ofWorkers, ofClients, hworkers, hclients, hholds⟩ := h
  unfold Pool.endTask
  dsimp only
  split
  · exact ⟨ofWorkers, ofClients, hworkers.map fun _ _ => Worker.Keeps.roused,
      hclients.map fun _ _ => Activity.Keeps.roused, hholds⟩
  · exact ⟨ofWorkers, ofClients, hworkers, hclients, hholds⟩

/-- Changing what a worker does that holds nothing. -/
theorem Keeps.setWorker {pool : Pool τ σ α} {refused : List τ} (h : pool.Keeps agreement refused)
    {i : Nat} {worker : Worker τ σ} (worker' : Worker τ σ) (hi : pool.workers[i]? = some worker)
    (hworker : ∀ g : M, worker.Keeps agreement g → worker'.Keeps agreement g) :
    ({ pool with workers := pool.workers.set i worker' } : Pool τ σ α).Keeps agreement refused := by
  obtain ⟨ofWorkers, ofClients, hworkers, hclients, hholds⟩ := h
  obtain ⟨g, others, hg, rfl, hset⟩ := hworkers.focus hi
  exact ⟨_, ofClients, hset worker' g (hworker g hg), hclients, hholds⟩

/-- **Every event keeps what all threads have agreed on**, if the tasks keep it. -/
theorem Keeps.moves {body : τ → Job τ σ Unit} {pool next : Pool τ σ α} {event : Event}
    {refused : List τ} (hmoves : pool.Moves body event next)
    (hbody : ∀ task, (body task).Keeps agreement Spent (agreement.share task))
    (h : pool.Keeps agreement refused) : next.Keeps agreement (refused ++ pool.refusedBy event) := by
  have hnone : ∀ {e}, pool.offer? e = none → refused ++ pool.refusedBy e = refused := by
    intro e he
    simp [refusedBy, he]
  cases hmoves with
  | @client i wakes activity activity' mid hi hadvance =>
    obtain ⟨ofWorkers, ofClients, hworkers, hclients, hholds⟩ := h
    obtain ⟨g, others, hg, rfl, hset⟩ := hclients.focus hi
    rw [add_left_comm ofWorkers] at hholds
    obtain ⟨g', hg', hholds'⟩ := hadvance.keeps hg hholds
    refine ⟨ofWorkers, g' + others, hadvance.total_workers hworkers, ?_, ?_⟩
    · simpa [hadvance.clients_eq] using hset activity' g' hg'
    · have hrefused : pool.refusedBy (.client i wakes) =
          if pool.isShutdown then activity.offer?.toList else [] := by
        simp [refusedBy, offer?, hi]
      rw [hrefused]
      change agreement.holds (mid.ledger _) (ofWorkers + (g' + others) + mid.setAside agreement)
      rwa [add_left_comm ofWorkers]
  | @task i wakes ticket activity activity' mid hi hadvance =>
    obtain ⟨ofWorkers, ofClients, hworkers, hclients, hholds⟩ := h
    obtain ⟨g, others, hg, rfl, hset⟩ :=
      (hadvance.total_workers hworkers).focus (hadvance.running hi)
    rw [add_assoc g] at hholds
    obtain ⟨g', hg', hholds'⟩ := hadvance.keeps hg hholds
    refine ⟨g' + others, ofClients, hset _ g' hg', ?_, ?_⟩
    · simpa [hadvance.clients_eq] using hclients
    · have hrefused : pool.refusedBy (.worker i wakes) =
          if pool.isShutdown then activity.offer?.toList else [] := by
        simp [refusedBy, offer?, hi]
      rw [hrefused]
      change agreement.holds (mid.ledger _) (g' + others + ofClients + mid.setAside agreement)
      rwa [add_assoc g']
  | @take i wakes ticket task queue hi hqueue =>
    rw [hnone (by simp [offer?, hi])]
    obtain ⟨ofWorkers, ofClients, hworkers, hclients, hholds⟩ := h
    obtain ⟨g, others, rfl, rfl, hset⟩ := hworkers.focus hi
    refine ⟨_, ofClients, hset _ _ (hbody task), hclients, ?_⟩
    -- what was set aside for the task is the share of its worker now
    have haside : pool.setAside agreement =
        agreement.share task + (queue.map fun entry => agreement.share entry.2).sum := by
      simp [setAside, hqueue]
    rw [haside, zero_add] at hholds
    change agreement.holds (pool.ledger refused) (agreement.share task + others + ofClients +
      (queue.map fun entry => agreement.share entry.2).sum)
    convert hholds using 1
    abel
  | doze hi | leave hi =>
    rw [hnone (by simp [offer?, hi])]
    exact h.setWorker _ hi fun _ hg => hg
  | done hi =>
    rw [hnone (by simp [offer?, hi, Activity.offer?])]
    exact (h.setWorker .looking hi fun _ hg => hg).endTask _
  | @panicked i wakes ticket payload hi =>
    rw [hnone (by simp [offer?, hi, Activity.offer?])]
    have hlogged : ({ pool with panics := pool.panics ++ [(i, payload)] } : Pool τ σ α).Keeps
        agreement refused := h
    exact (hlogged.setWorker .looking hi fun _ hg => hg).endTask _
  | rouseWorker hi | rouseTask hi =>
    rw [hnone rfl]
    exact h.setWorker _ hi fun _ hg => hg
  | @rouseClient i next hi =>
    rw [hnone rfl]
    obtain ⟨ofWorkers, ofClients, hworkers, hclients, hholds⟩ := h
    obtain ⟨g, others, hg, rfl, hset⟩ := hclients.focus hi
    exact ⟨ofWorkers, _, hworkers, hset _ g hg, hholds⟩

theorem IsReady.keeps {memory : σ} {clients : List (Job τ σ α)} {pool : Pool τ σ α}
    (h : pool.IsReady memory clients) {ofClients : M}
    (hclients : Total (Job.Keeps agreement Spent) clients ofClients)
    (hholds : agreement.holds ⟨memory, [], [], pool.isShutdown⟩ ofClients) :
    pool.Keeps agreement [] := by
  refine ⟨pool.workers.length • 0, ofClients, .of_forall fun worker hworker => ?_, ?_, ?_⟩
  · -- a worker that runs nothing holds nothing
    have hrunning := h.isRunning_eq worker hworker
    cases worker with
    | running => cases hrunning
    | _ => rfl
  · rw [h.clients_eq]
    exact hclients.map fun _ _ => id
  · simpa [setAside, h.queue_eq, ledger, h.memory_eq, h.accepted_eq] using hholds

/-- A client is permitted what it is about to do, and the invariant holds of its share and others. -/
theorem Keeps.permits_client {pool : Pool τ σ α} {refused : List τ} (h : pool.Keeps agreement refused)
    {change : σ → σ} {next : σ → Job τ σ α}
    (hrunning : .running (.atomically change next) ∈ pool.clients) :
    ∃ g others, agreement.permits change g ∧ agreement.holds (pool.ledger refused) (g + others) := by
  obtain ⟨ofWorkers, ofClients, -, hclients, hholds⟩ := h
  obtain ⟨i, hi⟩ := List.mem_iff_getElem?.mp hrunning
  obtain ⟨g, others, hg, rfl, -⟩ := hclients.focus hi
  refine ⟨g, ofWorkers + others + pool.setAside agreement, hg.1, ?_⟩
  rwa [add_left_comm, add_assoc g] at hholds

/-- A task is permitted what it is about to do, and the invariant holds of its share and others. -/
theorem Keeps.permits_task {pool : Pool τ σ α} {refused : List τ} (h : pool.Keeps agreement refused)
    {ticket : Nat} {change : σ → σ} {next : σ → Job τ σ Unit}
    (hrunning : .running ticket (.running (.atomically change next)) ∈ pool.workers) :
    ∃ g others, agreement.permits change g ∧ agreement.holds (pool.ledger refused) (g + others) := by
  obtain ⟨ofWorkers, ofClients, hworkers, -, hholds⟩ := h
  obtain ⟨i, hi⟩ := List.mem_iff_getElem?.mp hrunning
  obtain ⟨g, others, hg, rfl, -⟩ := hworkers.focus hi
  refine ⟨g, others + ofClients + pool.setAside agreement, hg.1, ?_⟩
  rwa [add_assoc g, add_assoc g] at hholds

/-- **Every event changes the memory only as is permitted.** -/
theorem Keeps.rel_memory {body : τ → Job τ σ Unit} {pool next : Pool τ σ α} {event : Event}
    {refused : List τ} (h : pool.Keeps agreement refused) (hmoves : pool.Moves body event next)
    {rel : σ → σ → Prop} (hrefl : ∀ memory, rel memory memory)
    (hpermits : ∀ change g ledger others, agreement.permits change g →
      agreement.holds ledger (g + others) → rel ledger.memory (change ledger.memory)) :
    rel pool.memory next.memory := by
  cases hmoves with
  | client hi hadvance =>
    cases hadvance with
    | atomically =>
      obtain ⟨g, others, hpermitted, hholds⟩ := h.permits_client (List.mem_of_getElem? hi)
      exact hpermits _ g _ others hpermitted hholds
    | _ => exact hrefl _
  | task hi hadvance =>
    cases hadvance with
    | atomically =>
      obtain ⟨g, others, hpermitted, hholds⟩ := h.permits_task (List.mem_of_getElem? hi)
      exact hpermits _ g _ others hpermitted hholds
    | _ => exact hrefl _
  | done | panicked =>
    rw [memory_endTask]
    exact hrefl _
  | _ => exact hrefl _

/-- What all threads of a reached pool have agreed on. -/
theorem Reached.keeps {bodies : (τ → Job τ σ Unit) → Prop} {start pool : Pool τ σ α}
    {refused : List τ} (h : Reached bodies start pool refused)
    (hbodies : ∀ body, bodies body →
      ∀ task, (body task).Keeps agreement Spent (agreement.share task))
    (hstart : start.Keeps agreement []) : pool.Keeps agreement refused :=
  h.invariant hstart fun hbody hmoves hkeeps => hkeeps.moves hmoves (hbodies _ hbody)

end Pool

end Concordance
