import Concordance.Proofs.Pool.Pending
import Concordance.Proofs.Pool.Shares

/-!
# Waiting for an idle pool

A client gives tasks to a pool, waits until the pool is idle, and reads the memory. If the other
clients neither change the memory nor submit tasks, then nothing changes any more once the pool was
seen idle. What the client reads is what all threads have agreed on, with nothing left to do.

## Main definitions

* `Job.IsBystander`: a job that neither changes the memory nor submits tasks
* `Job.Looks`: a job that looks at the memory, and does nothing else
* `Job.ReadsWhenIdle`: a job that reads the memory after it has seen the pool idle
* `Pool.IsReturning`: how far the client has come

## Main results

* `IsReturning.moves`: every event brings the client on its way, or leaves it where it is
* `Keeps.returned`: what holds when the client has its result
-/

namespace Concordance

variable {τ σ α β M : Type}

/-! ## Jobs -/

/-- A job that neither changes the memory nor submits tasks. It may shut the pool down. -/
def Job.IsBystander : Job τ σ α → Prop
  | .finish _ | .panic _ => True
  | .atomically _ _ | .submit _ _ => False
  | .await _ next | .awaitIdle next | .shutdown next | .joinWorkers next => next.IsBystander

/-- A job that leaves the memory as it is, and comes to a value. -/
def Job.Reads (memory : σ) (value : α) : Job τ σ α → Prop
  | .finish result => result = value
  | .atomically change next => change memory = memory ∧ (next memory).Reads memory value
  | _ => False

/-- A job that sees the pool idle, and only then reads the memory. -/
def Job.ReadsWhenIdle (view : σ → α) : Job τ σ α → Prop
  | .finish _ | .panic _ => False
  | .atomically _ next => ∀ memory, (next memory).ReadsWhenIdle view
  | .submit _ next => ∀ accepted, (next accepted).ReadsWhenIdle view
  | .await _ next | .shutdown next | .joinWorkers next => next.ReadsWhenIdle view
  | .awaitIdle next => ∀ memory, next.Reads memory (view memory)

/-- A job that may look at the memory, and does nothing else. -/
def Job.Looks : Job τ σ α → Prop
  | .finish _ => True
  | .atomically change next => change = id ∧ ∀ memory, (next memory).Looks
  | _ => False

theorem Job.looks_look (view : σ → α) : (look view : Job τ σ α).Looks :=
  ⟨rfl, fun _ => trivial⟩

theorem Job.Looks.changesOnly {job : Job τ σ α} (h : job.Looks) : job.ChangesOnly (· = id) := by
  induction job with
  | finish => trivial
  | atomically change next ih => exact ⟨h.1, fun memory => ih memory (h.2 memory)⟩
  | _ => exact h.elim

/-- A thread that neither changes the memory nor submits tasks. -/
def Activity.IsBystander : Activity τ σ α → Prop
  | .running job => job.IsBystander
  | .notifyOne _ => False
  | .notifyAll next | .idle next | .joining _ next => next.IsBystander
  | .done _ | .panicked _ => True

/-- A thread that has read the memory, or is about to. -/
def Activity.Reads (memory : σ) (value : α) : Activity τ σ α → Prop
  | .running job => job.Reads memory value
  | .done result => result = value
  | _ => False

/-- A thread that has not seen the pool idle, but will see it idle before it reads the memory. -/
def Activity.ReadsWhenIdle (view : σ → α) : Activity τ σ α → Prop
  | .running job => job.ReadsWhenIdle view
  | .notifyOne next | .notifyAll next | .joining _ next => next.ReadsWhenIdle view
  | .idle next => ∀ memory, next.Reads memory (view memory)
  | .done _ | .panicked _ => False

/-- A thread that may look at the memory, and does nothing else. -/
def Activity.Looks : Activity τ σ α → Prop
  | .running job => job.Looks
  | .done _ => True
  | _ => False

theorem Activity.Looks.roused {activity : Activity τ σ α} (h : activity.Looks) :
    activity.roused = activity := by
  cases activity with
  | idle => exact h.elim
  | _ => rfl

theorem Activity.ReadsWhenIdle.roused {view : σ → α} {activity : Activity τ σ α}
    (h : activity.ReadsWhenIdle view) : activity.roused.ReadsWhenIdle view := by
  cases activity with
  | _ => exact h

theorem Activity.IsBystander.roused {activity : Activity τ σ α} (h : activity.IsBystander) :
    activity.roused.IsBystander := by
  cases activity with
  | _ => exact h

namespace Pool

theorem Advance.isBystander {pool mid : Pool τ σ α} {self wakes : Option Nat}
    {activity activity' : Activity τ σ β} (h : pool.Advance self wakes activity mid activity')
    (hbystander : activity.IsBystander) :
    activity'.IsBystander ∧ mid.memory = pool.memory ∧ mid.pending = pool.pending := by
  cases h with
  | atomically | accept | refuse | wakeNone | wakeSome => exact hbystander.elim
  | finish | panic => exact ⟨trivial, rfl, rfl⟩
  | _ => exact ⟨hbystander, rfl, rfl⟩

theorem Advance.reads {pool mid : Pool τ σ α} {self wakes : Option Nat}
    {activity activity' : Activity τ σ β} (h : pool.Advance self wakes activity mid activity')
    {value : β} (hreads : activity.Reads pool.memory value) :
    activity'.Reads mid.memory value ∧ mid.memory = pool.memory ∧ mid.pending = pool.pending := by
  cases h with
  | finish => exact ⟨hreads, rfl, rfl⟩
  | @atomically change next =>
    obtain ⟨hsame, hnext⟩ := hreads
    refine ⟨?_, hsame, rfl⟩
    dsimp only
    rw [hsame]
    exact hnext
  | _ => exact hreads.elim

theorem Advance.looks {pool mid : Pool τ σ α} {self wakes : Option Nat}
    {activity activity' : Activity τ σ β} (h : pool.Advance self wakes activity mid activity')
    (hlooks : activity.Looks) : activity'.Looks ∧ mid = pool := by
  cases h with
  | finish => exact ⟨trivial, rfl⟩
  | atomically =>
    obtain ⟨rfl, hnext⟩ := hlooks
    exact ⟨hnext _, rfl⟩
  | _ => exact hlooks.elim

theorem Advance.readsWhenIdle {pool mid : Pool τ σ α} {self wakes : Option Nat}
    {activity activity' : Activity τ σ β} (h : pool.Advance self wakes activity mid activity')
    {view : σ → β} (hreads : activity.ReadsWhenIdle view) :
    activity'.ReadsWhenIdle view ∨
      mid.pending = 0 ∧ activity'.Reads mid.memory (view mid.memory) := by
  cases h with
  | finish | panic => exact hreads.elim
  | pass hpending => exact .inr ⟨hpending, hreads _⟩
  | atomically | accept | refuse => exact .inl (hreads _)
  | _ => exact .inl hreads

/-! ## Pools -/

/-- How far a client has come that sees the pool idle and then reads the memory, while the other
clients only stand by. -/
structure IsReturning (view : σ → α) (reader : Nat) (pool : Pool τ σ α) : Prop where
  client : ∃ activity, pool.clients[reader]? = some activity ∧
    (activity.ReadsWhenIdle view ∨
      pool.pending = 0 ∧ activity.Reads pool.memory (view pool.memory))
  others : ∀ i activity, i ≠ reader → pool.clients[i]? = some activity → activity.IsBystander

variable {view : σ → α} {reader : Nat}

/-- Another client does something. -/
theorem IsReturning.setOther {pool : Pool τ σ α} (h : pool.IsReturning view reader) {i : Nat}
    (hi : i ≠ reader) {activity : Activity τ σ α} (hactivity : activity.IsBystander) :
    ({ pool with clients := pool.clients.set i activity } : Pool τ σ α).IsReturning view reader where
  client := by
    obtain ⟨a, ha, hphase⟩ := h.client
    exact ⟨a, by rwa [List.getElem?_set_ne hi], hphase⟩
  others j a hj ha := by
    rw [List.getElem?_set] at ha
    split at ha
    · split at ha
      · cases ha
        exact hactivity
      · cases ha
    · exact h.others j a hj ha

/-- The client does something. -/
theorem IsReturning.setReader {pool mid : Pool τ σ α} (h : pool.IsReturning view reader)
    (hclients : mid.clients = pool.clients) {activity : Activity τ σ α}
    (hactivity : activity.ReadsWhenIdle view ∨
      mid.pending = 0 ∧ activity.Reads mid.memory (view mid.memory)) :
    ({ mid with clients := mid.clients.set reader activity } : Pool τ σ α).IsReturning view
      reader where
  client := by
    obtain ⟨a, ha, -⟩ := h.client
    rw [← hclients] at ha
    exact ⟨activity, List.getElem?_set_self (List.getElem?_eq_some_iff.mp ha).1, hactivity⟩
  others j a hj ha := by
    rw [List.getElem?_set_ne hj.symm, hclients] at ha
    exact h.others j a hj ha

/-- What does not change while the pool is idle, does not concern the clients. -/
theorem IsReturning.of_pending {pool next : Pool τ σ α} (h : pool.IsReturning view reader)
    (hclients : next.clients = pool.clients)
    (hidle : pool.pending = 0 → next.memory = pool.memory ∧ next.pending = 0) :
    next.IsReturning view reader where
  client := by
    obtain ⟨a, ha, hphase⟩ := h.client
    refine ⟨a, hclients ▸ ha, hphase.imp_right fun ⟨hpending, hreads⟩ => ?_⟩
    obtain ⟨hmemory, hpending'⟩ := hidle hpending
    exact ⟨hpending', hmemory ▸ hreads⟩
  others i a hi ha := h.others i a hi (hclients ▸ ha)

/-- A task ends, so the pool was not idle. -/
theorem IsReturning.endTask {pool : Pool τ σ α} (h : pool.IsReturning view reader)
    (hpending : pool.pending ≠ 0) (ticket : Nat) :
    (pool.endTask ticket).IsReturning view reader := by
  unfold Pool.endTask
  dsimp only
  split
  · obtain ⟨a, ha, hphase⟩ := h.client
    constructor
    · obtain hphase | ⟨hidle, -⟩ := hphase
      · exact ⟨a.roused, by simp [ha], .inl hphase.roused⟩
      · exact absurd hidle hpending
    · intro i b hi hb
      obtain ⟨a, ha, rfl⟩ := Option.map_eq_some_iff.mp (List.getElem?_map ▸ hb)
      exact (h.others i a hi ha).roused
  · exact h.of_pending rfl fun hidle => absurd hidle hpending

/-- **Every event brings the client on its way**, or leaves it where it is. -/
theorem IsReturning.moves {body : τ → Job τ σ Unit} {pool next : Pool τ σ α} {event : Event}
    (hmoves : pool.Moves body event next) (hcounted : pool.IsCounted)
    (h : pool.IsReturning view reader) : next.IsReturning view reader := by
  cases hmoves with
  | @client i wakes activity activity' mid hi hadvance =>
    rcases eq_or_ne i reader with rfl | hne
    · obtain ⟨a, ha, hphase⟩ := h.client
      rw [ha] at hi
      cases hi
      obtain hphase | ⟨hpending, hreads⟩ := hphase
      · -- the client has not seen the pool idle, or sees it now
        exact h.setReader hadvance.clients_eq (hadvance.readsWhenIdle hphase)
      · -- the client has seen the pool idle, and goes on reading
        obtain ⟨hreads', hmemory, hpending'⟩ := hadvance.reads hreads
        refine h.setReader hadvance.clients_eq (.inr ⟨hpending'.trans hpending, ?_⟩)
        rw [hmemory] at hreads' ⊢
        exact hreads'
    · -- another client changes nothing
      obtain ⟨hactivity, hmemory, hpending⟩ := hadvance.isBystander (h.others i _ hne hi)
      have hmid := h.of_pending hadvance.clients_eq fun hidle => ⟨hmemory, hpending.trans hidle⟩
      exact hmid.setOther hne hactivity
  | task hi hadvance =>
    refine h.of_pending hadvance.clients_eq fun hidle => ?_
    exact absurd hidle (hcounted.pending_ne_zero hi)
  | take hi hqueue =>
    refine h.of_pending rfl fun hidle => ?_
    -- a task waits, so the pool is not idle
    have hempty := (hcounted.idle hidle).1
    rw [hqueue] at hempty
    cases hempty
  | doze | leave | rouseWorker | rouseTask => exact h.of_pending rfl fun hidle => ⟨rfl, hidle⟩
  | @done i wakes ticket hi =>
    have hpool : ({ pool with workers := pool.workers.set i .looking } : Pool τ σ α).IsReturning view
        reader := h.of_pending rfl fun hidle => ⟨rfl, hidle⟩
    exact hpool.endTask (hcounted.pending_ne_zero hi) _
  | @panicked i wakes ticket payload hi =>
    have hpool : ({ pool with
        workers := pool.workers.set i .looking
        panics := pool.panics ++ [(i, payload)] } : Pool τ σ α).IsReturning view reader :=
      h.of_pending rfl fun hidle => ⟨rfl, hidle⟩
    exact hpool.endTask (hcounted.pending_ne_zero hi) _
  | @rouseClient i job hi =>
    rcases eq_or_ne i reader with rfl | hne
    · obtain ⟨a, ha, hphase⟩ := h.client
      rw [ha] at hi
      cases hi
      obtain hphase | ⟨-, hreads⟩ := hphase
      · exact h.setReader rfl (.inl hphase)
      · -- a client that reads does not sleep
        exact hreads.elim
    · have hbystander : Activity.IsBystander (.idle job) := h.others i _ hne hi
      exact h.setOther hne hbystander

theorem IsReady.isReturning {memory : σ} {job : Job τ σ α} {others : List (Job τ σ α)}
    {pool : Pool τ σ α} (h : pool.IsReady memory (job :: others)) (hjob : job.ReadsWhenIdle view)
    (hothers : ∀ other ∈ others, other.IsBystander) : pool.IsReturning view 0 where
  client := ⟨.running job, by simp [h.clients_eq], .inl hjob⟩
  others i activity hi hactivity := by
    rw [h.clients_eq, List.getElem?_map] at hactivity
    obtain ⟨other, hother, rfl⟩ := Option.map_eq_some_iff.mp hactivity
    obtain ⟨i, rfl⟩ := Nat.exists_eq_succ_of_ne_zero hi
    exact hothers other (List.mem_of_getElem? hother)

/-- A client that has its result has read it while nothing was pending, and nothing has changed since. -/
theorem IsReturning.of_result {pool : Pool τ σ α} (h : pool.IsReturning view reader) {value : α}
    (hresult : pool.result? reader = some value) :
    pool.clients[reader]? = some (.done value) ∧ pool.pending = 0 ∧ value = view pool.memory := by
  obtain ⟨activity, hactivity, hphase⟩ := h.client
  have hdone : activity = .done value := by
    rw [result?, hactivity] at hresult
    cases activity with
    | done result => cases hresult; rfl
    | _ => cases hresult
  subst hdone
  obtain hphase | ⟨hpending, hvalue⟩ := hphase
  · exact hphase.elim
  · exact ⟨hactivity, hpending, hvalue⟩

theorem Reached.isReturning {bodies : (τ → Job τ σ Unit) → Prop} {start pool : Pool τ σ α}
    {refused : List τ} (h : Reached bodies start pool refused) (hcounted : start.IsCounted)
    (hstart : start.IsReturning view reader) : pool.IsReturning view reader := by
  refine (h.invariant (p := fun pool _ => pool.IsCounted ∧ pool.IsReturning view reader)
    ⟨hcounted, hstart⟩ ?_).2
  intro body pool next refused event _ hmoves ⟨hcounted, hreturning⟩
  exact ⟨hcounted.moves hmoves, hreturning.moves hmoves hcounted⟩

/-- A client that is through has a result. -/
theorem IsReturning.result_of_isThrough {pool : Pool τ σ α} (h : pool.IsReturning view reader)
    (hthrough : ∀ activity, pool.clients[reader]? = some activity → activity.isThrough = true) :
    pool.result? reader = some (view pool.memory) := by
  obtain ⟨activity, hactivity, hphase⟩ := h.client
  have hactivityThrough := hthrough activity hactivity
  cases activity with
  | done value =>
    obtain hphase | ⟨-, rfl⟩ := hphase
    · exact hphase.elim
    · simp [result?, hactivity]
  | panicked payload =>
    obtain hphase | ⟨-, hphase⟩ := hphase
    · exact hphase.elim
    · exact hphase.elim
  | _ => cases hactivityThrough

end Pool

/-! ## What all threads have agreed on -/

variable [AddCommMonoid M] {agreement : Agreement τ σ M}

theorem Job.IsBystander.eq_zero {job : Job τ σ α} (h : job.IsBystander) {g : M}
    (hkeeps : job.Keeps agreement Spent g) : g = 0 := by
  induction job with
  | finish | panic => exact hkeeps
  | atomically | submit => exact h.elim
  | await | awaitIdle => exact hkeeps.1
  | joinWorkers next ih => exact ih h hkeeps
  | shutdown next ih => exact ih h hkeeps.2

theorem Job.IsBystander.keeps {job : Job τ σ α} (h : job.IsBystander)
    (hshutdown : ∀ ledger m, agreement.holds ledger m →
      agreement.holds { ledger with isShutdown := true } m) :
    job.Keeps agreement Spent 0 := by
  induction job with
  | finish | panic => rfl
  | atomically | submit => exact h.elim
  | joinWorkers next ih => exact ih h
  | await ready next ih | awaitIdle next ih => exact ⟨rfl, ih h⟩
  | shutdown next ih => exact ⟨fun ledger others => hshutdown ledger (0 + others), ih h⟩

theorem Activity.IsBystander.eq_zero {activity : Activity τ σ α} (h : activity.IsBystander) {g : M}
    (hkeeps : activity.Keeps agreement g) : g = 0 := by
  cases activity with
  | running | notifyAll | joining => exact Job.IsBystander.eq_zero h hkeeps
  | notifyOne => exact h.elim
  | idle => exact hkeeps.1
  | done | panicked => exact hkeeps

namespace Pool

/-- **What holds when the client has its result**: the memory is as it was read, and what all threads
have agreed on holds with nothing left to do. -/
theorem Keeps.returned {view : σ → α} {reader : Nat} {pool : Pool τ σ α} {refused : List τ}
    (h : pool.Keeps agreement refused) (hcounted : pool.IsCounted)
    (hreturning : pool.IsReturning view reader) {value : α}
    (hresult : pool.result? reader = some value) :
    value = view pool.memory ∧ agreement.holds (pool.ledger refused) 0 := by
  obtain ⟨hactivity, hpending, hvalue⟩ := hreturning.of_result hresult
  refine ⟨hvalue, ?_⟩
  -- the client has seen the pool idle, so no worker holds anything, and no task
  obtain ⟨hqueue, hworkers⟩ := hcounted.idle hpending
  obtain ⟨ofWorkers, ofClients, hofWorkers, hofClients, hholds⟩ := h
  have hworkersZero : ofWorkers = 0 := by
    refine hofWorkers.eq_zero fun worker hworker g hg => ?_
    have hrunning := hworkers worker hworker
    cases worker with
    | running => cases hrunning
    | _ => exact hg
  have hclientsZero : ofClients = 0 := by
    refine hofClients.eq_zero fun a ha g hg => ?_
    obtain ⟨i, hi⟩ := List.mem_iff_getElem?.mp ha
    rcases eq_or_ne i reader with rfl | hne
    · rw [hactivity] at hi
      cases hi
      exact hg
    · -- the other clients only stand by
      exact (hreturning.others i a hne hi).eq_zero hg
  have haside : pool.setAside agreement = 0 := by simp [setAside, hqueue]
  rw [hworkersZero, hclientsZero, haside, add_zero, add_zero] at hholds
  exact hholds

end Pool

end Concordance
