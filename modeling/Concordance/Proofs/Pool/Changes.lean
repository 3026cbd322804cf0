import Concordance.Proofs.Pool.Batch
import Mathlib.Algebra.Order.Group.Multiset

/-!
# Tasks that change the memory once

Where each task of a batch changes the memory in one step, the memory is always as the changes of some
tasks have left it, one after the other. When the client of the batch has its result, these are all
tasks, each of them once. Only their order depends on the schedule.

## Main definitions

* `changes`: what the memory and the tasks that are not done have to do with each other
* `Pool.IsStaffed`: a pool that takes tasks and has somebody to run them
* `Pool.Returns`: what a client gets and finds, whatever the schedule

## Main results

* `Reached.exists_perm_of_result`: what a client finds that has waited for a batch
* `IsStaffed.returns`: every schedule leads a client there that waits for a batch
* `Crew.exists_perm_of_isLive`: what a crew has done with a batch
-/

namespace Concordance

variable {τ σ α : Type} {change : τ → σ → σ} {memory : σ} {body : τ → Job τ σ Unit} {tasks : List τ}
  {k : Bool → Job τ σ α} {view : σ → α} {steps : Nat}

/-- The memory is as the changes of some tasks have left it, one after the other. The other tasks that
were accepted are still to be done. -/
def changes (change : τ → σ → σ) (memory : σ) : Agreement τ σ (Multiset τ) where
  share task := {task}
  holds ledger undone := ∃ done : List τ, (ledger.accepted : Multiset τ) = done + undone ∧
    ledger.memory = done.foldl (fun memory task => change task memory) memory

theorem modify_keeps_changes (task : τ) :
    (Job.modify (change task) : Job τ σ Unit).Keeps (changes change memory) Spent {task} := by
  have hspent : Spent () (0 : Multiset τ) := rfl
  refine Job.keeps_modify trivial ?_ hspent
  rintro ledger others ⟨done, haccepted, hmemory⟩
  -- the task is the last one that is done
  refine ⟨done ++ [task], ?_, ?_⟩
  · rw [haccepted, ← Multiset.coe_add, Multiset.coe_singleton, zero_add, add_assoc]
  · rw [List.foldl_append, ← hmemory]
    rfl

/-- A client that changes nothing itself has no share in the changes. -/
theorem keeps_changes_of_changesOnly {job : Job τ σ α} (h : job.ChangesOnly (· = id)) :
    job.Keeps (changes change memory) Spent 0 := by
  apply h.keeps
  · rintro _ rfl
    exact ⟨trivial, fun _ _ hledger => hledger⟩
  · -- a task that is accepted is still to be done
    rintro ledger undone task - ⟨done, haccepted, hmemory⟩
    refine ⟨done, ?_, hmemory⟩
    dsimp only
    rw [← Multiset.coe_add, haccepted, Multiset.coe_singleton, add_assoc, add_comm undone]
    rfl
  · exact fun _ _ _ hledger => hledger
  · exact fun _ _ hledger => hledger

namespace Pool

variable {start pool : Pool τ σ α} {refused : List τ}

/-- A client that has its result has seen the pool idle. -/
theorem IsBatch.isReturning {taskSteps : Nat} (h : pool.IsBatch tasks k view taskSteps steps)
    {value : α} (hresult : pool.result? 0 = some value) :
    pool.IsReturning view 0 ∧ pool.accepted = tasks := by
  obtain ⟨activity, hactivity, hphase⟩ := h.client
  rw [result?, hactivity] at hresult
  cases hphase with
  | submits | signals | sleeps => cases hresult
  | reads haccepted hpending hreads =>
    refine ⟨⟨⟨activity, by rw [hactivity]; rfl, .inr ⟨hpending, hreads⟩⟩, ?_⟩, haccepted⟩
    -- there is no other client
    intro i other hi hother
    rw [hactivity, List.getElem?_singleton, if_neg hi] at hother
    cases hother

/-- A pool that takes tasks and has somebody to run them. It may have done other work before, the history
of which is left out. -/
structure IsStaffed (memory : σ) (client : Job τ σ α) (pool : Pool τ σ α) : Prop
    extends pool.IsUnused memory [client] where
  isShutdown_eq : pool.isShutdown = false
  workers_ne : pool.workers ≠ []

/-- A client gets its result whatever the schedule, and the result and the memory that it finds then have
a property. -/
structure Returns (body : τ → Job τ σ Unit) (p : α → σ → Prop) (start : Pool τ σ α) : Prop where
  bounded : ∃ bound, ∀ events pool, start.run body events = some pool →
    events.length ≤ bound + 2 * events.countP Event.isSpurious
  exists_result : ∀ pool refused, Reached (· = body) start pool refused → pool.IsStuck body →
    ∃ value, pool.result? 0 = some value
  property : ∀ pool refused value, Reached (· = body) start pool refused →
    pool.result? 0 = some value → p value pool.memory

theorem Returns.imp {p q : α → σ → Prop} (h : start.Returns body p)
    (himp : ∀ value memory, p value memory → q value memory) : start.Returns body q :=
  ⟨h.bounded, h.exists_result, fun pool refused value hreached hresult =>
    himp value pool.memory (h.property pool refused value hreached hresult)⟩

section Modify

variable (hbody : ∀ task, body task = .modify (change task))
  (hreads : ∀ memory, (k true).Reads memory (view memory))
  (hk : ∀ accepted, (k accepted).Lasts true false steps)

include hbody in
theorem works_of_modify (task : τ) : (body task).Works 2 := by
  rw [hbody]
  exact ⟨1, Nat.le_refl 2, fun _ => Nat.le_refl 1⟩

include hbody hreads hk

theorem Reached.isBatch_of_modify (h : Reached (· = body) start pool refused)
    (hstart : start.IsReady memory [(Job.runAll tasks).bind k]) (hopen : start.isShutdown = false) :
    pool.IsBatch tasks k view 2 steps :=
  h.isBatch (works_of_modify hbody) hreads (hk true).of_never hstart.isCounted (hstart.isBatch hopen)

omit hreads in
/-- A task that only changes the memory does not wait for it. -/
theorem Reached.waitsIn_eq_of_modify (h : Reached (· = body) start pool refused)
    (hstart : start.IsReady memory [(Job.runAll tasks).bind k]) (ticket : Nat)
    (activity : Activity τ σ Unit) (hactivity : .running ticket activity ∈ pool.workers) :
    activity.waitsIn pool.memory = false := by
  have hjob : ((Job.runAll tasks).bind k).Lasts true false (3 * tasks.length + steps + 2) := by
    rw [Job.runAll_bind]
    exact Job.submitThen_lasts hk tasks
  have hlasts : ∃ n, start.Lasts false (fun _ => 5) 1 n :=
    ⟨_, hstart.lasts (fun _ => 5) (.cons hjob .nil)⟩
  obtain ⟨n, hend⟩ := h.lasts (by
    rintro _ rfl task
    rw [hbody]
    exact ⟨2, Nat.le_refl 5, 1, Nat.le_refl 2, fun _ => Nat.le_refl 1⟩) hlasts
  exact hend.waitsForNothing.task ticket activity hactivity

variable (hclient : ∀ accepted, (k accepted).ChangesOnly (· = id))

include hclient

/-- **What a client finds that has waited for a batch**: the changes of all tasks were made, one after
the other, and what it reads is what they have left. -/
theorem Reached.exists_perm_of_result (h : Reached (· = body) start pool refused)
    (hstart : start.IsReady memory [(Job.runAll tasks).bind k]) (hopen : start.isShutdown = false)
    {value : α} (hresult : pool.result? 0 = some value) :
    value = view pool.memory ∧ ∃ done : List τ, done.Perm tasks ∧
      pool.memory = done.foldl (fun memory task => change task memory) memory := by
  have hbatch := h.isBatch_of_modify hbody hreads hk hstart hopen
  obtain ⟨hreturning, haccepted⟩ := hbatch.isReturning hresult
  -- the client has no share in the changes, and each task has its own one
  have hjob : ((Job.runAll tasks).bind k).Keeps (changes change memory) Spent 0 := by
    apply keeps_changes_of_changesOnly
    rw [Job.runAll_bind]
    exact Job.changesOnly_submitThen hclient tasks
  have hkeeps : start.Keeps (changes change memory) [] :=
    hstart.keeps (.cons hjob .nil) ⟨[], by simp, rfl⟩
  have hend : pool.Keeps (changes change memory) refused := by
    refine h.keeps ?_ hkeeps
    rintro _ rfl task
    rw [hbody]
    exact modify_keeps_changes task
  obtain ⟨hvalue, done, hdone, hmemory⟩ :=
    hend.returned (h.isCounted hstart.isCounted) hreturning hresult
  refine ⟨hvalue, done, ?_, hmemory⟩
  rw [add_zero] at hdone
  rw [← haccepted]
  exact (Multiset.coe_eq_coe.mp hdone).symm

/-- **A client that waits for a batch returns**, whatever the schedule. -/
theorem IsStaffed.returns (hstart : start.IsStaffed memory ((Job.runAll tasks).bind k)) :
    start.Returns body fun value memory' => value = view memory' ∧ ∃ done : List τ, done.Perm tasks ∧
      memory' = done.foldl (fun memory task => change task memory) memory := by
  have hready := hstart.toIsReady
  have hopen := hstart.isShutdown_eq
  constructor
  case bounded =>
    refine ⟨(start.size + tasks.length) * 5 + 3 * tasks.length + steps + 4, fun events pool hrun => ?_⟩
    have hbatch : start.IsBatch tasks k view 2 steps := hready.isBatch hopen
    exact hbatch.length_run_le hready.isCounted hstart.toIsUnused.isOrderly (works_of_modify hbody)
      hreads (fun accepted => (hk accepted).of_never) hrun
  case exists_result =>
    intro pool refused hreached hstuck
    have hworkers : pool.workers ≠ [] := by
      have hsize := hreached.size_eq
      have hpos := List.length_pos_iff.mpr hstart.workers_ne
      rw [← List.length_pos_iff]
      exact Nat.lt_of_lt_of_eq hpos hsize.symm
    have hbatch := hreached.isBatch_of_modify hbody hreads hk hready hopen
    have hreturned := hbatch.hasReturned (fun accepted => (hk accepted).of_never) hstuck
      (hreached.waitsIn_eq_of_modify hbody hk hready) (hreached.isCounted hready.isCounted)
      (hreached.isAttended hready.isAttended) (hreached.isVacated hready.isVacated)
      (hreached.isOrderly hstart.toIsUnused) hworkers
    exact ⟨_, hreturned.result_eq⟩
  case property =>
    intro pool refused value hreached hresult
    exact hreached.exists_perm_of_result hbody hreads hk hclient hready hopen hresult

end Modify

end Pool

namespace Crew

/-- **What a crew has done with a batch**: a crew that is there has made the changes of all tasks, one
after the other. -/
theorem exists_perm_of_isLive {crew : Crew} (hlive : crew.isLive = true) (memory : σ)
    (hbody : ∀ task, body task = .modify (change task))
    (hreads : ∀ memory, (k true).Reads memory (view memory))
    (hk : ∀ accepted, (k accepted).Lasts true false steps)
    (hclient : ∀ accepted, (k accepted).ChangesOnly (· = id)) (hsteps : steps ≤ 22) :
    let pool := crew.work body (Pool.eventsFor crew.size tasks.length) memory
      ((Job.runAll tasks).bind k)
    pool.result? 0 = some (view pool.memory) ∧ ∃ done : List τ, done.Perm tasks ∧
      pool.memory = done.foldl (fun memory task => change task memory) memory := by
  intro pool
  have hstart := Pool.isUnused_start crew.size memory [(Job.runAll tasks).bind k]
  obtain ⟨refused, hreached, -, -, hreturned⟩ := hasReturned_of_isLive hlive memory
    (Pool.works_of_modify hbody) hreads (fun accepted => (hk accepted).of_never) (by omega)
    fun pool refused hreached _ _ =>
      hreached.waitsIn_eq_of_modify hbody hk hstart.toIsReady
  exact ⟨hreturned.result_eq, (hreached.exists_perm_of_result hbody hreads hk hclient
    hstart.toIsReady rfl hreturned.result_eq).2⟩

end Crew

end Concordance
