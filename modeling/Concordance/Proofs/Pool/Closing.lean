import Concordance.Proofs.Pool.History

/-!
# Shutting a pool down

A pool that was shut down stays so, and accepts no task any more. Its workers go on until nothing waits,
and leave then. None of them leaves before.

## Main definitions

* `Pool.IsVacated`: workers leave only a pool that is shut down and where nothing waits

## Main results

* `Moves.exited_mem`: when a worker leaves
* `Reached.accepted_eq`: no task is accepted any more
* `Reached.isVacated`: workers leave only a pool that is shut down and where nothing waits
-/

namespace Concordance

variable {τ σ α β : Type}

/-- A history of a pool that is shut down takes in no more tasks. -/
theorem History.Next.of_isShutdown {history later : History τ} (h : history.Next true later) :
    later.accepted = history.accepted ∧ later.queue <:+ history.queue := by
  cases h with
  | same | finish => exact ⟨rfl, List.suffix_refl _⟩
  | accept hopen => cases hopen
  | start hqueue =>
    refine ⟨rfl, ?_⟩
    rw [hqueue]
    exact List.suffix_cons _ _

namespace Pool

theorem Advance.isShutdown_mono {pool mid : Pool τ σ α} {self wakes : Option Nat}
    {activity activity' : Activity τ σ β} (h : pool.Advance self wakes activity mid activity')
    (hshutdown : pool.isShutdown = true) : mid.isShutdown = true := by
  cases h with
  | shutdown => rfl
  | _ => exact hshutdown

/-- A step of a thread makes no worker leave. -/
theorem Advance.exited_mem {pool mid : Pool τ σ α} {self wakes : Option Nat}
    {activity activity' : Activity τ σ β} (h : pool.Advance self wakes activity mid activity')
    (hexited : .exited ∈ mid.workers) : .exited ∈ pool.workers := by
  cases h with
  | wakeSome =>
    rcases List.mem_or_eq_of_mem_set hexited with hexited | heq
    · exact hexited
    · cases heq
  | wakeAll =>
    rcases List.mem_map.mp hexited with ⟨worker, hworker, hwoken⟩
    cases worker with
    | exited => exact hworker
    | _ => cases hwoken
  | _ => exact hexited

theorem exited_mem_endTask {pool : Pool τ σ α} {ticket : Nat}
    (hexited : .exited ∈ (pool.endTask ticket).workers) : .exited ∈ pool.workers := by
  rcases pool.workers_endTask ticket with hworkers | hworkers
  · rwa [hworkers] at hexited
  · rw [hworkers] at hexited
    rcases List.mem_map.mp hexited with ⟨worker, hworker, hroused⟩
    cases worker with
    | exited => exact hworker
    | _ => cases hroused

theorem Moves.isShutdown_mono {body : τ → Job τ σ Unit} {pool next : Pool τ σ α} {event : Event}
    (h : pool.Moves body event next) (hshutdown : pool.isShutdown = true) :
    next.isShutdown = true := by
  cases h with
  | client hi hadvance | task hi hadvance => exact hadvance.isShutdown_mono hshutdown
  | done | panicked =>
    rw [isShutdown_endTask]
    exact hshutdown
  | _ => exact hshutdown

/-- A worker leaves only a pool that is shut down and where nothing waits. -/
theorem Moves.exited_mem {body : τ → Job τ σ Unit} {pool next : Pool τ σ α} {event : Event}
    (h : pool.Moves body event next) (hexited : .exited ∈ next.workers) :
    .exited ∈ pool.workers ∨ pool.isShutdown = true ∧ pool.queue = [] := by
  -- whoever does something else than to leave has not left
  have hset : ∀ {workers : List (Worker τ σ)} {i : Nat} {worker : Worker τ σ},
      .exited ∈ workers.set i worker → worker ≠ .exited → .exited ∈ workers := by
    intro workers i worker hmem hne
    rcases List.mem_or_eq_of_mem_set hmem with hmem | heq
    · exact hmem
    · exact absurd heq.symm hne
  cases h with
  | client hi hadvance => exact .inl (hadvance.exited_mem hexited)
  | task hi hadvance => exact .inl (hadvance.exited_mem (hset hexited (by simp)))
  | leave hi hqueue hshutdown => exact .inr ⟨hshutdown, hqueue⟩
  | done | panicked => exact .inl (hset (exited_mem_endTask hexited) (by simp))
  | rouseClient => exact .inl hexited
  | take | doze | rouseWorker | rouseTask => exact .inl (hset hexited (by simp))

/-- Workers leave only a pool that is shut down and where nothing waits. -/
def IsVacated (pool : Pool τ σ α) : Prop :=
  .exited ∈ pool.workers → pool.isShutdown = true ∧ pool.queue = []

theorem IsVacated.moves {body : τ → Job τ σ Unit} {pool next : Pool τ σ α} {event : Event}
    (hmoves : pool.Moves body event next) (h : pool.IsVacated) : next.IsVacated := by
  intro hexited
  have hleft : pool.isShutdown = true ∧ pool.queue = [] := by
    rcases hmoves.exited_mem hexited with hexited | hleft
    · exact h hexited
    · exact hleft
  rcases hleft with ⟨hshutdown, hqueue⟩
  have hhistory := hmoves.history
  rw [hshutdown] at hhistory
  have hsuffix : next.queue <:+ pool.queue := hhistory.of_isShutdown.2
  rw [hqueue] at hsuffix
  exact ⟨hmoves.isShutdown_mono hshutdown, List.suffix_nil.mp hsuffix⟩

variable {memory : σ} {clients : List (Job τ σ α)} {start pool : Pool τ σ α}
  {bodies : (τ → Job τ σ Unit) → Prop} {refused : List τ}

theorem IsReady.isVacated (h : pool.IsReady memory clients) : pool.IsVacated :=
  fun hexited => ⟨h.isShutdown_of_exited hexited, h.queue_eq⟩

/-- **Workers leave only a pool that is shut down and where nothing waits.** -/
theorem Reached.isVacated (h : Reached bodies start pool refused) (hstart : start.IsVacated) :
    pool.IsVacated :=
  h.invariant (p := fun pool _ => pool.IsVacated) hstart fun _ hmoves h => h.moves hmoves

/-- **Once a pool is shut down, no task is accepted any more.** -/
theorem Reached.accepted_eq (h : Reached bodies start pool refused)
    (hshutdown : start.isShutdown = true) :
    pool.isShutdown = true ∧ pool.accepted = start.accepted := by
  refine h.invariant
    (p := fun pool _ => pool.isShutdown = true ∧ pool.accepted = start.accepted) ⟨hshutdown, rfl⟩ ?_
  intro body pool next refused event _ hmoves ⟨hclosed, haccepted⟩
  have hhistory := hmoves.history
  rw [hclosed] at hhistory
  exact ⟨hmoves.isShutdown_mono hclosed, hhistory.of_isShutdown.1.trans haccepted⟩

end Pool

end Concordance
