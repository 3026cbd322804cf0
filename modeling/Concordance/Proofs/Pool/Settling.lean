import Concordance.Pool.Schedule
import Concordance.Proofs.Pool.Progress

/-!
# Pools that settle

A pool that is left to itself takes one event after another, until none can happen any more or a limit
is reached. If no run is longer than the limit, then the pool comes to rest. Only a thread could go on
then that wakes for no reason.

## Main results

* `isStuck_of_next?_eq_none`: a pool without a next event is at rest
* `isStuck_settle`: a pool settles within any limit that its runs do not exceed
-/

namespace Concordance.Pool

variable {τ σ α β : Type} {body : τ → Job τ σ Unit} {pool next : Pool τ σ α}

/-- A signal can always go to the first worker that sleeps, or to nobody if none does. -/
theorem exists_wakeOne_firstAsleep (pool : Pool τ σ α) :
    ∃ mid, pool.wakeOne pool.firstAsleep = some mid := by
  unfold firstAsleep
  cases hfound : (List.range pool.size).find? pool.isAsleep with
  | some i => exact ⟨_, if_pos (List.find?_some hfound)⟩
  | none =>
    refine ⟨_, if_neg ?_⟩
    rw [List.any_eq_true]
    rintro ⟨i, hi, hasleep⟩
    exact List.find?_eq_none.mp hfound i hi hasleep

/-- Whoever can make a step, can make one that wakes the first worker that sleeps. -/
theorem exists_advance_firstAsleep {self wakes : Option Nat} {activity : Activity τ σ β}
    {after : Pool τ σ α × Activity τ σ β} (h : pool.advance self wakes activity = some after) :
    ∃ after', pool.advance self pool.firstAsleep activity = some after' := by
  cases activity with
  | notifyOne next =>
    obtain ⟨mid, hmid⟩ := pool.exists_wakeOne_firstAsleep
    exact ⟨(mid, .running next), by rw [advance, hmid]; rfl⟩
  | running job => cases job <;> exact ⟨after, h⟩
  | joining handles next => cases handles <;> exact ⟨after, h⟩
  | _ => exact ⟨after, h⟩

theorem exists_stepClient_firstAsleep {i : Nat} {wakes : Option Nat}
    (h : pool.stepClient i wakes = some next) :
    ∃ next', pool.stepClient i pool.firstAsleep = some next' := by
  obtain ⟨activity, hactivity, h⟩ := Option.bind_eq_some_iff.mp h
  obtain ⟨after, hadvance, -⟩ := Option.bind_eq_some_iff.mp h
  obtain ⟨after', hadvance'⟩ := exists_advance_firstAsleep hadvance
  exact ⟨{ after'.1 with clients := after'.1.clients.set i after'.2 },
    by simp [stepClient, hactivity, hadvance']⟩

theorem exists_stepWorker_firstAsleep {i : Nat} {wakes : Option Nat}
    (h : pool.stepWorker body i wakes = some next) :
    ∃ next', pool.stepWorker body i pool.firstAsleep = some next' := by
  unfold stepWorker at h ⊢
  split at h
  · exact ⟨_, rfl⟩
  · exact ⟨_, rfl⟩
  · exact ⟨_, rfl⟩
  · obtain ⟨after, hadvance, -⟩ := Option.map_eq_some_iff.mp h
    obtain ⟨after', hadvance'⟩ := exists_advance_firstAsleep hadvance
    dsimp only
    rw [hadvance']
    exact ⟨_, rfl⟩
  · cases h

/-- **A pool without a next event is at rest.** -/
theorem isStuck_of_next?_eq_none (h : pool.next? body = none) : pool.IsStuck body := by
  -- every event that could happen has a variant among those that are looked for
  unfold next? at h
  dsimp only at h
  split at h
  · cases h
  next hclients =>
  intro event next hstep
  cases event with
  | client i wakes =>
    exfalso
    obtain ⟨next', hnext'⟩ := exists_stepClient_firstAsleep hstep
    have hi : i < pool.clients.length := by
      obtain ⟨activity, hactivity, -⟩ := Option.bind_eq_some_iff.mp hstep
      exact (List.getElem?_eq_some_iff.mp hactivity).1
    rw [List.findSome?_eq_none_iff.mp hclients i (List.mem_range.mpr hi)] at hnext'
    cases hnext'
  | worker i wakes =>
    exfalso
    obtain ⟨next', hnext'⟩ := exists_stepWorker_firstAsleep hstep
    have hi : i < pool.size := by
      by_contra hlt
      have hnone : pool.workers[i]? = none := List.getElem?_eq_none (Nat.le_of_not_lt hlt)
      rw [step, stepWorker, hnone] at hstep
      cases hstep
    rw [List.findSome?_eq_none_iff.mp h i (List.mem_range.mpr hi)] at hnext'
    cases hnext'
  | rouseWorker | rouseClient | rouseTask => rfl

/-- In the next event no thread wakes for no reason. -/
theorem exists_event_of_next? (h : pool.next? body = some next) :
    ∃ event : Event, event.isSpurious = false ∧ pool.step body event = some next := by
  unfold next? at h
  dsimp only at h
  split at h
  · next hfound =>
    obtain ⟨i, -, hi⟩ := List.exists_of_findSome?_eq_some hfound
    cases h
    exact ⟨.client i pool.firstAsleep, rfl, hi⟩
  · obtain ⟨i, -, hi⟩ := List.exists_of_findSome?_eq_some h
    exact ⟨.worker i pool.firstAsleep, rfl, hi⟩

/-- A pool that settles takes as many events as it may, or comes to rest before. -/
theorem settle_spec (body : τ → Job τ σ Unit) (pool : Pool τ σ α) (limit : Nat) :
    ∃ events, pool.run body events = some (pool.settle body limit) ∧
      events.countP Event.isSpurious = 0 ∧
      (events.length = limit ∨ (pool.settle body limit).next? body = none) := by
  induction limit generalizing pool with
  | zero => exact ⟨[], rfl, rfl, .inl rfl⟩
  | succ limit ih =>
    unfold settle
    split
    · next next hnext =>
      obtain ⟨event, hspurious, hstep⟩ := exists_event_of_next? hnext
      obtain ⟨events, hevents, hcount, hlength⟩ := ih next
      refine ⟨event :: events, by rw [run, hstep]; exact hevents, ?_, ?_⟩
      · rw [List.countP_cons_of_neg (by simp [hspurious]), hcount]
      · rw [List.length_cons, Nat.add_right_cancel_iff]
        exact hlength
    · next hnext => exact ⟨[], rfl, rfl, .inr hnext⟩

/-- **A pool settles within any limit that its runs do not exceed.** -/
theorem isStuck_settle {limit : Nat} (hlimit : ∀ events next, pool.run body events = some next →
      events.countP Event.isSpurious = 0 → events.length ≤ limit) :
    (pool.settle body limit).IsStuck body := by
  apply isStuck_of_next?_eq_none
  obtain ⟨events, hrun, hcount, hlength | hnext⟩ := settle_spec body pool limit
  · -- with one more event the run would exceed the limit
    by_contra hne
    obtain ⟨next, hnext⟩ := Option.ne_none_iff_exists'.mp hne
    obtain ⟨event, hspurious, hstep⟩ := exists_event_of_next? hnext
    have hmore : pool.run body (events ++ [event]) = some next := by
      rw [run_append, hrun]
      simp [run, hstep]
    have hle := hlimit _ _ hmore (by simp [hcount, hspurious])
    rw [List.length_append, List.length_singleton, hlength] at hle
    omega
  · exact hnext

end Concordance.Pool
