import Concordance.Proofs.Pool.Alertness
import Concordance.Proofs.Pool.Commits
import Concordance.Proofs.Pool.Return

/-!
# Taking what tasks have left

A client submits tasks, waits until all have ended and the workers have left, and then looks at the
memory. Others may look at the memory meanwhile. What they see was there at some moment; what the client
sees is what all tasks have left, and it stays.

## Main definitions

* `Job.gather`: submits tasks, waits for the workers and looks at the memory
* `Pool.IsGathering`: how far the client has come

## Main results

* `Reached.exists_earlier`: what a client has seen was there at some moment
* `IsGathering.moves`: every event brings the client on its way, or leaves it where it is
* `IsGathering.of_result`: what a client has done that has its result
* `IsGathering.result_of_isStuck`: the pool comes to rest only when the client has its result
-/

namespace Concordance

variable {τ σ α β : Type}

/-! ## Jobs -/

/-- Submits tasks, waits until all have ended and the workers have left, and looks at the memory. -/
def Job.gather (tasks : List τ) (view : σ → α) : Job τ σ α :=
  (submitAll tasks).bind fun _ => joinAll.bind fun _ => look view

theorem Job.gather_changesOnly (tasks : List τ) (view : σ → α) :
    (gather tasks view).ChangesOnly (· = id) := by
  unfold gather
  induction tasks with
  | nil => exact ⟨rfl, fun _ => trivial⟩
  | cons task rest ih =>
    intro accepted
    cases accepted with
    | true => exact ih
    | false => exact ⟨rfl, fun _ => trivial⟩

namespace Pool

variable {body : τ → Job τ σ Unit} {start pool next mid : Pool τ σ α} {event : Event}

/-! ## What is seen -/

/-- What a client has seen that looks at the memory once: it was there at some moment. -/
theorem Reached.exists_earlier {bodies : (τ → Job τ σ Unit) → Prop} {refused : List τ}
    (h : Reached bodies start pool refused) {i : Nat} {view : σ → α}
    (hi : ∀ activity, start.clients[i]? = some activity → activity = .running (.look view)) {value : α}
    (hresult : pool.result? i = some value) :
    ∃ earlier before after, Reached bodies start earlier before ∧
      Reached bodies earlier pool after ∧ value = view earlier.memory := by
  have hseen : ∀ activity, pool.clients[i]? = some activity →
      activity = .running (.look view) ∨ ∃ earlier before after,
        Reached bodies start earlier before ∧ Reached bodies earlier pool after ∧
          (activity = .running (.finish (view earlier.memory)) ∨
            activity = .done (view earlier.memory)) := by
    clear hresult
    -- induction on the events, of which one may be the client's look at the memory
    induction h with
    | start =>
      intro activity hactivity
      exact .inl (hi activity hactivity)
    | @step body pool next refused event hreached hbody hstep ih =>
      intro activity' hactivity'
      have hlast : Reached bodies pool next _ := Reached.start.step hbody hstep
      obtain ⟨activity, hactivity, hcontinues⟩ :=
        (moves_of_step hstep).client_continues hactivity'
      rcases ih activity hactivity with rfl | ⟨earlier, before, after, hbefore, hafter, hphase⟩
      · cases hcontinues with
        | stays | roused => exact .inl rfl
        | advances hadvance =>
          cases hadvance with
          | atomically => exact .inr ⟨pool, _, _, hreached, hlast, .inl rfl⟩
      · refine .inr ⟨earlier, before, _, hbefore, hafter.trans hlast, ?_⟩
        rcases hphase with rfl | rfl
        · cases hcontinues with
          | stays | roused => exact .inl rfl
          | advances hadvance =>
            cases hadvance
            exact .inr rfl
        · cases hcontinues with
          | stays | roused => exact .inr rfl
          | advances hadvance => cases hadvance
  unfold result? at hresult
  split at hresult
  · next result hdone =>
    cases hresult
    rcases hseen _ hdone with heq | ⟨earlier, before, after, hbefore, hafter, heq | heq⟩
    · cases heq
    · cases heq
    · cases heq
      exact ⟨earlier, before, after, hbefore, hafter, rfl⟩
  · cases hresult

/-! ## How far a client has come -/

/-- How far a thread has come that shuts the pool down, waits for the workers and looks at the memory. -/
inductive LeavePhase (view : σ → α) (pool : Pool τ σ α) : Activity τ σ α → Prop
  | closes : LeavePhase view pool (.running (.shutdown (.joinWorkers (.look view))))
  | announces (hclosed : pool.isShutdown = true) :
    LeavePhase view pool (.notifyAll (.joinWorkers (.look view)))
  | leaves (hwoken : pool.IsWoken) : LeavePhase view pool (.running (.joinWorkers (.look view)))
  | joins {handles : List Nat} (hwoken : pool.IsWoken) (hhandles : ∀ i ∈ handles, i < pool.size) :
    LeavePhase view pool (.joining handles (.look view))
  | looks : LeavePhase view pool (.running (.look view))
  | finishes : LeavePhase view pool (.running (.finish (view pool.memory)))
  | done : LeavePhase view pool (.done (view pool.memory))

/-- How far a client has come that gathers what tasks have left. When it has seen the pool idle, nothing
changes any more. -/
inductive GatherPhase (tasks : List τ) (view : σ → α) (pool : Pool τ σ α) : Activity τ σ α → Prop
  | submits {rest : List τ} (h : pool.accepted ++ rest = tasks) (hopen : pool.isShutdown = false) :
    GatherPhase tasks view pool (.running (.gather rest view))
  | signals {rest : List τ} (h : pool.accepted ++ rest = tasks) (hopen : pool.isShutdown = false) :
    GatherPhase tasks view pool (.notifyOne (.gather rest view))
  | sleeps (h : pool.accepted = tasks) (hopen : pool.isShutdown = false) :
    GatherPhase tasks view pool (.idle (.shutdown (.joinWorkers (.look view))))
  | leaves {activity : Activity τ σ α} (h : pool.accepted = tasks) (hpending : pool.pending = 0)
    (hleaves : LeavePhase view pool activity) : GatherPhase tasks view pool activity

/-- A pool where a client gathers what tasks have left, while others may look at the memory. -/
structure IsGathering (tasks : List τ) (view : σ → α) (pool : Pool τ σ α) : Prop where
  client : ∃ activity, pool.clients[0]? = some activity ∧ GatherPhase tasks view pool activity
  others : ∀ i activity, i ≠ 0 → pool.clients[i]? = some activity → activity.Looks
  handles_lt : ∀ i ∈ pool.handles, i < pool.size

/-- What an event leaves alone that is no step of the client. -/
structure Spares (pool next : Pool τ σ α) : Prop where
  accepted_eq : next.accepted = pool.accepted
  isShutdown_eq : next.isShutdown = pool.isShutdown
  handles_eq : next.handles = pool.handles
  size_eq : next.size = pool.size
  isWoken : pool.IsWoken → next.IsWoken
  /-- Nothing happens to the memory while the pool is idle. -/
  idle : pool.pending = 0 → next.memory = pool.memory ∧ next.pending = 0

variable {tasks : List τ} {view : σ → α} {change : τ → σ → σ} {activity activity' : Activity τ σ α}

theorem LeavePhase.of_spares (h : LeavePhase view pool activity) (hspares : Spares pool next)
    (hpending : pool.pending = 0) : LeavePhase view next activity := by
  obtain ⟨hmemory, -⟩ := hspares.idle hpending
  cases h with
  | closes => exact .closes
  | announces hclosed => exact .announces (hspares.isShutdown_eq.trans hclosed)
  | leaves hwoken => exact .leaves (hspares.isWoken hwoken)
  | joins hwoken hhandles =>
    refine .joins (hspares.isWoken hwoken) fun i hi => ?_
    rw [hspares.size_eq]
    exact hhandles i hi
  | looks => exact .looks
  | finishes =>
    rw [← hmemory]
    exact .finishes
  | done =>
    rw [← hmemory]
    exact .done

theorem GatherPhase.of_spares (h : GatherPhase tasks view pool activity)
    (hspares : Spares pool next) : GatherPhase tasks view next activity := by
  cases h with
  | submits h hopen =>
    exact .submits (hspares.accepted_eq ▸ h) (hspares.isShutdown_eq.trans hopen)
  | signals h hopen =>
    exact .signals (hspares.accepted_eq ▸ h) (hspares.isShutdown_eq.trans hopen)
  | sleeps h hopen => exact .sleeps (hspares.accepted_eq ▸ h) (hspares.isShutdown_eq.trans hopen)
  | leaves h hpending hleaves =>
    exact .leaves (hspares.accepted_eq ▸ h) (hspares.idle hpending).2
      (hleaves.of_spares hspares hpending)

theorem LeavePhase.roused (h : LeavePhase view pool activity) : activity.roused = activity := by
  cases h with
  | _ => rfl

theorem GatherPhase.roused (h : GatherPhase tasks view pool activity) :
    GatherPhase tasks view pool activity.roused := by
  cases h with
  | submits h hopen => exact .submits h hopen
  | signals h hopen => exact .signals h hopen
  | sleeps h hopen =>
    -- it looks at the count again, with nothing left to submit
    have hnil : pool.accepted ++ [] = tasks := by rw [List.append_nil, h]
    exact .submits hnil hopen
  | leaves h hpending hleaves =>
    rw [hleaves.roused]
    exact .leaves h hpending hleaves

/-- The step of a client that has seen the pool idle. -/
theorem Advance.leavePhase {wakes : Option Nat} (h : pool.Advance none wakes activity mid activity')
    (hhandles : ∀ i ∈ pool.handles, i < pool.size) (hphase : LeavePhase view pool activity) :
    LeavePhase view mid activity' ∧ (∀ i ∈ mid.handles, i < mid.size) ∧
      mid.pending = pool.pending ∧ mid.accepted = pool.accepted := by
  have hsize := h.size_eq
  cases hphase with
  | closes =>
    cases h
    exact ⟨.announces rfl, hhandles, rfl, rfl⟩
  | announces hclosed =>
    have hawake := h.not_asleep rfl
    cases h with
    | wakeAll =>
      refine ⟨.leaves ⟨hclosed, hawake⟩, fun i hi => ?_, rfl, rfl⟩
      rw [hsize]
      exact hhandles i hi
  | leaves hwoken =>
    cases h
    exact ⟨.joins ⟨hwoken.isShutdown_eq, hwoken.not_asleep⟩ hhandles, by simp, rfl, rfl⟩
  | joins hwoken hjoined =>
    cases h with
    | joined => exact ⟨.looks, hhandles, rfl, rfl⟩
    | join =>
      refine ⟨.joins hwoken fun i hi => hjoined i (List.mem_cons_of_mem _ hi), hhandles, rfl, rfl⟩
  | looks =>
    cases h
    exact ⟨.finishes, hhandles, rfl, rfl⟩
  | finishes =>
    cases h
    exact ⟨.done, hhandles, rfl, rfl⟩
  | done => cases h

/-- The step of a client that gathers. -/
theorem Advance.gatherPhase {wakes : Option Nat} (h : pool.Advance none wakes activity mid activity')
    (hhandles : ∀ i ∈ pool.handles, i < pool.size)
    (hphase : GatherPhase tasks view pool activity) :
    GatherPhase tasks view mid activity' ∧ ∀ i ∈ mid.handles, i < mid.size := by
  have hsize := h.size_eq
  cases hphase with
  | @submits rest haccepted hopen =>
    cases rest with
    | nil =>
      rw [List.append_nil] at haccepted
      cases h with
      | pass hpending => exact ⟨.leaves haccepted hpending .closes, hhandles⟩
      | rest => exact ⟨.sleeps haccepted hopen, hhandles⟩
    | cons task rest =>
      cases h with
      | accept =>
        refine ⟨.signals ?_ hopen, hhandles⟩
        rw [Pool.enqueue, List.append_assoc]
        exact haccepted
      | refuse hclosed =>
        rw [hopen] at hclosed
        cases hclosed
  | signals haccepted hopen =>
    cases h with
    | wakeNone => exact ⟨.submits haccepted hopen, hhandles⟩
    | wakeSome =>
      refine ⟨.submits haccepted hopen, fun i hi => ?_⟩
      rw [hsize]
      exact hhandles i hi
  | sleeps => cases h
  | leaves haccepted hpending hleaves =>
    obtain ⟨hleaves', hhandles', hpending', haccepted'⟩ := h.leavePhase hhandles hleaves
    exact ⟨.leaves (haccepted'.trans haccepted) (hpending'.trans hpending) hleaves', hhandles'⟩

/-- Others do something that is no concern of the client. -/
theorem IsGathering.of_spares (h : pool.IsGathering tasks view) (hspares : Spares pool next)
    (hclients : next.clients = pool.clients) : next.IsGathering tasks view := by
  obtain ⟨⟨activity, hactivity, hphase⟩, hothers, hhandles⟩ := h
  rw [← hclients] at hactivity hothers
  refine ⟨⟨activity, hactivity, hphase.of_spares hspares⟩, hothers, ?_⟩
  rw [hspares.handles_eq, hspares.size_eq]
  exact hhandles

/-- Others wake all that wait for the pool to be idle. -/
theorem IsGathering.of_roused (h : pool.IsGathering tasks view) (hspares : Spares pool next)
    (hclients : next.clients = pool.clients.map .roused) : next.IsGathering tasks view := by
  obtain ⟨⟨activity, hactivity, hphase⟩, hothers, hhandles⟩ := h
  constructor
  case client =>
    refine ⟨activity.roused, ?_, hphase.roused.of_spares hspares⟩
    rw [hclients, List.getElem?_map, hactivity]
    rfl
  case others =>
    intro i other hi hother
    rw [hclients, List.getElem?_map] at hother
    obtain ⟨before, hbefore, rfl⟩ := Option.map_eq_some_iff.mp hother
    have hlooks := hothers i before hi hbefore
    rwa [hlooks.roused]
  case handles_lt =>
    rw [hspares.handles_eq, hspares.size_eq]
    exact hhandles

/-- The client goes on. -/
theorem IsGathering.setClient (h : pool.IsGathering tasks view) (hclients : mid.clients = pool.clients)
    (hphase : GatherPhase tasks view mid activity) (hhandles : ∀ i ∈ mid.handles, i < mid.size) :
    ({ mid with clients := mid.clients.set 0 activity } : Pool τ σ α).IsGathering tasks view := by
  obtain ⟨⟨before, hbefore, -⟩, hothers, -⟩ := h
  rw [← hclients] at hbefore hothers
  refine ⟨⟨activity, ?_, hphase.of_spares ⟨rfl, rfl, rfl, rfl, fun h => ⟨h.1, h.2⟩, fun h => ⟨rfl, h⟩⟩⟩,
    ?_, hhandles⟩
  · exact List.getElem?_set_self (List.getElem?_eq_some_iff.mp hbefore).1
  · intro i other hi hother
    exact hothers i other hi ((List.getElem?_set_ne (Ne.symm hi)).symm.trans hother)

/-- Another client goes on, which only looks. -/
theorem IsGathering.setOther (h : pool.IsGathering tasks view) {i : Nat} (hi : i ≠ 0)
    (hlooks : activity.Looks) :
    ({ pool with clients := pool.clients.set i activity } : Pool τ σ α).IsGathering tasks view := by
  obtain ⟨⟨client, hclient, hphase⟩, hothers, hhandles⟩ := h
  refine ⟨⟨client, (List.getElem?_set_ne hi).trans hclient, hphase.of_spares
    ⟨rfl, rfl, rfl, rfl, fun h => ⟨h.1, h.2⟩, fun h => ⟨rfl, h⟩⟩⟩, ?_, hhandles⟩
  intro j other hj hother
  rcases eq_or_of_getElem?_set hother with ⟨-, rfl⟩ | hother
  · exact hlooks
  · exact hothers j other hj hother

/-- **Every event brings a gathering client on its way**, or leaves it where it is. -/
theorem IsGathering.moves (hmoves : pool.Moves body event next) (hcounted : pool.IsCounted)
    (hcommitting : pool.IsCommitting change) (h : pool.IsGathering tasks view) :
    next.IsGathering tasks view := by
  have hspares : next.accepted = pool.accepted → next.isShutdown = pool.isShutdown →
      next.handles = pool.handles →
      (pool.pending = 0 → next.memory = pool.memory ∧ next.pending = 0) → Spares pool next :=
    fun haccepted hshutdown hhandles hidle =>
      ⟨haccepted, hshutdown, hhandles, hmoves.size_eq, fun hwoken => hwoken.moves hmoves, hidle⟩
  cases hmoves with
  | @client i wakes before after mid hi hadvance =>
    by_cases hzero : i = 0
    · subst hzero
      obtain ⟨activity, hactivity, hphase⟩ := h.client
      rw [hactivity] at hi
      cases hi
      obtain ⟨hphase', hhandles⟩ := hadvance.gatherPhase h.handles_lt hphase
      exact h.setClient hadvance.clients_eq hphase' hhandles
    · obtain ⟨hlooks, rfl⟩ := hadvance.looks (h.others i before hzero hi)
      exact h.setOther hzero hlooks
  | @task i wakes ticket before after mid hi hadvance =>
    have hpending := hcounted.pending_ne_zero hi
    obtain ⟨task, -, hphase⟩ := hcommitting.task i ticket before hi
    cases hphase with
    | pending =>
      cases hadvance
      exact h.of_spares (hspares rfl rfl rfl fun hidle => absurd hidle hpending) rfl
    | finishing =>
      cases hadvance
      exact h.of_spares (hspares rfl rfl rfl fun hidle => absurd hidle hpending) rfl
    | done => cases hadvance
  | take | doze | leave | rouseWorker =>
    exact h.of_spares (hspares rfl rfl rfl fun hidle => ⟨rfl, hidle⟩) rfl
  | @done i wakes ticket hi =>
    -- the pool was not idle when a task ended
    have hpending := hcounted.pending_ne_zero hi
    have hspared := hspares (accepted_endTask _ _) (isShutdown_endTask _ _) (handles_endTask _ _)
      fun hidle => absurd hidle hpending
    rcases clients_endTask ({ pool with workers := pool.workers.set i .looking } : Pool τ σ α) ticket
      with hclients | hclients
    · exact h.of_spares hspared hclients
    · exact h.of_roused hspared hclients
  | @panicked i wakes ticket payload hi =>
    obtain ⟨task, -, hphase⟩ := hcommitting.task i ticket _ hi
    cases hphase
  | @rouseClient i job hi =>
    by_cases hzero : i = 0
    · subst hzero
      obtain ⟨activity, hactivity, hphase⟩ := h.client
      rw [hactivity] at hi
      cases hi
      exact h.setClient rfl hphase.roused h.handles_lt
    · exact (h.others i _ hzero hi).elim
  | @rouseTask i ticket job hi =>
    obtain ⟨task, -, hphase⟩ := hcommitting.task i ticket _ hi
    cases hphase

/-! ## What the client comes to -/

/-- What a client has done that has its result. -/
theorem IsGathering.of_result (h : pool.IsGathering tasks view) {value : α}
    (hresult : pool.result? 0 = some value) :
    pool.accepted = tasks ∧ pool.pending = 0 ∧ value = view pool.memory := by
  obtain ⟨⟨activity, hactivity, hphase⟩, -, -⟩ := h
  rw [result?, hactivity] at hresult
  cases hphase with
  | submits | signals | sleeps => cases hresult
  | leaves haccepted hpending hleaves =>
    refine ⟨haccepted, hpending, ?_⟩
    cases hleaves with
    | done =>
      cases hresult
      rfl
    | _ => cases hresult

/-- The tasks that were accepted are the first ones that the client submits. -/
theorem IsGathering.isPrefix_accepted (h : pool.IsGathering tasks view) : pool.accepted <+: tasks := by
  obtain ⟨⟨activity, -, hphase⟩, -, -⟩ := h
  cases hphase with
  | submits h | signals h => exact ⟨_, h⟩
  | sleeps h | leaves h => exact ⟨[], by rw [List.append_nil, h]⟩

/-- A pool where a client waits for all its tasks is not at rest before they have ended. -/
theorem IsGathering.pending_eq (h : pool.IsGathering tasks view) (hopen : pool.isShutdown = false)
    (hasleep : ∀ worker ∈ pool.workers, worker = .asleep ∨ worker = .exited)
    (hsleeps : pool.clients[0]? = some (.idle (.shutdown (.joinWorkers (.look view)))))
    (hcounted : pool.IsCounted) (hattended : pool.IsAttended) (hvacated : pool.IsVacated)
    (hworkers : pool.workers ≠ []) : pool.pending = 0 := by
  have hall : ∀ worker ∈ pool.workers, worker = .asleep := by
    intro worker hworker
    rcases hasleep worker hworker with rfl | rfl
    · rfl
    · -- the workers of an open pool do not leave
      rw [(hvacated hworker).1] at hopen
      cases hopen
  refine hattended.pending_eq hcounted hworkers hall ?_
  rw [owed, Nat.add_eq_zero_iff, List.countP_eq_zero, List.countP_eq_zero]
  constructor
  · intro activity hactivity howes
    obtain ⟨i, hi⟩ := List.mem_iff_getElem?.mp hactivity
    by_cases hzero : i = 0
    · subst hzero
      rw [hsleeps] at hi
      cases hi
      cases howes
    · have hlooks := h.others i activity hzero hi
      cases activity with
      | notifyOne => exact hlooks.elim
      | _ => cases howes
  · intro worker hworker howes
    rw [hall worker hworker] at howes
    cases howes

/-- **A pool comes to rest only when the client that gathers has its result.** -/
theorem IsGathering.result_of_isStuck (h : pool.IsGathering tasks view) (hstuck : pool.IsStuck body)
    (hcommitting : pool.IsCommitting change) (hcounted : pool.IsCounted)
    (hattended : pool.IsAttended) (hvacated : pool.IsVacated) (hworkers : pool.workers ≠ []) :
    pool.result? 0 = some (view pool.memory) := by
  -- a task that makes one change waits for nothing
  have hasleep : ∀ worker ∈ pool.workers, worker = .asleep ∨ worker = .exited := by
    intro worker hworker
    obtain ⟨i, hi⟩ := List.mem_iff_getElem?.mp hworker
    rcases hstuck.worker_waits hi with heq | heq | ⟨ticket, activity, rfl, hwaits⟩
    · exact .inl heq
    · exact .inr heq
    · obtain ⟨task, -, hphase⟩ := hcommitting.task i ticket activity hi
      cases hphase with
      | _ => cases hwaits
  obtain ⟨activity, hactivity, hphase⟩ := h.client
  have hrest := hstuck.client_waits hactivity
  cases hphase with
  | @submits rest =>
    cases rest with
    | _ => rcases hrest with hrest | hrest <;> cases hrest
  | signals => rcases hrest with hrest | hrest <;> cases hrest
  | sleeps haccepted hopen =>
    have hpending := h.pending_eq hopen hasleep hactivity hcounted hattended hvacated hworkers
    exact absurd hpending (hcounted.client _ (List.mem_of_getElem? hactivity) rfl)
  | leaves haccepted hpending hleaves =>
    cases hleaves with
    | closes | announces | leaves | looks | finishes =>
      rcases hrest with hrest | hrest <;> cases hrest
    | @joins handles hwoken hhandles =>
      exfalso
      cases handles with
      | nil => rcases hrest with hrest | hrest <;> cases hrest
      | cons worker handles =>
        -- no worker sleeps after a shutdown, so the one that is waited for has exited
        have hlt : worker < pool.workers.length := hhandles worker List.mem_cons_self
        have hexited : pool.workers[worker]? = some .exited := by
          rcases hasleep _ (List.getElem_mem hlt) with heq | heq
          · exact absurd (heq ▸ List.getElem_mem hlt) hwoken.not_asleep
          · rw [List.getElem?_eq_getElem hlt, heq]
        have hstep : ∃ next, pool.step body (.client 0 none) = some next := by
          refine ⟨{ pool with clients := pool.clients.set 0 (.joining handles (.look view)) }, ?_⟩
          simp [step, stepClient, hactivity, advance, hasExited, hexited]
        obtain ⟨next, hnext⟩ := hstep
        cases hstuck _ _ hnext
    | done => rw [result?, hactivity]

variable {memory : σ} {size : Nat} {others : List (Job τ σ α)} {refused : List τ}

theorem isGathering_start (hothers : ∀ job ∈ others, job.Looks) :
    (Pool.start size memory (.gather tasks view :: others)).IsGathering tasks view := by
  constructor
  case client => exact ⟨_, rfl, .submits (List.nil_append tasks) rfl⟩
  case others =>
    intro i activity hi hactivity
    obtain ⟨j, rfl⟩ := Nat.exists_eq_succ_of_ne_zero hi
    change (others.map Activity.running)[j]? = some activity at hactivity
    rw [List.getElem?_map] at hactivity
    obtain ⟨job, hjob, rfl⟩ := Option.map_eq_some_iff.mp hactivity
    exact hothers job (List.mem_of_getElem? hjob)
  case handles_lt =>
    intro i hi
    rw [size_start]
    exact List.mem_range.mp hi

theorem Reached.isGathering (h : Reached (· = body) start pool refused)
    (hbody : ∀ task, body task = .modify (change task)) (horderly : start.history.IsOrderly)
    (hcounted : start.IsCounted) (hcommitting : start.IsCommitting change)
    (hstart : start.IsGathering tasks view) : pool.IsGathering tasks view := by
  refine (h.invariant (p := fun pool _ => pool.history.IsOrderly ∧ pool.IsCounted ∧
    pool.IsCommitting change ∧ pool.IsGathering tasks view)
    ⟨horderly, hcounted, hcommitting, hstart⟩ ?_).2.2.2
  rintro _ pool next refused event rfl hmoves ⟨horderly, hcounted, hcommitting, hgathering⟩
  exact ⟨horderly.next hmoves.history, hcounted.moves hmoves,
    hcommitting.moves hmoves horderly hbody, hgathering.moves hmoves hcounted hcommitting⟩

end Pool

end Concordance
