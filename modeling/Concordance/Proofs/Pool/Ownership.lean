import Concordance.Proofs.Pool.Batch
import Concordance.Proofs.Pool.Closing
import Concordance.Proofs.Pool.Growth
import Concordance.Proofs.Pool.Idleness

/-!
# The tasks of one client

A pool does not know who has submitted a task. So the tickets of a client are noted along a run, as they
are given out. A client that submits tasks and then waits for the pool to be idle finds all its tasks
ended, whatever other clients do meanwhile, and nothing happens on its behalf any more. But if somebody
shuts the pool down while it submits, then it breaks off without waiting for the tasks that were accepted
before.

## Main definitions

* `Pool.ticketsOf`: the tickets that a client is given in a run
* `Pool.IsDoneWith`: tasks of a client have ended, and nothing happens on its behalf
* `Pool.CallPhase`: how far the client has come
* `Job.CleansUp`: a job whose client leaves nothing behind, unless it gives up

## Main results

* `Advance.callPhase`: what a step of the client does to its tickets
* `isCall_of_run`: how far the client has come after a run
* `cleansUp_runAll`: a client that has waited for its tasks leaves nothing behind
-/

namespace Concordance

variable {τ σ α β : Type}

/-! ## Looking at the memory -/

/-- A job that may look at the memory, and comes to a value with a property. -/
def Job.LooksFor (p : α → Prop) : Job τ σ α → Prop
  | .finish value => p value
  | .atomically change next => change = id ∧ ∀ memory, (next memory).LooksFor p
  | _ => False

/-- A thread that may look at the memory, and comes to a value with a property. -/
def Activity.LooksFor (p : α → Prop) : Activity τ σ α → Prop
  | .running job => job.LooksFor p
  | .done value => p value
  | _ => False

theorem Activity.LooksFor.roused {p : α → Prop} {activity : Activity τ σ α} (h : activity.LooksFor p) :
    activity.roused = activity := by
  cases activity with
  | idle => exact h.elim
  | _ => rfl

namespace Pool

theorem Advance.looksFor {pool mid : Pool τ σ α} {self wakes : Option Nat}
    {activity activity' : Activity τ σ β} (h : pool.Advance self wakes activity mid activity')
    {p : β → Prop} (hlooks : activity.LooksFor p) : activity'.LooksFor p ∧ mid = pool := by
  cases h with
  | finish => exact ⟨hlooks, rfl⟩
  | atomically =>
    obtain ⟨rfl, hnext⟩ := hlooks
    exact ⟨hnext _, rfl⟩
  | _ => exact hlooks.elim

/-! ## Tickets -/

/-- The tickets that a client is given in an event. -/
def ticketsIn (client : Nat) (pool next : Pool τ σ α) : Event → List Nat
  | .client i _ =>
    if i = client then
      List.range' pool.accepted.length (next.accepted.length - pool.accepted.length)
    else []
  | _ => []

/-- The tickets that a client is given in a run. -/
def ticketsOf (body : τ → Job τ σ Unit) (client : Nat) (pool : Pool τ σ α) : List Event → List Nat
  | [] => []
  | event :: rest =>
    match pool.step body event with
    | some next => pool.ticketsIn client next event ++ next.ticketsOf body client rest
    | none => []

variable {body : τ → Job τ σ Unit} {pool next mid : Pool τ σ α} {event : Event} {client : Nat}
  {tickets : List Nat} {tasks given : List τ}

theorem ticketsIn_of_ne (hevent : ∀ wakes, event ≠ .client client wakes) :
    pool.ticketsIn client next event = [] := by
  cases event with
  | client i wakes =>
    rw [ticketsIn, if_neg]
    rintro rfl
    exact hevent wakes rfl
  | _ => rfl

/-- Tasks were accepted with tickets, one for each. -/
def Gave (tickets : List Nat) (tasks : List τ) (pool : Pool τ σ α) : Prop :=
  tickets.map (pool.accepted[·]?) = tasks.map some

theorem Gave.lt_length (h : pool.Gave tickets tasks) {ticket : Nat} (hticket : ticket ∈ tickets) :
    ticket < pool.accepted.length := by
  have hmem : pool.accepted[ticket]? ∈ tasks.map some := by
    rw [← h]
    exact List.mem_map_of_mem hticket
  obtain ⟨task, -, htask⟩ := List.mem_map.mp hmem
  exact (List.getElem?_eq_some_iff.mp htask.symm).1

/-- What was accepted stays accepted with its ticket. -/
theorem Gave.of_prefix (h : pool.Gave tickets given) (hmore : pool.accepted <+: next.accepted) :
    next.Gave tickets given := by
  rw [Gave, ← h]
  exact List.map_congr_left fun ticket hticket =>
    getElem?_of_isPrefix hmore (h.lt_length hticket)

theorem Gave.enqueue (h : pool.Gave tickets given) (task : τ) :
    (pool.enqueue task).Gave (tickets ++ [pool.accepted.length]) (given ++ [task]) := by
  have hold : (pool.enqueue task).Gave tickets given := h.of_prefix (List.prefix_append _ _)
  have hnew : (pool.enqueue task).accepted[pool.accepted.length]? = some task := by
    simp [Pool.enqueue]
  rw [Gave, List.map_append, List.map_append, hold]
  exact congrArg _ (congrArg (· :: []) hnew)

/-! ## Being done -/

/-- A pool is done with tasks of a client. They have ended, so none waits and no worker runs one; and if
the memory changes, then another client does that or another task. -/
structure IsDoneWith (client : Nat) (tickets : List Nat) (pool : Pool τ σ α) : Prop where
  ended : ∀ ticket ∈ tickets, ticket ∈ pool.ended
  not_waiting : ∀ entry ∈ pool.queue, entry.1 ∉ tickets
  not_running : ∀ (i ticket : Nat) (activity : Activity τ σ Unit),
    pool.workers[i]? = some (.running ticket activity) → ticket ∉ tickets
  change : ∀ (body : τ → Job τ σ Unit) (event : Event) (next : Pool τ σ α),
    pool.step body event = some next → next.memory ≠ pool.memory →
    (∃ i wakes, event = .client i wakes ∧ i ≠ client) ∨
      ∃ i wakes ticket activity, event = .worker i wakes ∧
        pool.workers[i]? = some (.running ticket activity) ∧ ticket ∉ tickets

/-- The memory changes only by a step of a client or of a task. -/
theorem Moves.exists_of_memory_ne (h : pool.Moves body event next) (hne : next.memory ≠ pool.memory) :
    (∃ i wakes activity, event = .client i wakes ∧ pool.clients[i]? = some activity ∧
      activity.isThrough = false) ∨
      ∃ i wakes ticket activity, event = .worker i wakes ∧
        pool.workers[i]? = some (.running ticket activity) := by
  cases h with
  | client hi hadvance =>
    refine .inl ⟨_, _, _, rfl, hi, ?_⟩
    cases hadvance with
    | _ => rfl
  | task hi => exact .inr ⟨_, _, _, _, rfl, hi⟩
  | done hi | panicked hi => exact .inr ⟨_, _, _, _, rfl, hi⟩
  | _ => exact absurd rfl hne

/-- When all tasks of a client have ended and the client is through itself, nothing is left of it. -/
theorem isDoneWith_of_ended (horderly : pool.history.IsOrderly)
    (hended : ∀ ticket ∈ tickets, ticket ∈ pool.ended) {value : α}
    (hclient : pool.clients[client]? = some (.done value)) : pool.IsDoneWith client tickets := by
  have hrunning : ∀ (i ticket : Nat) (activity : Activity τ σ Unit),
      pool.workers[i]? = some (.running ticket activity) → ticket ∉ tickets := by
    intro i ticket activity hi hticket
    exact not_mem_ended horderly (mem_underway hi) (hended ticket hticket)
  constructor
  case ended => exact hended
  case not_waiting =>
    intro entry hentry hticket
    have hstarted : entry.1 ∈ pool.started :=
      horderly.started_perm.mem_iff.mpr (List.mem_append_left _ (hended _ hticket))
    exact ne_of_mem_started horderly hstarted hentry rfl
  case not_running => exact hrunning
  case change =>
    intro body event next hstep hne
    rcases (moves_of_step hstep).exists_of_memory_ne hne with
      ⟨i, wakes, activity, rfl, hi, hthrough⟩ | ⟨i, wakes, ticket, activity, rfl, hi⟩
    · refine .inl ⟨i, wakes, rfl, ?_⟩
      rintro rfl
      rw [hclient] at hi
      cases hi
      cases hthrough
    · exact .inr ⟨i, wakes, ticket, activity, rfl, hi, hrunning i ticket activity hi⟩

/-- Once nothing is left of a client, this stays so. -/
theorem IsDoneWith.of_reached {bodies : (τ → Job τ σ Unit) → Prop} {refused : List τ}
    (h : pool.IsDoneWith client tickets) (horderly : pool.history.IsOrderly) {value : α}
    (hclient : pool.clients[client]? = some (.done value)) (hreached : Reached bodies pool next refused) :
    next.IsDoneWith client tickets := by
  have hend : next.history.IsOrderly ∧ (∀ ticket ∈ tickets, ticket ∈ next.ended) ∧
      next.clients[client]? = some (.done value) := by
    refine hreached.invariant (p := fun pool _ => pool.history.IsOrderly ∧
      (∀ ticket ∈ tickets, ticket ∈ pool.ended) ∧ pool.clients[client]? = some (.done value))
      ⟨horderly, h.ended, hclient⟩ ?_
    rintro body pool next refused event - hmoves ⟨horderly, hended, hclient⟩
    exact ⟨horderly.next hmoves.history,
      fun ticket hticket => hmoves.ended_prefix.subset (hended ticket hticket),
      hmoves.done_client hclient⟩
  exact isDoneWith_of_ended hend.1 hend.2.1 hend.2.2

/-! ## How far a client has come -/

/-- How far a client has come that submits tasks until one is refused and waits if none is, and then only
looks at the memory. It has a value with a property `p` if it has waited, and one without `p` if it broke
off. -/
inductive CallPhase (tasks : List τ) (k : Bool → Job τ σ α) (p : α → Prop) (pool : Pool τ σ α)
    (tickets : List Nat) : Activity τ σ α → Prop
  | submits {given rest : List τ} (h : given ++ rest = tasks) (hgave : pool.Gave tickets given) :
    CallPhase tasks k p pool tickets (.running (.submitThen rest k))
  | signals {given rest : List τ} (h : given ++ rest = tasks) (hgave : pool.Gave tickets given) :
    CallPhase tasks k p pool tickets (.notifyOne (.submitThen rest k))
  | sleeps (hgave : pool.Gave tickets tasks) : CallPhase tasks k p pool tickets (.idle (k true))
  | returns {activity : Activity τ σ α} (hgave : pool.Gave tickets tasks)
    (hended : ∀ ticket ∈ tickets, ticket ∈ pool.ended) (hlooks : activity.LooksFor p) :
    CallPhase tasks k p pool tickets activity
  | breaksOff {given rest : List τ} {activity : Activity τ σ α} (h : given ++ rest = tasks)
    (hrest : rest ≠ []) (hgave : pool.Gave tickets given) (hclosed : pool.isShutdown = true)
    (hlooks : activity.LooksFor (¬ p ·)) : CallPhase tasks k p pool tickets activity

variable {k : Bool → Job τ σ α} {p : α → Prop} {activity activity' : Activity τ σ α}

/-- Whatever happens, a client has its tickets, what has ended has ended, and what is shut down is shut
down. -/
theorem CallPhase.mono (h : CallPhase tasks k p pool tickets activity)
    (haccepted : pool.accepted <+: next.accepted) (hended : pool.ended <+: next.ended)
    (hclosed : pool.isShutdown = true → next.isShutdown = true) :
    CallPhase tasks k p next tickets activity := by
  cases h with
  | submits h hgave => exact .submits h (hgave.of_prefix haccepted)
  | signals h hgave => exact .signals h (hgave.of_prefix haccepted)
  | sleeps hgave => exact .sleeps (hgave.of_prefix haccepted)
  | returns hgave hall hlooks =>
    exact .returns (hgave.of_prefix haccepted)
      (fun ticket hticket => hended.subset (hall ticket hticket)) hlooks
  | breaksOff h hrest hgave hshutdown hlooks =>
    exact .breaksOff h hrest (hgave.of_prefix haccepted) (hclosed hshutdown) hlooks

theorem CallPhase.roused (h : CallPhase tasks k p pool tickets activity) :
    CallPhase tasks k p pool tickets activity.roused := by
  cases h with
  | submits h hgave => exact .submits h hgave
  | signals h hgave => exact .signals h hgave
  | sleeps hgave =>
    -- it looks at the count again, with nothing left to submit
    exact .submits (List.append_nil tasks) hgave
  | returns hgave hended hlooks =>
    rw [hlooks.roused]
    exact .returns hgave hended hlooks
  | breaksOff h hrest hgave hclosed hlooks =>
    rw [hlooks.roused]
    exact .breaksOff h hrest hgave hclosed hlooks

theorem range'_of_accepted_eq (h : mid.accepted = pool.accepted) :
    List.range' pool.accepted.length (mid.accepted.length - pool.accepted.length) = [] := by
  rw [h, Nat.sub_self]
  rfl

/-- **What a step of the client does to its tickets.** It is given one if a task is accepted. When it goes
on from its sleep, all tasks have ended that were accepted until then, its own ones among them. -/
theorem Advance.callPhase {wakes : Option Nat} (h : pool.Advance none wakes activity mid activity')
    (hcounted : pool.IsCounted) (horderly : pool.history.IsOrderly) (hwaited : (k true).LooksFor p)
    (hbroke : (k false).LooksFor (¬ p ·)) (hphase : CallPhase tasks k p pool tickets activity) :
    CallPhase tasks k p mid (tickets ++ List.range' pool.accepted.length
      (mid.accepted.length - pool.accepted.length)) activity' := by
  cases hphase with
  | @submits given rest hsplit hgave =>
    cases rest with
    | nil =>
      -- nothing is left to submit, so the client looks at the count
      rw [List.append_nil] at hsplit
      subst hsplit
      have hsame : mid.accepted = pool.accepted := by
        cases h with
        | _ => rfl
      rw [range'_of_accepted_eq hsame, List.append_nil]
      cases h with
      | pass hpending =>
        -- nothing is pending, so all tickets that were given out belong to tasks that have ended
        have hall := allEnded_of_pending_eq_zero hcounted horderly hpending
        refine .returns hgave (fun ticket hticket => ?_) hwaited
        exact hall.ended_perm.mem_iff.mpr (List.mem_range.mpr (hgave.lt_length hticket))
      | rest => exact .sleeps hgave
    | cons task rest =>
      cases h with
      | accept hopen =>
        have hticket : List.range' pool.accepted.length
            ((pool.enqueue task).accepted.length - pool.accepted.length) = [pool.accepted.length] := by
          simp [Pool.enqueue]
        rw [hticket]
        have hsplit' : (given ++ [task]) ++ rest = tasks := by
          rw [List.append_assoc]
          exact hsplit
        exact .signals hsplit' (hgave.enqueue task)
      | refuse hclosed =>
        rw [range'_of_accepted_eq rfl, List.append_nil]
        exact .breaksOff hsplit (List.cons_ne_nil task rest) hgave hclosed hbroke
  | signals hsplit hgave =>
    have hsame : mid.accepted = pool.accepted := by
      cases h with
      | _ => rfl
    rw [range'_of_accepted_eq hsame, List.append_nil]
    cases h with
    | wakeNone => exact .submits hsplit hgave
    | wakeSome => exact .submits hsplit hgave
  | sleeps => cases h
  | returns hgave hended hlooks =>
    obtain ⟨hlooks', rfl⟩ := h.looksFor hlooks
    rw [range'_of_accepted_eq rfl, List.append_nil]
    exact .returns hgave hended hlooks'
  | breaksOff hsplit hrest hgave hclosed hlooks =>
    obtain ⟨hlooks', rfl⟩ := h.looksFor hlooks
    rw [range'_of_accepted_eq rfl, List.append_nil]
    exact .breaksOff hsplit hrest hgave hclosed hlooks'

/-- A pool with a client that submits tasks and waits for them, and the tickets of that client. -/
structure IsCall (tasks : List τ) (k : Bool → Job τ σ α) (p : α → Prop) (client : Nat)
    (tickets : List Nat) (pool : Pool τ σ α) : Prop where
  isCounted : pool.IsCounted
  isOrderly : pool.history.IsOrderly
  client : ∃ activity, pool.clients[client]? = some activity ∧
    CallPhase tasks k p pool tickets activity

/-- **Every event brings the client on its way**, or leaves it where it is. -/
theorem IsCall.moves (hmoves : pool.Moves body event next) (hwaited : (k true).LooksFor p)
    (hbroke : (k false).LooksFor (¬ p ·)) (h : pool.IsCall tasks k p client tickets) :
    next.IsCall tasks k p client (tickets ++ pool.ticketsIn client next event) where
  isCounted := h.isCounted.moves hmoves
  isOrderly := h.isOrderly.next hmoves.history
  client := by
    obtain ⟨activity, hactivity, hphase⟩ := h.client
    by_cases hevent : ∃ wakes, event = .client client wakes
    · -- the client makes a step
      obtain ⟨wakes, rfl⟩ := hevent
      cases hmoves with
      | @client _ _ before activity' mid hi hadvance =>
        rw [hactivity] at hi
        cases hi
        have hlength : client < mid.clients.length := by
          rw [hadvance.clients_eq]
          exact (List.getElem?_eq_some_iff.mp hactivity).1
        refine ⟨activity', List.getElem?_set_self hlength, ?_⟩
        rw [ticketsIn, if_pos rfl]
        have hphase' := hadvance.callPhase h.isCounted h.isOrderly hwaited hbroke hphase
        exact hphase'.mono List.prefix_rfl List.prefix_rfl id
    · -- somebody else makes a step
      rw [not_exists] at hevent
      rw [ticketsIn_of_ne hevent, List.append_nil]
      obtain ⟨activity', hactivity', -⟩ := hmoves.exists_client_continues hactivity
      refine ⟨activity', hactivity', ?_⟩
      obtain ⟨before, hbefore, heq⟩ := hmoves.eq_or_roused hevent hactivity'
      rw [hactivity] at hbefore
      cases hbefore
      rcases heq with rfl | rfl
      · exact hphase.mono hmoves.accepted_prefix hmoves.ended_prefix hmoves.isShutdown_mono
      · exact hphase.roused.mono hmoves.accepted_prefix hmoves.ended_prefix hmoves.isShutdown_mono

/-- **How far the client has come after a run**, with the tickets that it was given. -/
theorem isCall_of_run (hwaited : (k true).LooksFor p) (hbroke : (k false).LooksFor (¬ p ·))
    {events : List Event} (hrun : pool.run body events = some next)
    (h : pool.IsCall tasks k p client tickets) :
    next.IsCall tasks k p client (tickets ++ pool.ticketsOf body client events) := by
  -- induction on the events, which carries along the tickets that the client has
  induction events generalizing pool tickets with
  | nil =>
    cases hrun
    rw [ticketsOf, List.append_nil]
    exact h
  | cons event rest ih =>
    obtain ⟨mid, hmid, hrest⟩ := Option.bind_eq_some_iff.mp hrun
    rw [ticketsOf, hmid]
    dsimp only
    rw [← List.append_assoc]
    exact ih hrest (h.moves (moves_of_step hmid) hwaited hbroke)

theorem IsUnused.isCall {memory : σ} {clients : List (Job τ σ α)} (h : pool.IsUnused memory clients)
    (hclient : clients[client]? = some (.submitThen tasks k)) (p : α → Prop) :
    pool.IsCall tasks k p client [] where
  isCounted := h.isCounted
  isOrderly := h.isOrderly
  client := by
    refine ⟨.running (.submitThen tasks k), ?_, .submits (List.nil_append tasks) rfl⟩
    rw [h.clients_eq, List.getElem?_map, hclient]
    rfl

/-! ## What a client leaves behind -/

/-- What a client leaves behind that has its value, after a run that has given it tickets. -/
structure Leaves (gaveUp : α → Prop) (tasks : List τ) (body : τ → Job τ σ Unit) (client : Nat)
    (tickets : List Nat) (value : α) (pool : Pool τ σ α) : Prop where
  /-- Unless the client gave up, all its tasks were accepted. -/
  gave : ¬ gaveUp value → pool.Gave tickets tasks
  /-- Unless the client gave up after some were accepted, the pool is done with them, and stays so. -/
  isDoneWith : ¬ gaveUp value ∨ tickets = [] → ∀ more later, pool.run body more = some later →
    later.IsDoneWith client tickets
  /-- A client gives up when a task is refused, because the pool was shut down. -/
  gaveUp : gaveUp value → pool.isShutdown = true ∧
    ∃ given rest, given ++ rest = tasks ∧ rest ≠ [] ∧ pool.Gave tickets given

/-- A client that has its value has waited for its tasks, or has broken off. -/
theorem IsCall.leaves {gaveUp : α → Prop} {value : α}
    (h : pool.IsCall tasks k (¬ gaveUp ·) client tickets) (hresult : pool.result? client = some value) :
    pool.Leaves gaveUp tasks body client tickets value := by
  obtain ⟨activity, hactivity, hphase⟩ := h.client
  have hdone : activity = .done value := by
    rw [result?, hactivity] at hresult
    cases activity with
    | done result => cases hresult; rfl
    | _ => cases hresult
  subst hdone
  have hlater : (∀ ticket ∈ tickets, ticket ∈ pool.ended) → ∀ more later,
      pool.run body more = some later → later.IsDoneWith client tickets := by
    intro hended more later hmore
    have hreached : Reached (· = body) pool later _ := .of_run (by rfl) hmore
    exact (isDoneWith_of_ended h.isOrderly hended hactivity).of_reached h.isOrderly hactivity hreached
  cases hphase with
  | returns hgave hended hvalue =>
    exact ⟨fun _ => hgave, fun _ => hlater hended, fun hgaveUp => absurd hgaveUp hvalue⟩
  | breaksOff hsplit hrest hgave hclosed hvalue =>
    have hgaveUp : gaveUp value := Classical.not_not.mp hvalue
    refine ⟨fun hnot => absurd hgaveUp hnot, fun hnone => hlater ?_,
      fun _ => ⟨hclosed, _, _, hsplit, hrest, hgave⟩⟩
    intro ticket hticket
    rw [hnone.resolve_left hvalue] at hticket
    cases hticket

end Pool

/-- A job that leaves nothing behind, unless it gives up. It may be the job of any client of any pool, with
any other clients and any tasks. -/
def Job.CleansUp (gaveUp : α → Prop) (tasks : List τ) (job : Job τ σ α) : Prop :=
  ∀ (body : τ → Job τ σ Unit) (start : Pool τ σ α) (memory : σ) (clients : List (Job τ σ α))
    (client : Nat) (events : List Event) (pool : Pool τ σ α) (value : α),
    start.IsUnused memory clients → clients[client]? = some job → start.run body events = some pool →
    pool.result? client = some value →
    pool.Leaves gaveUp tasks body client (start.ticketsOf body client events) value

/-- **A client that has waited for its tasks leaves nothing behind.** -/
theorem Job.cleansUp_runAll {gaveUp : α → Prop} {tasks : List τ} {k : Bool → Job τ σ α}
    (hwaited : (k true).LooksFor (¬ gaveUp ·)) (hbroke : (k false).LooksFor gaveUp) :
    ((runAll tasks).bind k).CleansUp gaveUp tasks := by
  intro body start memory clients client events pool value hstart hclient hrun hresult
  rw [runAll_bind] at hclient
  have hbroke' : (k false).LooksFor fun value => ¬ ¬ gaveUp value := by
    simpa only [Classical.not_not] using hbroke
  have hcall := Pool.isCall_of_run hwaited hbroke' hrun (hstart.isCall hclient _)
  exact hcall.leaves hresult

end Concordance
