import Concordance.Proofs.Crawl.Phases
import Concordance.Proofs.Pool.Idleness
import Concordance.Proofs.Pool.Threads

/-!
# The course of a crawl

A pool that is not shut down follows the course of its crawl: the state of the crawl, and the phase of each
thread. An event takes one thread to its next phase, or leaves the course as it is. Which worker runs a task,
who sleeps and who is woken is no part of the course.

## Main definitions

* `Course`: the state of a crawl and the phases of its threads
* `Course.Next`: one thread goes on to its next phase
* `Pool.taskOf`: the task that goes on with an event
* `Follows`: a pool follows a course

## Main results

* `Follows.start`, `Follows.moves`: every pool that is reached follows a course
-/

namespace Concordance

variable {τ σ α β : Type}

theorem set_eq_of_getElem? {l : List β} {i : Nat} {b : β} (h : l[i]? = some b) : l.set i b = l := by
  obtain ⟨hlt, rfl⟩ := List.getElem?_eq_some_iff.mp h
  exact List.set_getElem_self hlt

/-- The task that goes on with an event, if the event is a step of one. -/
def Pool.taskOf (pool : Pool τ σ α) : Event → Option τ
  | .worker i _ => pool.workers[i]?.bind fun worker => worker.ticket?.bind (pool.accepted[·]?)
  | _ => none

theorem Pool.exists_of_taskOf {pool : Pool τ σ α} {event : Event} {task : τ}
    (h : pool.taskOf event = some task) :
    ∃ ticket ∈ pool.underway, pool.accepted[ticket]? = some task := by
  cases event with
  | worker i wakes =>
    obtain ⟨worker, hworker, hticket⟩ := Option.bind_eq_some_iff.mp h
    obtain ⟨ticket, hticket, htask⟩ := Option.bind_eq_some_iff.mp hticket
    exact ⟨ticket, List.mem_filterMap.mpr ⟨worker, List.mem_of_getElem? hworker, hticket⟩, htask⟩
  | _ => cases h

namespace Crawl

/-- The state of a crawl and the phases of its threads. The client comes first, and then the tasks in the
order in which they were accepted, each with the location that it visits. -/
structure Course where
  state : CrawlState
  threads : List (Option Url × Phase)

/-- The threads of a course after one has gone on to another phase, and may have submitted a task. -/
def spawn (threads : List (Option Url × Phase)) (thread : Nat) (owner : Option Url) (phase : Phase)
    (submitted : Option Url) : List (Option Url × Phase) :=
  threads.set thread (owner, phase) ++ (submitted.map (some ·, .fetches)).toList

/-- One thread goes on to its next phase. -/
inductive Course.Next (web : Web) (course : Course) (owner : Option Url) : Course → Prop
  | next {thread : Nat} {phase phase' : Phase} {state' : CrawlState} {submitted : Option Url}
    (hthread : course.threads[thread]? = some (owner, phase))
    (h : phase.Next web owner course.state state' submitted phase') :
    Next web course owner ⟨state', spawn course.threads thread owner phase' submitted⟩

/-- A pool follows a course. -/
structure Follows (web : Web) (pool : Pool Url CrawlState CrawlReport) (course : Course) : Prop where
  isShutdown_eq : pool.isShutdown = false
  memory_eq : pool.memory = course.state
  owners_eq : course.threads.map Prod.fst = none :: pool.accepted.map some
  client : ∃ activity phase, pool.clients = [activity] ∧
    course.threads[0]? = some (none, phase) ∧ phase.Seeks activity
  task : ∀ (i ticket : Nat) (activity : Activity Url CrawlState Unit),
    pool.workers[i]? = some (.running ticket activity) →
    ∃ url phase, course.threads[ticket + 1]? = some (some url, phase) ∧ phase.Visits web url activity
  waiting : ∀ entry ∈ pool.queue, course.threads[entry.1 + 1]? = some (some entry.2, .fetches)
  ended : ∀ ticket ∈ pool.ended, ∃ url taken,
    course.threads[ticket + 1]? = some (some url, .finished taken)

section Spawn

variable {threads : List (Option Url × Phase)} {thread i : Nat} {owner : Option Url}
  {phase phase' : Phase} {submitted : Option Url} {entry : Option Url × Phase}

theorem spawn_eq (hthread : threads[thread]? = some (owner, phase)) :
    spawn threads thread owner phase none = threads := by
  unfold spawn
  rw [set_eq_of_getElem? hthread]
  exact List.append_nil threads

theorem spawn_owners (hthread : threads[thread]? = some (owner, phase)) :
    (spawn threads thread owner phase' submitted).map Prod.fst =
      threads.map Prod.fst ++ (submitted.map some).toList := by
  have howner : (threads.map Prod.fst)[thread]? = some owner := by
    rw [List.getElem?_map, hthread]
    rfl
  unfold spawn
  rw [List.map_append, List.map_set, set_eq_of_getElem? howner]
  cases submitted <;> rfl

/-- The other threads stay where they are. -/
theorem spawn_of_ne (hne : i ≠ thread) (hi : threads[i]? = some entry) :
    (spawn threads thread owner phase' submitted)[i]? = some entry := by
  have hlt : i < (threads.set thread (owner, phase')).length := by
    rw [List.length_set]
    exact (List.getElem?_eq_some_iff.mp hi).1
  unfold spawn
  rw [List.getElem?_append_left hlt, List.getElem?_set_ne hne.symm, hi]

theorem spawn_self (hthread : threads[thread]? = some (owner, phase)) :
    (spawn threads thread owner phase' submitted)[thread]? = some (owner, phase') := by
  have hlt := (List.getElem?_eq_some_iff.mp hthread).1
  have hset : thread < (threads.set thread (owner, phase')).length := by rwa [List.length_set]
  unfold spawn
  rw [List.getElem?_append_left hset, List.getElem?_set_self hlt]

/-- The task that was submitted comes last. -/
theorem spawn_last {url : Url} :
    (spawn threads thread owner phase' (some url))[threads.length]? = some (some url, .fetches) := by
  unfold spawn
  rw [List.getElem?_append_right (by simp), List.length_set, Nat.sub_self]
  rfl

end Spawn

/-! ## What an event comes to -/

variable {web : Web} {pool next : Pool Url CrawlState CrawlReport} {course : Course}

theorem Follows.owner_eq (h : Follows web pool course) {ticket : Nat} {owner : Option Url} {phase : Phase}
    (hthread : course.threads[ticket + 1]? = some (owner, phase)) :
    pool.accepted[ticket]?.map some = some owner := by
  have howners : (course.threads.map Prod.fst)[ticket + 1]? = (pool.accepted.map some)[ticket]? := by
    rw [h.owners_eq]
    rfl
  rw [← List.getElem?_map, ← howners, List.getElem?_map, hthread]
  rfl

/-- There is one client. -/
theorem Follows.client_of_getElem? (h : Follows web pool course) {i : Nat}
    {activity : Activity Url CrawlState CrawlReport} (hi : pool.clients[i]? = some activity) :
    i = 0 ∧ pool.clients = [activity] ∧ ∃ phase, course.threads[0]? = some (none, phase) ∧
      phase.Seeks activity := by
  obtain ⟨client, phase, hclient, hfirst, hseeks⟩ := h.client
  rw [hclient] at hi
  cases i with
  | zero =>
    cases hi
    exact ⟨rfl, hclient, phase, hfirst, hseeks⟩
  | succ i => cases hi

/-- A pool where one thread makes a step goes on to follow the course, or the next one. -/
theorem Follows.goes (h : Follows web pool course) {thread : Nat} {owner submitted : Option Url}
    {phase phase' : Phase} (hthread : course.threads[thread]? = some (owner, phase))
    (hgoes : phase.Goes web owner pool.memory next.memory submitted phase')
    (hsubmits : Pool.Submits pool next submitted)
    (hclient : thread = 0 ∧ (∃ activity, next.clients = [activity] ∧ phase'.Seeks activity) ∨
      thread ≠ 0 ∧ next.clients = pool.clients)
    (htask : ∀ (i ticket : Nat) (activity : Activity Url CrawlState Unit),
      next.workers[i]? = some (.running ticket activity) →
      ticket + 1 = thread ∧ (∃ url, owner = some url ∧ phase'.Visits web url activity) ∨
        ticket + 1 ≠ thread ∧ pool.workers[i]? = some (.running ticket activity))
    (hwaiting : ∀ entry ∈ pool.queue, entry.1 + 1 ≠ thread)
    (hended : ∀ ticket ∈ pool.ended, ticket + 1 ≠ thread) :
    ∃ course', (course' = course ∨ course.Next web owner course') ∧ Follows web next course' := by
  refine ⟨⟨next.memory, spawn course.threads thread owner phase' submitted⟩, ?_, ?_⟩
  · rw [h.memory_eq] at hgoes
    generalize next.memory = memory' at hgoes
    cases hgoes with
    | stays =>
      -- the same threads in the same phases
      left
      rw [spawn_eq hthread]
    | next hnext => exact .inr (.next hthread hnext)
  have hlength : course.threads.length = pool.accepted.length + 1 := by
    simpa using congrArg List.length h.owners_eq
  constructor
  case isShutdown_eq => exact hsubmits.isShutdown_eq.trans h.isShutdown_eq
  case memory_eq => rfl
  case owners_eq =>
    dsimp only
    rw [spawn_owners hthread, h.owners_eq, hsubmits.accepted_eq]
    cases submitted <;> simp
  case client =>
    rcases hclient with ⟨rfl, activity, hactivity, hseeks⟩ | ⟨hne, hclients⟩
    · obtain ⟨-, clientPhase, -, hfirst, -⟩ := h.client
      rw [hthread] at hfirst
      cases hfirst
      exact ⟨activity, phase', hactivity, spawn_self hthread, hseeks⟩
    · obtain ⟨activity, clientPhase, hactivity, hfirst, hseeks⟩ := h.client
      exact ⟨activity, clientPhase, hclients.trans hactivity, spawn_of_ne hne.symm hfirst, hseeks⟩
  case task =>
    intro i ticket activity hi
    rcases htask i ticket activity hi with ⟨rfl, url, rfl, hvisits⟩ | ⟨hne, hi⟩
    · exact ⟨url, phase', spawn_self hthread, hvisits⟩
    · obtain ⟨url, taskPhase, htask, hvisits⟩ := h.task i ticket activity hi
      exact ⟨url, taskPhase, spawn_of_ne hne htask, hvisits⟩
  case waiting =>
    intro entry hentry
    rw [hsubmits.queue_eq] at hentry
    rcases List.mem_append.mp hentry with hentry | hentry
    · exact spawn_of_ne (hwaiting entry hentry) (h.waiting entry hentry)
    · -- the task that was submitted has the next ticket, and the next thread
      cases submitted with
      | none => cases hentry
      | some link =>
        rw [List.mem_singleton.mp hentry, ← hlength]
        exact spawn_last
  case ended =>
    intro ticket hticket
    rw [hsubmits.ended_eq] at hticket
    obtain ⟨url, taken, hfinished⟩ := h.ended ticket hticket
    exact ⟨url, taken, spawn_of_ne (hended ticket hticket) hfinished⟩

/-- A worker that has no task may come or go. -/
theorem Follows.setWorker (h : Follows web pool course) (i : Nat) {worker : Worker Url CrawlState}
    (hworker : worker.isRunning = false) :
    Follows web { pool with workers := pool.workers.set i worker } course where
  isShutdown_eq := h.isShutdown_eq
  memory_eq := h.memory_eq
  owners_eq := h.owners_eq
  client := h.client
  waiting := h.waiting
  ended := h.ended
  task := by
    intro j ticket activity hj
    rcases eq_or_of_getElem?_set hj with ⟨-, rfl⟩ | hj
    · cases hworker
    · exact h.task j ticket activity hj

/-- A task ends. -/
theorem Follows.endTask (h : Follows web pool course) {i ticket : Nat}
    (hi : pool.workers[i]? = some (.running ticket (.done ()))) :
    Follows web ({ pool with workers := pool.workers.set i .looking }.endTask ticket) course := by
  have hidle : Follows web { pool with workers := pool.workers.set i .looking } course :=
    h.setWorker i rfl
  generalize hmid : ({ pool with workers := pool.workers.set i .looking } :
    Pool Url CrawlState CrawlReport) = mid at hidle
  have hended : mid.ended = pool.ended := by rw [← hmid]
  constructor
  case isShutdown_eq => exact (Pool.isShutdown_endTask _ _).trans hidle.isShutdown_eq
  case memory_eq => exact (Pool.memory_endTask _ _).trans hidle.memory_eq
  case owners_eq =>
    rw [Pool.accepted_endTask]
    exact hidle.owners_eq
  case client =>
    obtain ⟨activity, phase, hactivity, hfirst, hseeks⟩ := hidle.client
    rcases mid.clients_endTask ticket with heq | heq
    · exact ⟨activity, phase, heq.trans hactivity, hfirst, hseeks⟩
    · refine ⟨activity.roused, phase, ?_, hfirst, hseeks.roused⟩
      rw [heq, hactivity]
      rfl
  case task =>
    intro j other activity' hj
    obtain ⟨activity, hactivity, hroused⟩ := Pool.exists_of_running_endTask hj
    obtain ⟨url, phase, hphase, hvisits⟩ := hidle.task j other activity hactivity
    refine ⟨url, phase, hphase, ?_⟩
    rcases hroused with rfl | rfl
    · exact hvisits
    · rw [hvisits.roused]
      exact hvisits
  case waiting =>
    rw [Pool.queue_endTask]
    exact hidle.waiting
  case ended =>
    intro other hother
    rw [Pool.ended_endTask] at hother
    rcases List.mem_append.mp hother with hother | hother
    · exact hidle.ended other hother
    · rw [List.mem_singleton.mp hother]
      obtain ⟨url, phase, hphase, hvisits⟩ := h.task i ticket _ hi
      cases hvisits with
      | offers _ hoffers => cases hoffers
      | done => exact ⟨url, _, hphase⟩

/-- The client makes a step. -/
theorem Follows.advanceClient (h : Follows web pool course) {i : Nat} {wakes : Option Nat}
    {activity activity' : Activity Url CrawlState CrawlReport} {mid : Pool Url CrawlState CrawlReport}
    (hi : pool.clients[i]? = some activity) (hadvance : pool.Advance none wakes activity mid activity') :
    ∃ course', (course' = course ∨ course.Next web none course') ∧
      Follows web { mid with clients := mid.clients.set i activity' } course' := by
  obtain ⟨rfl, hclient, phase, hfirst, hseeks⟩ := h.client_of_getElem? hi
  obtain ⟨submitted, phase', hseeks', hgoes, hsubmits⟩ := hadvance.seeks h.isShutdown_eq hseeks
  have hsubmits' := hsubmits.setClient 0 activity'
  refine h.goes hfirst hgoes hsubmits' (.inl ⟨rfl, activity', ?_, hseeks'⟩) ?_ ?_ ?_
  · simp [hadvance.clients_eq, hclient]
  · intro j ticket other hj
    exact .inr ⟨Nat.succ_ne_zero ticket, hadvance.running_of_running hj⟩
  · exact fun entry _ => Nat.succ_ne_zero entry.1
  · exact fun ticket _ => Nat.succ_ne_zero ticket

theorem Follows.taskOf_eq (h : Follows web pool course) {i ticket : Nat} (wakes : Option Nat)
    {activity : Activity Url CrawlState Unit} {owner : Option Url} {phase : Phase}
    (hi : pool.workers[i]? = some (.running ticket activity))
    (hthread : course.threads[ticket + 1]? = some (owner, phase)) :
    pool.taskOf (.worker i wakes) = owner := by
  have howner := h.owner_eq hthread
  cases htask : pool.accepted[ticket]? with
  | none =>
    rw [htask] at howner
    cases howner
  | some task =>
    rw [htask] at howner
    cases howner
    simp [Pool.taskOf, hi, Worker.ticket?, htask]

/-- A task makes a step. -/
theorem Follows.advanceTask (h : Follows web pool course) (horderly : pool.history.IsOrderly)
    {i ticket : Nat} {wakes : Option Nat} {activity activity' : Activity Url CrawlState Unit}
    {mid : Pool Url CrawlState CrawlReport} (hi : pool.workers[i]? = some (.running ticket activity))
    (hadvance : pool.Advance (some i) wakes activity mid activity') :
    ∃ course', (course' = course ∨ course.Next web (pool.taskOf (.worker i wakes)) course') ∧
      Follows web { mid with workers := mid.workers.set i (.running ticket activity') } course' := by
  obtain ⟨url, phase, hthread, hvisits⟩ := h.task i ticket activity hi
  obtain ⟨submitted, phase', hvisits', hgoes, hsubmits⟩ := hadvance.visits h.isShutdown_eq hvisits
  rw [h.taskOf_eq wakes hi hthread]
  have hunderway := Pool.mem_underway hi
  have hsubmits' := hsubmits.setWorker i (.running ticket activity')
  -- no other worker runs the task, nor does it wait, nor has it ended
  refine h.goes hthread hgoes hsubmits' (.inr ⟨Nat.succ_ne_zero ticket, hadvance.clients_eq⟩) ?_ ?_ ?_
  · intro j other hother hj
    by_cases heq : i = j
    · subst heq
      rw [List.getElem?_set_self (List.getElem?_eq_some_iff.mp (hadvance.running hi)).1] at hj
      cases hj
      exact .inl ⟨rfl, url, rfl, hvisits'⟩
    · rw [List.getElem?_set_ne heq] at hj
      have hbefore := hadvance.running_of_running hj
      refine .inr ⟨fun hsame => heq ?_, hbefore⟩
      cases hsame
      exact Pool.eq_of_running horderly hi hbefore
  · exact fun entry hentry hsame =>
      Pool.ne_of_mem_queue horderly hunderway hentry (Nat.succ_injective hsame)
  · intro other hother hsame
    cases hsame
    exact Pool.not_mem_ended horderly hunderway hother

/-- A worker takes a task. -/
theorem Follows.take (h : Follows web pool course) (i : Nat) {ticket : Nat} {task : Url}
    {queue : List (Nat × Url)} (hqueue : pool.queue = (ticket, task) :: queue) :
    Follows web { pool with
      queue := queue
      started := pool.started ++ [ticket]
      workers := pool.workers.set i (.running ticket (.running (visit web task))) } course := by
  have hfirst := h.waiting (ticket, task) (by rw [hqueue]; exact List.mem_cons_self)
  exact { h with
    waiting := fun entry hentry => h.waiting entry (by rw [hqueue]; exact .tail _ hentry)
    task := by
      intro j other activity hj
      rcases eq_or_of_getElem?_set hj with ⟨-, heq⟩ | hj
      · cases heq
        exact ⟨task, .fetches, hfirst, .fetches⟩
      · exact h.task j other activity hj }

/-- **What an event comes to**: the pool goes on to follow the course, or the next one, where the task goes
on that makes the step. -/
theorem Follows.moves (h : Follows web pool course) (horderly : pool.history.IsOrderly) {event : Event}
    (hmoves : pool.Moves (visit web) event next) :
    ∃ course', (course' = course ∨ course.Next web (pool.taskOf event) course') ∧
      Follows web next course' := by
  cases hmoves with
  | client hi hadvance => exact h.advanceClient hi hadvance
  | task hi hadvance => exact h.advanceTask horderly hi hadvance
  | take hi hqueue => exact ⟨course, .inl rfl, h.take _ hqueue⟩
  | doze | leave | rouseWorker => exact ⟨course, .inl rfl, h.setWorker _ rfl⟩
  | done hi => exact ⟨course, .inl rfl, h.endTask hi⟩
  | @rouseClient i job hi =>
    refine ⟨course, .inl rfl, { h with client := ?_ }⟩
    obtain ⟨rfl, hclient, phase, hfirst, hseeks⟩ := h.client_of_getElem? hi
    exact ⟨_, phase, by rw [hclient]; rfl, hfirst, hseeks.roused⟩
  -- tasks of a crawl neither panic nor wait
  | panicked hi | rouseTask hi =>
    obtain ⟨url, phase, -, hvisits⟩ := h.task _ _ _ hi
    cases hvisits with
    | offers _ hoffers => cases hoffers

/-- When all tasks have ended, each location that was accepted is finished. -/
theorem Follows.finished (h : Follows web pool course) (hended : pool.AllEnded) {url : Url}
    (hurl : url ∈ pool.accepted) : ∃ taken, (some url, .finished taken) ∈ course.threads := by
  obtain ⟨ticket, hticket⟩ := List.mem_iff_getElem?.mp hurl
  have hmem : ticket ∈ pool.ended := by
    rw [hended.ended_perm.mem_iff, List.mem_range]
    exact (List.getElem?_eq_some_iff.mp hticket).1
  obtain ⟨other, taken, hthread⟩ := h.ended ticket hmem
  have howner := h.owner_eq hthread
  rw [hticket] at howner
  cases howner
  exact ⟨taken, List.mem_of_getElem? hthread⟩

/-- A pool where a crawl is about to start follows its course. -/
theorem Follows.start {seed : Url} {state : CrawlState} {start : Pool Url CrawlState CrawlReport}
    (hstart : start.IsUnused state [crawl seed]) (hopen : start.isShutdown = false) :
    Follows web start ⟨state, [(none, .offers 0 [seed.withoutFragment])]⟩ where
  isShutdown_eq := hopen
  memory_eq := hstart.memory_eq
  owners_eq := by rw [hstart.accepted_eq]; rfl
  client := by
    refine ⟨_, _, hstart.clients_eq, rfl, ?_⟩
    rw [crawl_eq]
    exact .offers .offers
  task := by
    intro i ticket activity hi
    cases hstart.isRunning_eq _ (List.mem_of_getElem? hi)
  waiting := by simp [hstart.queue_eq]
  ended := by simp [hstart.ended_eq]

end Crawl

end Concordance
