import Concordance.Proofs.Crawl.Balance

/-!
# Safety of crawls

However the threads of a crawl are scheduled, whatever is fetched, and also when somebody shuts the
pool down at any moment: a crawl never exceeds its cap, fetches nothing twice, and gives back what the
pool refuses. When it returns, its report adds up.

## Main definitions

* `Crawl.IsSafe`: what holds in every state of a crawl

## Main results

* `isSafe_of_reached`: every crawl is safe
-/

namespace Concordance

/-! ## Giving locations back -/

/-- A job that gives a location back whenever the pool refuses it. -/
def Job.TakesRefusal {α : Type} : Job Url CrawlState α → Prop
  | .finish _ | .panic _ => True
  | .atomically _ next => ∀ state, (next state).TakesRefusal
  | .submit url next => (∃ rest, next false = .atomically (·.release url) rest) ∧
    ∀ accepted, (next accepted).TakesRefusal
  | .await _ next | .awaitIdle next | .shutdown next | .joinWorkers next => next.TakesRefusal

variable {α β : Type}

theorem Job.TakesRefusal.bind {job : Job Url CrawlState α} {k : α → Job Url CrawlState β}
    (h : job.TakesRefusal) (hk : ∀ value, (k value).TakesRefusal) : (job.bind k).TakesRefusal := by
  induction job with
  | finish value => exact hk value
  | panic => trivial
  | atomically change next ih => exact fun state => ih state (h state)
  | submit url next ih =>
    obtain ⟨⟨rest, hrest⟩, hnext⟩ := h
    refine ⟨⟨fun state => (rest state).bind k, ?_⟩, fun accepted => ih accepted (hnext accepted)⟩
    dsimp only
    rw [hrest]
    rfl
  | await ready next ih | awaitIdle next ih | shutdown next ih | joinWorkers next ih => exact ih h

theorem Job.IsBystander.takesRefusal {job : Job Url CrawlState α} (h : job.IsBystander) :
    job.TakesRefusal := by
  induction job with
  | finish | panic => trivial
  | atomically | submit => exact h.elim
  | await ready next ih | awaitIdle next ih | shutdown next ih | joinWorkers next ih => exact ih h

/-- A thread that gives a location back whenever the pool refuses it. -/
def Activity.TakesRefusal : Activity Url CrawlState α → Prop
  | .running job => job.TakesRefusal
  | .notifyOne next | .notifyAll next | .idle next | .joining _ next => next.TakesRefusal
  | .done _ | .panicked _ => True

theorem Pool.Advance.takesRefusal {pool mid : Pool Url CrawlState α} {self wakes : Option Nat}
    {activity activity' : Activity Url CrawlState β}
    (h : pool.Advance self wakes activity mid activity') (htakes : activity.TakesRefusal) :
    activity'.TakesRefusal := by
  cases h with
  | finish | panic => trivial
  | atomically => exact htakes _
  | accept | refuse => exact htakes.2 _
  | _ => exact htakes

namespace Crawl

theorem offer_takesRefusal (url : Url) : (offer url).TakesRefusal := by
  intro state
  dsimp only
  split
  · intro _
    refine ⟨⟨_, rfl⟩, fun accepted => ?_⟩
    cases accepted with
    | true => trivial
    | false => exact fun _ _ => trivial
  · trivial

theorem offerAll_takesRefusal (urls : List Url) : (offerAll urls).TakesRefusal := by
  induction urls with
  | nil => trivial
  | cons url rest ih =>
    exact (offer_takesRefusal url).bind fun taken => ih.bind fun more => trivial

theorem visit_takesRefusal (web : Web) (url : Url) : (visit web url).TakesRefusal := by
  intro _
  show (receive url (web url)).TakesRefusal
  cases web url with
  | page text => exact fun _ => (offerAll_takesRefusal _).bind fun _ _ _ _ => trivial
  | other | broken => exact fun _ => trivial

theorem crawl_takesRefusal (seed : Url) : (crawl seed).TakesRefusal :=
  (offer_takesRefusal _).bind fun _ _ _ _ _ => trivial

/-! ## Safety -/

/-- A thread that is about to submit a location will give it back when it is refused; and a thread
that is about to give a location back gives its mark back and its place under the cap. -/
def GivesBack (state : CrawlState) : Activity Url CrawlState α → Prop
  | .running (.submit url next) => ∃ rest, next false = .atomically (·.release url) rest
  | .running (.atomically change _) => ∀ url, change = (·.release url) →
    url ∈ state.visited ∧ url ∉ (change state).visited ∧
      state.enqueued = (change state).enqueued + 1
  | _ => True

/-- What holds in every state of a crawl with a cap, where the pool has refused some locations. -/
structure IsSafe (cap : Nat) (pool : Pool Url CrawlState CrawlReport) (refused : List Url) :
    Prop where
  visited_nodup : pool.memory.visited.Nodup
  enqueued_eq : pool.memory.enqueued = pool.memory.visited.length
  enqueued_le : pool.memory.enqueued ≤ cap
  /-- No location is accepted twice, and accepted ones stay marked. -/
  accepted_nodup : pool.accepted.Nodup
  accepted_subset : pool.accepted ⊆ pool.memory.visited
  /-- No location is fetched twice, and only accepted ones are fetched. -/
  fetched_nodup : pool.memory.fetched.Nodup
  fetched_subset : pool.memory.fetched ⊆ pool.accepted
  fragment_eq : ∀ url ∈ pool.memory.fetched, url.fragment = none
  /-- A refused location is never accepted, nor fetched. -/
  refused_not_fetched : ∀ url ∈ refused, url ∉ pool.accepted ∧ url ∉ pool.memory.fetched
  givesBack : pool.Each fun _ activity => GivesBack pool.memory activity
  /-- When the crawl returns, all that is marked was accepted and fetched, and the report adds up. -/
  returned : ∀ report, pool.result? 0 = some report →
    pool.memory.visited.Perm pool.accepted ∧ pool.memory.fetched.Perm pool.accepted ∧
    report.enqueued = pool.accepted.length ∧
    report.indexed + report.skipped + report.failed = report.enqueued + refused.length

namespace Balances

variable {cap : Nat} {ledger : Ledger Url CrawlState} {inHand unread : Multiset Url}
  {uncounted : Nat}

theorem accepted_le (h : Balances cap ledger inHand unread uncounted) :
    (ledger.accepted : Multiset Url) ≤ ledger.memory.visited := by
  rw [h.visited_eq]
  exact Multiset.le_add_left _ _

theorem fetched_le (h : Balances cap ledger inHand unread uncounted) :
    (ledger.memory.fetched : Multiset Url) ≤ ledger.accepted := by
  rw [h.accepted_eq]
  exact Multiset.le_add_left _ _

theorem accepted_nodup (h : Balances cap ledger inHand unread uncounted) : ledger.accepted.Nodup :=
  Multiset.coe_nodup.mp (Multiset.nodup_of_le h.accepted_le h.nodup)

theorem accepted_subset (h : Balances cap ledger inHand unread uncounted) :
    ledger.accepted ⊆ ledger.memory.visited := fun _ hurl =>
  Multiset.mem_of_le h.accepted_le hurl

theorem fetched_nodup (h : Balances cap ledger inHand unread uncounted) :
    ledger.memory.fetched.Nodup :=
  Multiset.coe_nodup.mp (Multiset.nodup_of_le h.fetched_le h.accepted_nodup)

theorem fetched_subset (h : Balances cap ledger inHand unread uncounted) :
    ledger.memory.fetched ⊆ ledger.accepted := fun _ hurl =>
  Multiset.mem_of_le h.fetched_le hurl

/-- When nothing is in hand, all that is marked was accepted. -/
theorem visited_perm (h : Balances cap ledger 0 unread uncounted) :
    ledger.memory.visited.Perm ledger.accepted :=
  Multiset.coe_eq_coe.mp (h.visited_eq.trans (zero_add _))

/-- When nothing waits to be fetched, all that was accepted was fetched. -/
theorem fetched_perm (h : Balances cap ledger inHand 0 uncounted) :
    ledger.memory.fetched.Perm ledger.accepted :=
  (Multiset.coe_eq_coe.mp (h.accepted_eq.trans (zero_add _))).symm

/-- A location that is given back loses its mark, and its place under the cap becomes free. -/
theorem mem_of_inHand (h : Balances cap ledger inHand unread uncounted) {url : Url}
    (hurl : url ∈ inHand) :
    url ∈ ledger.memory.visited ∧ url ∉ (ledger.memory.release url).visited ∧
      ledger.memory.enqueued = (ledger.memory.release url).enqueued + 1 := by
  have hmem := h.mem_visited hurl
  have hpos : 0 < ledger.memory.visited.length := List.length_pos_of_mem hmem
  rw [CrawlState.release, if_pos (List.contains_iff_mem.mpr hmem)]
  refine ⟨hmem, h.nodup.not_mem_erase, ?_⟩
  dsimp only
  rw [h.enqueued_eq]
  omega

end Balances

/-- The threads of a crawl give back what is refused. -/
theorem givesBack_of_keeps {cap : Nat} {pool : Pool Url CrawlState CrawlReport} {refused : List Url}
    (hkeeps : pool.Keeps (balance cap) refused)
    (htakes : pool.Each fun _ activity => activity.TakesRefusal) :
    pool.Each fun _ activity => GivesBack pool.memory activity := by
  constructor
  · intro activity hactivity
    cases activity with
    | running job =>
      cases job with
      | submit url next => exact (htakes.client _ hactivity).1
      | atomically change next =>
        -- only a thread that has a location in hand is permitted to give it back
        rintro url rfl
        obtain ⟨stake, others, hpermits, hbooks⟩ := hkeeps.permits_client hactivity
        exact Balances.mem_of_inHand hbooks (Multiset.mem_add.mpr (.inl (hpermits url rfl)))
      | _ => trivial
    | _ => trivial
  · intro ticket activity hactivity
    cases activity with
    | running job =>
      cases job with
      | submit url next => exact (htakes.task _ _ hactivity).1
      | atomically change next =>
        rintro url rfl
        obtain ⟨stake, others, hpermits, hbooks⟩ := hkeeps.permits_task hactivity
        exact Balances.mem_of_inHand hbooks (Multiset.mem_add.mpr (.inl (hpermits url rfl)))
      | _ => trivial
    | _ => trivial

variable {index : Index} {cap : Nat} {seed : Url} {others : List (Job Url CrawlState CrawlReport)}
  {start pool : Pool Url CrawlState CrawlReport} {refused : List Url}

/-- Others may come and go while a crawl keeps its balance. -/
theorem keeps_balance_of_reached
    (hstart : start.IsReady (.start index cap) (crawl seed :: others))
    (hothers : ∀ other ∈ others, other.IsBystander)
    (h : Pool.Reached (fun body => ∃ web, body = visit web) start pool refused) :
    pool.Keeps (balance cap) refused := by
  have hclients : Total (Job.Keeps (balance cap) Spent) (crawl seed :: others)
      ((crawl seed :: others).length • (0 : Stake)) := by
    refine .of_forall fun job hjob => ?_
    rcases List.mem_cons.mp hjob with rfl | hjob
    · exact crawl_keeps_balance seed
    · exact (hothers job hjob).keeps fun _ _ hbooks => Balances.shutdown hbooks
  rw [nsmul_zero] at hclients
  refine h.keeps ?_ (hstart.keeps hclients (Balances.start index cap _))
  rintro body ⟨web, rfl⟩ url
  exact visit_keeps_balance web url

/-- The books of a crawl. -/
theorem exists_balances_of_reached
    (hstart : start.IsReady (.start index cap) (crawl seed :: others))
    (hothers : ∀ other ∈ others, other.IsBystander)
    (h : Pool.Reached (fun body => ∃ web, body = visit web) start pool refused) :
    ∃ inHand unread uncounted, Balances cap (pool.ledger refused) inHand unread uncounted := by
  obtain ⟨ofWorkers, ofClients, -, -, hholds⟩ := keeps_balance_of_reached hstart hothers h
  exact ⟨_, _, _, hholds⟩

/-- A crawl returns with the report that the pool has when it is idle. -/
theorem isReturning_of_reached {bodies : (Url → Job Url CrawlState Unit) → Prop}
    (hstart : start.IsReady (.start index cap) (crawl seed :: others))
    (hothers : ∀ other ∈ others, other.IsBystander) (h : Pool.Reached bodies start pool refused) :
    pool.IsReturning CrawlState.report 0 :=
  h.isReturning hstart.isCounted (hstart.isReturning (crawl_readsWhenIdle seed) hothers)

/-- When a crawl has returned, no thread has a location in hand, to fetch or to count. -/
theorem balances_of_result (hstart : start.IsReady (.start index cap) (crawl seed :: others))
    (hothers : ∀ other ∈ others, other.IsBystander)
    (h : Pool.Reached (fun body => ∃ web, body = visit web) start pool refused) {report : CrawlReport}
    (hreport : pool.result? 0 = some report) :
    report = pool.memory.report ∧ Balances cap (pool.ledger refused) 0 0 0 :=
  (keeps_balance_of_reached hstart hothers h).returned (h.isCounted hstart.isCounted)
    (isReturning_of_reached hstart hothers h) hreport

theorem reached_any {web : Web} (h : Pool.Reached (· = visit web) start pool refused) :
    Pool.Reached (fun body => ∃ web, body = visit web) start pool refused :=
  h.mono fun _ hbody => ⟨web, hbody⟩

/-- The books of a crawl that is alone with its pool. -/
theorem exists_balances {web : Web} (hstart : start.IsReady (.start index cap) [crawl seed])
    (h : Pool.Reached (· = visit web) start pool refused) :
    ∃ inHand unread uncounted, Balances cap (pool.ledger refused) inHand unread uncounted :=
  exists_balances_of_reached hstart (by simp) (reached_any h)

theorem takesRefusal_of_reached
    (hstart : start.IsReady (.start index cap) (crawl seed :: others))
    (hothers : ∀ other ∈ others, other.IsBystander)
    (h : Pool.Reached (fun body => ∃ web, body = visit web) start pool refused) :
    pool.Each fun _ activity => activity.TakesRefusal := by
  refine h.invariant (p := fun pool _ => pool.Each fun _ activity => activity.TakesRefusal) ?_ ?_
  · refine hstart.each fun job hjob => ?_
    rcases List.mem_cons.mp hjob with rfl | hjob
    · exact crawl_takesRefusal seed
    · exact (hothers job hjob).takesRefusal
  · rintro body pool next refused event ⟨web, rfl⟩ hmoves heach
    refine heach.moves hmoves (fun β pool mid self wakes activity activity' hadvance => ?_)
      (fun β activity htakes => ?_) (visit_takesRefusal web)
    · exact hadvance.takesRefusal
    · cases activity with
      | _ => exact htakes

/-- **Every crawl is safe**, whatever is fetched, however its threads are scheduled, and also when
others shut the pool down. -/
theorem isSafe_of_reached
    (hstart : start.IsReady (.start index cap) (crawl seed :: others))
    (hothers : ∀ other ∈ others, other.IsBystander)
    (h : Pool.Reached (fun body => ∃ web, body = visit web) start pool refused) :
    IsSafe cap pool refused := by
  have hkeeps := keeps_balance_of_reached hstart hothers h
  have htakes := takesRefusal_of_reached hstart hothers h
  obtain ⟨_, _, _, hbooks⟩ := exists_balances_of_reached hstart hothers h
  exact {
    visited_nodup := hbooks.nodup
    enqueued_eq := hbooks.enqueued_eq
    enqueued_le := hbooks.enqueued_le
    accepted_nodup := hbooks.accepted_nodup
    accepted_subset := hbooks.accepted_subset
    fetched_nodup := hbooks.fetched_nodup
    fetched_subset := hbooks.fetched_subset
    fragment_eq := fun url hurl =>
      hbooks.fragment_eq url (hbooks.accepted_subset (hbooks.fetched_subset hurl))
    refused_not_fetched := fun url hurl =>
      ⟨hbooks.not_accepted url hurl,
        fun hmem => hbooks.not_accepted url hurl (hbooks.fetched_subset hmem)⟩
    givesBack := givesBack_of_keeps hkeeps htakes
    returned := by
      intro report hreport
      obtain ⟨rfl, hbooks⟩ := balances_of_result hstart hothers h hreport
      have henqueued : pool.memory.enqueued = pool.accepted.length :=
        hbooks.enqueued_eq.trans hbooks.visited_perm.length_eq
      refine ⟨hbooks.visited_perm, hbooks.fetched_perm, henqueued, ?_⟩
      change pool.memory.indexed + pool.memory.skipped + pool.memory.failed =
        pool.memory.enqueued + refused.length
      rw [henqueued]
      exact hbooks.counted_eq }

/-- The pool is shut down after the seed was taken up and before it is submitted. The crawl gives the
seed back, and reports one failure. -/
theorem isSafe_of_shutdown_before_submit :
    ∃ (seed : Url) (events : List Event) (pool : Pool Url CrawlState CrawlReport),
      (Pool.start 1 (.start ∅ 1) [crawl seed, .shutdown (.finish ⟨0, 0, 0, 0⟩)]).run
        (visit fun _ => .broken) events = some pool ∧
      pool.result? 0 = some ⟨0, 0, 0, 1⟩ ∧ IsSafe 1 pool [seed.withoutFragment] := by
  let seed : Url :=
    ⟨"http", some ⟨"", "", .name "a.test", none⟩, .segments [""], none, some "top"⟩
  let start : Pool Url CrawlState CrawlReport :=
    .start 1 (.start ∅ 1) [crawl seed, .shutdown (.finish ⟨0, 0, 0, 0⟩)]
  -- the seed is taken up and noted, and then the other client shuts the pool down
  let events : List Event :=
    [.client 0 none, .client 0 none, .client 1 none] ++ List.replicate 9 (.client 0 none)
  have hresult : ((start.run (visit fun _ => .broken) events).bind (·.result? 0)) =
      some ⟨0, 0, 0, 1⟩ := by decide
  obtain ⟨pool, hpool, hreport⟩ := Option.bind_eq_some_iff.mp hresult
  have hrefused : start.refusals (visit fun _ => .broken) events = [seed.withoutFragment] := by decide
  refine ⟨seed, events, pool, hpool, hreport, ?_⟩
  rw [← hrefused]
  refine isSafe_of_reached (Pool.isReady_start _ _ _) (fun other hother => ?_)
    (.of_run ⟨fun _ => .broken, rfl⟩ hpool)
  rw [List.mem_singleton.mp hother]
  trivial

end Crawl

end Concordance
