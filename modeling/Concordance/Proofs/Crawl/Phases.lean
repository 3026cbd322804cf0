import Concordance.Crawl.Visit
import Concordance.Proofs.Pool.Return

/-!
# The phases of a crawl

Each thread of a crawl is in one of a few phases. While the pool is not shut down, a step takes a thread to
its next phase, or changes nothing that matters to the crawl: a thread signals to sleeping workers, or ends.
What a phase does next depends only on the web and on the state of the crawl.

## Main definitions

* `Phase`: how far a thread of a crawl has come
* `Phase.Next`: what a thread does when it goes on to its next phase
* `Phase.Visits`, `Phase.Seeks`: what tasks and clients do in a phase
* `Pool.Submits`: what a step of a thread does to the tasks of a pool

## Main results

* `Advance.visits`, `Advance.seeks`: what a step of a thread comes to
-/

namespace Concordance

variable {τ σ α β : Type}

/-! ## Jobs that offer locations -/

namespace Crawl

/-- Offers locations, and goes on with how many were taken up of these and others before. -/
def offerThen (links : List Url) (taken : Nat) (k : Nat → Job Url CrawlState β) :
    Job Url CrawlState β :=
  (offerAll links).bind fun more => k (taken + more)

variable {k : Nat → Job Url CrawlState β}

theorem offerThen_zero (links : List Url) : offerThen links 0 k = (offerAll links).bind k :=
  congrArg (offerAll links).bind (funext fun more => congrArg k (Nat.zero_add more))

theorem offerThen_cons (link : Url) (links : List Url) (taken : Nat) :
    offerThen (link :: links) taken k =
      (offer link).bind fun isTaken => offerThen links (if isTaken then taken + 1 else taken) k := by
  have hcount : ∀ (isTaken : Bool) (more : Nat), taken + ((if isTaken then 1 else 0) + more) =
      (if isTaken then taken + 1 else taken) + more := by
    intro isTaken more
    cases isTaken with
    | true => exact (Nat.add_assoc taken 1 more).symm
    | false => exact congrArg (taken + ·) (Nat.zero_add more)
  unfold offerThen
  show ((offer link).bind fun isTaken => (offerAll links).bind fun more =>
    Job.finish ((if isTaken then 1 else 0) + more)).bind _ = _
  rw [Job.bind_assoc]
  refine congrArg (offer link).bind (funext fun isTaken => ?_)
  rw [Job.bind_assoc]
  exact congrArg (offerAll links).bind (funext fun more => congrArg k (hcount isTaken more))

/-- The index of a page. -/
def pageIndex (url : Url) (text : String) : Index :=
  Index.ofText url.text (Markup.textOfPage text)

/-- What the task of a page does after it has offered the links of the page. -/
def conclude (url : Url) (text : String) (taken : Nat) : Job Url CrawlState Unit :=
  .atomically (·.note url (stageAfter taken)) fun _ =>
    .atomically (·.absorb (pageIndex url text)) fun _ => Job.modify CrawlState.addIndexed

theorem readPage_eq (url : Url) (text : String) :
    readPage url text =
      .atomically (·.note url (.parsed ((pageIndex url text).wordCount url.text))) fun _ =>
        offerThen (pageLinks url text) 0 (conclude url text) := by
  rw [offerThen_zero]
  rfl

theorem crawl_eq (seed : Url) :
    crawl seed = offerThen [seed.withoutFragment] 0 fun _ => .awaitIdle readReport := by
  rw [offerThen_cons]
  rfl

/-! ## Phases -/

/-- How far a thread of a crawl has come. A thread that takes up a location counts it at once. -/
inductive Phase where
  /-- The task of a location was submitted, and has made no step. -/
  | fetches
  | receives
  /-- It has links left to offer. -/
  | offers (taken : Nat) (links : List Url)
  /-- It has taken up a link. -/
  | notes (taken : Nat) (link : Url) (links : List Url)
  | submits (taken : Nat) (link : Url) (links : List Url)
  | absorbs (taken : Nat)
  | counts (taken : Nat)
  | finished (taken : Nat)

/-- What a thread does when it goes on to its next phase. `owner` is the location that it visits, if it is
a task, and `submitted` the link whose task it submits. -/
inductive Phase.Next (web : Web) :
    (owner : Option Url) → CrawlState → Phase → CrawlState → (submitted : Option Url) → Phase → Prop
  | fetch {url : Url} {state : CrawlState} :
    Next web (some url) state .fetches (state.note url .fetching) none .receives
  | skip {url : Url} {state : CrawlState} (h : web url = .other) :
    Next web (some url) state .receives state.addSkipped none (.finished 0)
  | fail {url : Url} {state : CrawlState} (h : web url = .broken) :
    Next web (some url) state .receives state.addFailed none (.finished 0)
  | parse {url : Url} {state : CrawlState} {text : String} (h : web url = .page text) :
    Next web (some url) state .receives
      (state.note url (.parsed ((pageIndex url text).wordCount url.text))) none
      (.offers 0 (pageLinks url text))
  | pass {owner : Option Url} {state : CrawlState} {taken : Nat} {link : Url} {links : List Url}
    (h : state.accepts link = false) :
    Next web owner state (.offers taken (link :: links)) state none (.offers taken links)
  | take {owner : Option Url} {state : CrawlState} {taken : Nat} {link : Url} {links : List Url}
    (h : state.accepts link = true) :
    Next web owner state (.offers taken (link :: links)) (state.accept link) none
      (.notes (taken + 1) link links)
  | note {owner : Option Url} {state : CrawlState} {taken : Nat} {link : Url} {links : List Url} :
    Next web owner state (.notes taken link links) (state.note link .queued) none
      (.submits taken link links)
  | submit {owner : Option Url} {state : CrawlState} {taken : Nat} {link : Url} {links : List Url} :
    Next web owner state (.submits taken link links) state (some link) (.offers taken links)
  | expand {url : Url} {state : CrawlState} {text : String} {taken : Nat} (h : web url = .page text) :
    Next web (some url) state (.offers taken []) (state.note url (stageAfter taken)) none
      (.absorbs taken)
  | absorb {url : Url} {state : CrawlState} {text : String} {taken : Nat} (h : web url = .page text) :
    Next web (some url) state (.absorbs taken) (state.absorb (pageIndex url text)) none (.counts taken)
  | count {url : Url} {state : CrawlState} {text : String} {taken : Nat} (h : web url = .page text) :
    Next web (some url) state (.counts taken) state.addIndexed none (.finished taken)

/-! Of the state, a page that is added changes the index only. -/

theorem trace_absorb (state : CrawlState) (page : Index) : (state.absorb page).trace = state.trace := rfl

theorem visited_absorb (state : CrawlState) (page : Index) :
    (state.absorb page).visited = state.visited := rfl

theorem fetched_absorb (state : CrawlState) (page : Index) :
    (state.absorb page).fetched = state.fetched := rfl

/-- What a step of a thread comes to: the thread goes on to its next phase, or changes nothing. -/
inductive Phase.Goes (web : Web) (owner : Option Url) (state : CrawlState) (phase : Phase) :
    CrawlState → Option Url → Phase → Prop
  | stays : Goes web owner state phase state none phase
  | next {state' : CrawlState} {submitted : Option Url} {phase' : Phase}
    (h : phase.Next web owner state state' submitted phase') :
    Goes web owner state phase state' submitted phase'

/-! ## What threads do in a phase -/

/-- What a thread does that offers locations and then goes on with `k`. -/
inductive Phase.Offers (k : Nat → Job Url CrawlState β) : Phase → Activity Url CrawlState β → Prop
  | offers {taken : Nat} {links : List Url} :
    Offers k (.offers taken links) (.running (offerThen links taken k))
  | signals {taken : Nat} {links : List Url} :
    Offers k (.offers taken links) (.notifyOne (offerThen links taken k))
  | notes {taken : Nat} {link : Url} {links : List Url} {next : Bool → Job Url CrawlState β}
    (h : next true = offerThen links taken k) :
    Offers k (.notes taken link links)
      (.running (.atomically (·.note link .queued) fun _ => .submit link next))
  | submits {taken : Nat} {link : Url} {links : List Url} {next : Bool → Job Url CrawlState β}
    (h : next true = offerThen links taken k) :
    Offers k (.submits taken link links) (.running (.submit link next))

/-- What the task of a location does. -/
inductive Phase.Visits (web : Web) (url : Url) : Phase → Activity Url CrawlState Unit → Prop
  | fetches : Visits web url .fetches (.running (visit web url))
  | receives : Visits web url .receives (.running (receive url (web url)))
  | offers {text : String} {phase : Phase} {activity : Activity Url CrawlState Unit}
    (hpage : web url = .page text) (h : phase.Offers (conclude url text) activity) :
    Visits web url phase activity
  | absorbs {text : String} {taken : Nat} (hpage : web url = .page text) :
    Visits web url (.absorbs taken)
      (.running (.atomically (·.absorb (pageIndex url text)) fun _ => .modify CrawlState.addIndexed))
  | counts {text : String} {taken : Nat} (hpage : web url = .page text) :
    Visits web url (.counts taken) (.running (.modify CrawlState.addIndexed))
  | finishes {taken : Nat} : Visits web url (.finished taken) (.running (.finish ()))
  | done {taken : Nat} : Visits web url (.finished taken) (.done ())

/-- What the client of a crawl does. When it has offered its seed, it waits and looks at the report. -/
inductive Phase.Seeks : Phase → Activity Url CrawlState CrawlReport → Prop
  | offers {phase : Phase} {activity : Activity Url CrawlState CrawlReport}
    (h : phase.Offers (fun _ => .awaitIdle readReport) activity) : Seeks phase activity
  | sleeps {taken : Nat} : Seeks (.offers taken []) (.idle readReport)
  | looks {taken : Nat} {activity : Activity Url CrawlState CrawlReport} (h : activity.Looks) :
    Seeks (.offers taken []) activity

theorem readReport_looks : readReport.Looks :=
  ⟨rfl, fun _ => ⟨rfl, fun _ => ⟨rfl, fun _ => ⟨rfl, fun _ => trivial⟩⟩⟩⟩

theorem Phase.Offers.roused {phase : Phase} {activity : Activity Url CrawlState β}
    (h : phase.Offers k activity) : activity.roused = activity := by
  cases h with
  | _ => rfl

theorem Phase.Visits.roused {web : Web} {url : Url} {phase : Phase}
    {activity : Activity Url CrawlState Unit} (h : phase.Visits web url activity) :
    activity.roused = activity := by
  cases h with
  | offers _ h => exact h.roused
  | _ => rfl

theorem Phase.Seeks.roused {phase : Phase} {activity : Activity Url CrawlState CrawlReport}
    (h : phase.Seeks activity) : phase.Seeks activity.roused := by
  cases h with
  | offers h =>
    rw [h.roused]
    exact .offers h
  | sleeps => exact .offers .offers
  | looks h =>
    rw [h.roused]
    exact .looks h

end Crawl

/-! ## What a step of a thread comes to -/

namespace Pool

/-- What a step of a thread does to the tasks of a pool. -/
structure Submits (pool mid : Pool τ σ α) (submitted : Option τ) : Prop where
  isShutdown_eq : mid.isShutdown = pool.isShutdown
  accepted_eq : mid.accepted = pool.accepted ++ submitted.toList
  queue_eq : mid.queue = pool.queue ++ (submitted.map (pool.accepted.length, ·)).toList
  ended_eq : mid.ended = pool.ended

theorem Submits.none {pool mid : Pool τ σ α} (hshutdown : mid.isShutdown = pool.isShutdown)
    (haccepted : mid.accepted = pool.accepted) (hqueue : mid.queue = pool.queue)
    (hended : mid.ended = pool.ended) : Submits pool mid none :=
  ⟨hshutdown, haccepted.trans (List.append_nil _).symm, hqueue.trans (List.append_nil _).symm, hended⟩

/-- A thread that has made its step is noted as it is then. -/
theorem Submits.setClient {pool mid : Pool τ σ α} {submitted : Option τ} (h : Submits pool mid submitted)
    (i : Nat) (activity : Activity τ σ α) :
    Submits pool { mid with clients := mid.clients.set i activity } submitted :=
  ⟨h.isShutdown_eq, h.accepted_eq, h.queue_eq, h.ended_eq⟩

theorem Submits.setWorker {pool mid : Pool τ σ α} {submitted : Option τ} (h : Submits pool mid submitted)
    (i : Nat) (worker : Worker τ σ) :
    Submits pool { mid with workers := mid.workers.set i worker } submitted :=
  ⟨h.isShutdown_eq, h.accepted_eq, h.queue_eq, h.ended_eq⟩

open Crawl

variable {web : Web} {pool mid : Pool Url CrawlState α} {self wakes : Option Nat} {phase : Phase}

/-- What a step of a thread comes to that has a location to offer. -/
theorem Advance.offers {k : Nat → Job Url CrawlState β} {activity activity' : Activity Url CrawlState β}
    (h : pool.Advance self wakes activity mid activity') (hopen : pool.isShutdown = false)
    (hoffers : phase.Offers k activity) (owner : Option Url) :
    (∃ taken, phase = .offers taken [] ∧ activity = .running (k taken)) ∨
      ∃ submitted phase', phase'.Offers k activity' ∧
        phase.Goes web owner pool.memory mid.memory submitted phase' ∧ Submits pool mid submitted := by
  cases hoffers with
  | @offers taken links =>
    cases links with
    | nil => exact .inl ⟨taken, rfl, rfl⟩
    | cons link links =>
      right
      rw [offerThen_cons] at h
      cases h
      by_cases haccepts : pool.memory.accepts link = true
      · -- the link is taken up and counted, with its stage still to be noted
        refine ⟨none, _, ?_, .next (.take haccepts), .none rfl rfl rfl rfl⟩
        dsimp only
        rw [if_pos haccepts]
        exact .notes rfl
      · have hrefuses := Bool.eq_false_iff.mpr haccepts
        have hsame : pool.memory.accept link = pool.memory := by rw [CrawlState.accept, if_neg haccepts]
        refine ⟨none, .offers taken links, ?_, ?_, .none rfl rfl rfl rfl⟩
        · dsimp only
          rw [if_neg haccepts]
          exact .offers
        · dsimp only
          rw [hsame]
          exact .next (.pass hrefuses)
  | signals =>
    right
    cases h with
    | wakeNone | wakeSome => exact ⟨none, _, .offers, .stays, .none rfl rfl rfl rfl⟩
  | notes hnext =>
    right
    cases h
    exact ⟨none, _, .submits hnext, .next .note, .none rfl rfl rfl rfl⟩
  | @submits taken link links next hnext =>
    right
    cases h with
    | accept =>
      rw [hnext]
      exact ⟨some link, _, .signals, .next .submit, rfl, rfl, rfl, rfl⟩
    | refuse hclosed =>
      rw [hopen] at hclosed
      cases hclosed

/-- What a step of a task comes to. -/
theorem Advance.visits {url : Url} {activity activity' : Activity Url CrawlState Unit}
    (h : pool.Advance self wakes activity mid activity') (hopen : pool.isShutdown = false)
    (hvisits : phase.Visits web url activity) :
    ∃ submitted phase', phase'.Visits web url activity' ∧
      phase.Goes web (some url) pool.memory mid.memory submitted phase' ∧ Submits pool mid submitted := by
  cases hvisits with
  | fetches =>
    cases h
    exact ⟨none, _, .receives, .next .fetch, .none rfl rfl rfl rfl⟩
  | receives =>
    cases hweb : web url with
    | page text =>
      rw [hweb, receive, readPage_eq] at h
      cases h
      exact ⟨none, _, .offers hweb .offers, .next (.parse hweb), .none rfl rfl rfl rfl⟩
    | other =>
      rw [hweb] at h
      cases h
      exact ⟨none, _, .finishes, .next (.skip hweb), .none rfl rfl rfl rfl⟩
    | broken =>
      rw [hweb] at h
      cases h
      exact ⟨none, _, .finishes, .next (.fail hweb), .none rfl rfl rfl rfl⟩
  | offers hpage hoffers =>
    rcases h.offers hopen hoffers (some url) with
      ⟨taken, rfl, rfl⟩ | ⟨submitted, phase', hoffers', hgoes, hsubmits⟩
    · cases h
      exact ⟨none, _, .absorbs hpage, .next (.expand hpage), .none rfl rfl rfl rfl⟩
    · exact ⟨submitted, phase', .offers hpage hoffers', hgoes, hsubmits⟩
  | absorbs hpage =>
    cases h
    exact ⟨none, _, .counts hpage, .next (.absorb hpage), .none rfl rfl rfl rfl⟩
  | counts hpage =>
    cases h
    exact ⟨none, _, .finishes, .next (.count hpage), .none rfl rfl rfl rfl⟩
  | finishes =>
    cases h
    exact ⟨none, _, .done, .stays, .none rfl rfl rfl rfl⟩
  | done => cases h

/-- What a step of the client comes to. -/
theorem Advance.seeks {activity activity' : Activity Url CrawlState CrawlReport}
    (h : pool.Advance self wakes activity mid activity') (hopen : pool.isShutdown = false)
    (hseeks : phase.Seeks activity) :
    ∃ submitted phase', phase'.Seeks activity' ∧
      phase.Goes web none pool.memory mid.memory submitted phase' ∧ Submits pool mid submitted := by
  cases hseeks with
  | offers hoffers =>
    rcases h.offers hopen hoffers none with
      ⟨taken, rfl, rfl⟩ | ⟨submitted, phase', hoffers', hgoes, hsubmits⟩
    · cases h with
      | pass => exact ⟨none, _, .looks readReport_looks, .stays, .none rfl rfl rfl rfl⟩
      | rest => exact ⟨none, _, .sleeps, .stays, .none rfl rfl rfl rfl⟩
    · exact ⟨submitted, phase', .offers hoffers', hgoes, hsubmits⟩
  | sleeps => cases h
  | looks hlooks =>
    obtain ⟨hlooks', rfl⟩ := h.looks hlooks
    exact ⟨none, _, .looks hlooks', .stays, .none rfl rfl rfl rfl⟩

end Pool

end Concordance
