import Concordance.Proofs.Query.Keys
import Concordance.Proofs.Query.Sharing

/-!
# Memoization

Many threads run queries at the same time, while others change what the searcher finds. Under every
schedule no key is searched for twice, and whoever runs a query with a key gets what was found for this
key first.

## Main definitions

* `QueryEngine.SparesCells`: a change that has nothing to do with the cells
* `QueryEngine.Memoizes`: what threads have found that run queries

## Main results

* `memoizes_of_reached`: threads that run queries share one search for each key
-/

namespace Concordance.QueryEngine

/-- A change that has nothing to do with the cells. It may change what the searcher finds. -/
def SparesCells (change : QueryEngine → QueryEngine) : Prop :=
  ∀ engine, (change engine).cells = engine.cells ∧ (change engine).searched = engine.searched

/-- What threads have found that run queries, where each of some clients runs one line, and each task
runs another. -/
structure Memoizes (lines : List String) (pool : Pool String QueryEngine (List SearchResult)) :
    Prop where
  /-- No key is searched for twice. -/
  searched_nodup : pool.memory.searched.Nodup
  /-- When a call has returned, its key was searched for once, and it has returned what is remembered. -/
  returned : ∀ (i : Nat) (line : String) (results : List SearchResult), lines[i]? = some line →
    pool.result? i = some results → (CanonicalQuery.ofLine line).isEmpty = false →
    pool.memory.searched.count (CanonicalQuery.ofLine line).key = 1 ∧
      pool.memory.remembered (CanonicalQuery.ofLine line).key = some results
  /-- When a task has ended, its key was searched for once, and something is remembered for it. -/
  ended : ∀ ticket ∈ pool.ended, ∃ line, pool.accepted[ticket]? = some line ∧
    ((CanonicalQuery.ofLine line).isEmpty = false →
      pool.memory.searched.count (CanonicalQuery.ofLine line).key = 1 ∧
        ∃ results, pool.memory.remembered (CanonicalQuery.ofLine line).key = some results)
  /-- Calls with the same key return the same. -/
  agree : ∀ (i j : Nat) (line other : String) (results results' : List SearchResult),
    lines[i]? = some line → lines[j]? = some other →
    (CanonicalQuery.ofLine line).key = (CanonicalQuery.ofLine other).key →
    pool.result? i = some results → pool.result? j = some results' → results = results'
  /-- A call for a line without terms returns nothing. -/
  empty : ∀ (i : Nat) (line : String) (results : List SearchResult), lines[i]? = some line →
    pool.result? i = some results → (CanonicalQuery.ofLine line).isEmpty = true → results = []
  /-- A line without terms is neither searched for nor recorded. -/
  unrecorded : ∀ line : String, (CanonicalQuery.ofLine line).isEmpty = true →
    (CanonicalQuery.ofLine line).key ∉ pool.memory.searched ∧
      pool.memory.cells[(CanonicalQuery.ofLine line).key]? = none
  /-- What is recorded belongs to some call. -/
  recorded : ∀ (key : String) (cell : Cell), pool.memory.cells[key]? = some cell →
    ∃ line ∈ lines ++ pool.accepted, (CanonicalQuery.ofLine line).isEmpty = false ∧
      (CanonicalQuery.ofLine line).key = key

variable {searcher : Searcher} {mode : SearchMode} {lines : List String}
  {others : List (Job String QueryEngine (List SearchResult))}
  {start pool : Pool String QueryEngine (List SearchResult)} {refused : List String}

/-! ## How threads start -/

/-- Whatever is found is right. -/
def AnyResults (_ : CanonicalQuery) (_ : List SearchResult) : Prop := True

theorem Accounts.of_spares {known : List String} {ledger : Ledger String QueryEngine}
    {inHand : Multiset Token} {change : QueryEngine → QueryEngine}
    (h : Accounts known AnyResults ledger inHand) (hspares : SparesCells change) :
    Accounts known AnyResults { ledger with memory := change ledger.memory } inHand := by
  obtain ⟨hcells, hsearched⟩ := hspares ledger.memory
  have hremembered : ∀ key, (change ledger.memory).remembered key = ledger.memory.remembered key := by
    intro key
    apply remembered_of_getElem?
    rw [hcells]
  constructor
  case asked_mem => exact h.asked_mem
  case filling_eq =>
    intro key
    dsimp only
    rw [hcells]
    exact h.filling_eq key
  case searched_eq =>
    intro key
    dsimp only
    rw [hsearched, hremembered]
    exact h.searched_eq key
  case cell =>
    dsimp only
    rw [hcells]
    exact h.cell
  case answer => exact fun _ => trivial

/-- A thread that does not meddle with the cells keeps what those agree on that run queries. -/
theorem keeps_of_spares {job : Job String QueryEngine (List SearchResult)}
    (h : job.ChangesOnly SparesCells) (known : List String) :
    job.Keeps (memo known AnyResults) Spent 0 := by
  apply keeps_of_changesOnly h
  intro change hspares ledger inHand hledger
  refine ⟨fun key cell hcell => ?_, hledger.of_spares hspares⟩
  rw [(hspares ledger.memory).1]
  exact ⟨cell, hcell, le_rfl⟩

/-- What clients have in hand at their start, where each of some lines is run by one. -/
theorem total_clients (known : List String)
    (hothers : ∀ other ∈ others, other.ChangesOnly SparesCells) :
    Total (Job.Keeps (memo known AnyResults) Spent) (lines.map runJob ++ others)
      (lines.map ask).sum := by
  induction lines with
  | nil =>
    have htotal : Total (Job.Keeps (memo known AnyResults) Spent) others
        (others.length • (0 : Multiset Token)) :=
      .of_forall fun other hother => keeps_of_spares (hothers other hother) known
    simpa using htotal
  | cons line lines ih => exact .cons (runJob_keeps line) ih

/-- Nothing was searched for yet, and each client may put a cell there for its line. -/
theorem accounts_new (lines : List String) (isShutdown : Bool) :
    Accounts lines AnyResults ⟨.new searcher mode, [], [], isShutdown⟩ (lines.map ask).sum := by
  have hnew : Accounts lines AnyResults ⟨.new searcher mode, [], [], isShutdown⟩ 0 := by
    constructor
    case asked_mem => exact fun line hline => absurd hline (Multiset.notMem_zero _)
    case filling_eq => simp [new]
    case searched_eq => simp [new, remembered]
    case cell => simp [new]
    case answer => exact fun _ => trivial
  -- to be given a line is all that a client has in hand at its start
  rw [← add_zero (lines.map ask).sum]
  apply hnew.add_asked
  intro token htoken
  rw [List.append_nil]
  exact mem_sum_ask htoken

/-- What a client assures that runs a line, as far as it has come. -/
def ClientAssures (lines : List String) (i : Nat)
    (activity : Activity String QueryEngine (List SearchResult)) (engine : QueryEngine) : Prop :=
  ∀ line, lines[i]? = some line → activity.Assures IsFilling (fun results engine =>
    if (CanonicalQuery.ofLine line).isEmpty then results = []
    else engine.remembered (CanonicalQuery.ofLine line).key = some results) engine

/-- What holds in every state while clients run lines. -/
theorem agreed_of_reached
    (hstart : start.IsUnused (.new searcher mode) (lines.map runJob ++ others))
    (hothers : ∀ other ∈ others, other.ChangesOnly SparesCells)
    (h : Pool.Reached (· = lineTask) start pool refused) :
    (∃ inHand, Accounts lines AnyResults (pool.ledger refused) inHand) ∧
      pool.Holds (ClientAssures lines) TaskAssures := by
  have hkeeps : start.Keeps (memo lines AnyResults) [] :=
    hstart.keeps (total_clients lines hothers) (accounts_new lines start.isShutdown)
  have hholds : start.Holds (ClientAssures lines) TaskAssures := by
    apply hstart.holds
    intro i job hjob line hline
    rw [List.getElem?_append_left] at hjob
    · rw [List.getElem?_map, hline] at hjob
      cases hjob
      exact runJob_assures line _
    · rw [List.length_map]
      exact (List.getElem?_eq_some_iff.mp hline).1
  have hclient : ∀ (pool next : Pool String QueryEngine (List SearchResult)) (i : Nat)
      (activity activity' : Activity String QueryEngine (List SearchResult)),
      pool.memory ≤ next.memory → pool.Continues next none activity activity' →
      ClientAssures lines i activity pool.memory → ClientAssures lines i activity' next.memory :=
    fun _ _ _ _ _ hle hcontinues hassures line hline =>
      hcontinues.assures (hassures line hline) hle
  obtain ⟨hkeeps, -, hholds⟩ := holds_of_reached hkeeps hstart.isOrderly hholds hclient h
  exact ⟨accounts_of_keeps hkeeps, hholds⟩

/-! ## What callers get -/

/-- What a caller has got is remembered, unless its line has no terms. -/
theorem remembered_of_result (h : pool.Holds (ClientAssures lines) TaskAssures) {i : Nat}
    {line : String} {results : List SearchResult} (hline : lines[i]? = some line)
    (hresult : pool.result? i = some results) :
    if (CanonicalQuery.ofLine line).isEmpty then results = []
    else pool.memory.remembered (CanonicalQuery.ofLine line).key = some results := by
  unfold Pool.result? at hresult
  split at hresult
  · next hclient =>
    cases hresult
    exact h.client i _ hclient line hline pool.memory le_rfl
  · cases hresult

/-- **Threads that run queries share one search for each key**, under every schedule, also while others
change what the searcher finds. -/
theorem memoizes_of_reached
    (hstart : start.IsUnused (.new searcher mode) (lines.map runJob ++ others))
    (hothers : ∀ other ∈ others, other.ChangesOnly SparesCells)
    (h : Pool.Reached (· = lineTask) start pool refused) : Memoizes lines pool := by
  obtain ⟨⟨inHand, haccounts⟩, hholds⟩ := agreed_of_reached hstart hothers h
  have hreturned : ∀ (i : Nat) (line : String) (results : List SearchResult),
      lines[i]? = some line → pool.result? i = some results →
      (CanonicalQuery.ofLine line).isEmpty = false →
      pool.memory.remembered (CanonicalQuery.ofLine line).key = some results := by
    intro i line results hline hresult hterms
    have hremembered := remembered_of_result hholds hline hresult
    rwa [hterms, if_neg Bool.false_ne_true] at hremembered
  have hempty : ∀ (i : Nat) (line : String) (results : List SearchResult),
      lines[i]? = some line → pool.result? i = some results →
      (CanonicalQuery.ofLine line).isEmpty = true → results = [] := by
    intro i line results hline hresult hterms
    have hremembered := remembered_of_result hholds hline hresult
    rwa [hterms, if_pos rfl] at hremembered
  constructor
  case searched_nodup => exact haccounts.searched_nodup
  case returned =>
    intro i line results hline hresult hterms
    have hremembered := hreturned i line results hline hresult hterms
    exact ⟨haccounts.count_searched hremembered, hremembered⟩
  case ended =>
    intro ticket hticket
    obtain ⟨line, haccepted, hassures⟩ := remembered_of_ended hholds hticket
    refine ⟨line, haccepted, fun hterms => ?_⟩
    obtain ⟨results, hremembered⟩ := hassures hterms
    exact ⟨haccounts.count_searched hremembered, results, hremembered⟩
  case agree =>
    intro i j line other results results' hline hother hkey hresult hresult'
    -- lines with the same key are the same query, so both have terms or neither has
    have hquery := CanonicalQuery.ofLine_eq_of_key_eq hkey
    cases hterms : (CanonicalQuery.ofLine line).isEmpty with
    | true =>
      rw [hempty i line results hline hresult hterms]
      rw [hquery] at hterms
      rw [hempty j other results' hother hresult' hterms]
    | false =>
      have hremembered := hreturned i line results hline hresult hterms
      rw [hquery] at hterms hremembered
      have hremembered' := hreturned j other results' hother hresult' hterms
      exact Option.some.inj (hremembered.symm.trans hremembered')
  case empty => exact hempty
  case unrecorded =>
    intro line hterms
    -- what is recorded belongs to a line with terms, and so has another key
    have hnone : pool.memory.cells[(CanonicalQuery.ofLine line).key]? = none := by
      by_contra hsome
      obtain ⟨cell, hcell⟩ := Option.ne_none_iff_exists'.mp hsome
      obtain ⟨other, -, hother, hkey, -⟩ := haccounts.cell _ cell hcell
      rw [CanonicalQuery.ofLine_eq_of_key_eq hkey, hterms] at hother
      cases hother
    exact ⟨haccounts.not_mem_searched hnone, hnone⟩
  case recorded =>
    intro key cell hcell
    obtain ⟨line, hline, hterms, hkey, -⟩ := haccounts.cell key cell hcell
    exact ⟨line, hline, hterms, hkey⟩

/-- Two callers race with lines that have the same key, while another thread makes the searcher find
more. The first to claim the cell searches before that, and the second waits for it. -/
theorem memoizes_of_race :
    ∃ (pool : Pool String QueryEngine (List SearchResult)) (events : List Event),
      (Pool.start 1 (.new (fun _ _ => [⟨1, default, "a.txt"⟩]) .exact)
        [runJob "dogs cat", runJob "Cat dog", runJob "42 !!",
          .atomically (fun engine => { engine with
            searcher := fun _ _ => [⟨1, default, "a.txt"⟩, ⟨1, default, "b.txt"⟩] })
            fun _ => .finish []]).run lineTask events = some pool ∧
      pool.result? 0 = some [⟨1, default, "a.txt"⟩] ∧
      pool.result? 1 = some [⟨1, default, "a.txt"⟩] ∧ pool.result? 2 = some [] ∧
      pool.memory.searched = ["cat dog"] ∧
      Memoizes ["dogs cat", "Cat dog", "42 !!"] pool := by
  let grows : Job String QueryEngine (List SearchResult) :=
    .atomically (fun engine => { engine with
      searcher := fun _ _ => [⟨1, default, "a.txt"⟩, ⟨1, default, "b.txt"⟩] }) fun _ => .finish []
  let lines : List String := ["dogs cat", "Cat dog", "42 !!"]
  let start : Pool String QueryEngine (List SearchResult) :=
    .start 1 (.new (fun _ _ => [⟨1, default, "a.txt"⟩]) .exact) (lines.map runJob ++ [grows])
  -- both callers find no cell, and the first of them searches before the searcher finds more
  let schedule : List Event := [.client 0 none, .client 1 none, .client 1 none, .client 0 none,
    .client 0 none, .client 0 none, .client 1 none, .client 3 none, .client 0 none, .client 0 none,
    .client 1 none, .client 1 none, .client 1 none, .client 2 none]
  obtain ⟨events, hevents⟩ := Pool.exists_run_follow lineTask start schedule
  have hresult : (start.follow lineTask schedule).result? 0 = some [⟨1, default, "a.txt"⟩] := by
    decide +kernel
  have hresult' : (start.follow lineTask schedule).result? 1 = some [⟨1, default, "a.txt"⟩] := by
    decide +kernel
  have hempty : (start.follow lineTask schedule).result? 2 = some [] := by decide +kernel
  have hsearched : (start.follow lineTask schedule).memory.searched = ["cat dog"] := by
    decide +kernel
  have hgrows : ∀ other ∈ [grows], other.ChangesOnly SparesCells := by
    intro other hother
    rw [List.mem_singleton.mp hother]
    exact ⟨fun _ => ⟨rfl, rfl⟩, fun _ => trivial⟩
  have hmemoizes := memoizes_of_reached (Pool.isUnused_start 1 _ (lines.map runJob ++ [grows])) hgrows
    (.of_run (by rfl) hevents)
  exact ⟨_, events, hevents, hresult, hresult', hempty, hsearched, hmemoizes⟩

end Concordance.QueryEngine
