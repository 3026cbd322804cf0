import Concordance.Proofs.Pool.Shares
import Concordance.Proofs.Query.Cells
import Mathlib.Algebra.Order.Group.Multiset

/-!
# Threads that share cells

A thread that runs a query may put a cell there for its line, may find the cell vacant and claim it, and
then searches and fills it. What it has in hand at each moment is a token: so the cells that are being
filled are those that some thread has claimed, and no two threads have claimed the same. Every search
belongs to a cell that is filled, or to a thread that is about to fill one.

## Main definitions

* `Token`: what a thread has in hand
* `QueryEngine.Accounts`: every cell and every search is accounted for
* `QueryEngine.memo`: what threads agree on that run queries

## Main results

* `runJob_keeps`, `lineTask_keeps`: threads that run queries keep the agreement
-/

namespace Concordance

/-- What a thread has in hand while it runs a query. -/
inductive Token where
  /-- It may put a cell there for this line. -/
  | asked (line : String)
  /-- It has marked the cell of this key as being filled, and has not searched. -/
  | claimed (key : String)
  /-- It has searched for this key, and has not filled the cell. -/
  | searched (key : String)
deriving DecidableEq

namespace QueryEngine

/-- Every cell and every search is accounted for, where some lines are known besides those of the tasks,
and results may have to be right. -/
structure Accounts (known : List String) (right : CanonicalQuery → List SearchResult → Prop)
    (ledger : Ledger String QueryEngine) (inHand : Multiset Token) : Prop where
  asked_mem : ∀ line : String, .asked line ∈ inHand → line ∈ known ++ ledger.accepted
  /-- A cell is being filled if one thread has claimed it. -/
  filling_eq : ∀ key : String, inHand.count (.claimed key) + inHand.count (.searched key) =
    if ledger.memory.cells[key]? = some .filling then 1 else 0
  /-- A search was made for a cell that is filled or about to be. -/
  searched_eq : ∀ key : String, ledger.memory.searched.count key =
    inHand.count (.searched key) + if (ledger.memory.remembered key).isSome then 1 else 0
  /-- A cell is there for a line with terms, and has the right results for it. -/
  cell : ∀ (key : String) (cell : Cell), ledger.memory.cells[key]? = some cell →
    ∃ line ∈ known ++ ledger.accepted, (CanonicalQuery.ofLine line).isEmpty = false ∧
      (CanonicalQuery.ofLine line).key = key ∧
      ∀ results, cell = .filled results → right (CanonicalQuery.ofLine line) results
  answer : ∀ query, right query (ledger.memory.answer query)

variable {known : List String} {right : CanonicalQuery → List SearchResult → Prop}
  {ledger : Ledger String QueryEngine} {rest : Multiset Token} {key line : String}

namespace Accounts

/-- A thread gives up what it may do for its line. -/
theorem of_asked (h : Accounts known right ledger (.asked line ::ₘ rest)) :
    Accounts known right ledger rest where
  asked_mem other hother := h.asked_mem other (Multiset.mem_cons_of_mem hother)
  filling_eq other := by simpa using h.filling_eq other
  searched_eq other := by simpa using h.searched_eq other
  cell := h.cell
  answer := h.answer

/-- What is to be shown when the cell of one key has changed, or has been searched for. -/
theorem update (h : Accounts known right ledger rest) {engine : QueryEngine}
    {inHand : Multiset Token} (key : String) (hanswer : engine.answer = ledger.memory.answer)
    (hothers : ∀ other ≠ key, engine.cells[other]? = ledger.memory.cells[other]? ∧
      engine.searched.count other = ledger.memory.searched.count other ∧
      inHand.count (.claimed other) = rest.count (.claimed other) ∧
      inHand.count (.searched other) = rest.count (.searched other))
    (hasked : ∀ line : String, .asked line ∈ inHand → .asked line ∈ rest)
    (hfilling : inHand.count (.claimed key) + inHand.count (.searched key) =
      if engine.cells[key]? = some .filling then 1 else 0)
    (hsearched : engine.searched.count key =
      inHand.count (.searched key) + if (engine.remembered key).isSome then 1 else 0)
    (hcell : ∀ cell, engine.cells[key]? = some cell →
      ∃ line ∈ known ++ ledger.accepted, (CanonicalQuery.ofLine line).isEmpty = false ∧
        (CanonicalQuery.ofLine line).key = key ∧
        ∀ results, cell = .filled results → right (CanonicalQuery.ofLine line) results) :
    Accounts known right { ledger with memory := engine } inHand := by
  constructor
  case asked_mem => exact fun line hline => h.asked_mem line (hasked line hline)
  case filling_eq =>
    intro other
    rcases eq_or_ne other key with rfl | hne
    · exact hfilling
    · obtain ⟨hcells, -, hclaimed, htoken⟩ := hothers other hne
      dsimp only
      rw [hcells, hclaimed, htoken]
      exact h.filling_eq other
  case searched_eq =>
    intro other
    rcases eq_or_ne other key with rfl | hne
    · exact hsearched
    · obtain ⟨hcells, hcount, -, htoken⟩ := hothers other hne
      have hremembered : engine.remembered other = ledger.memory.remembered other :=
        remembered_of_getElem? hcells
      dsimp only
      rw [hremembered, hcount, htoken]
      exact h.searched_eq other
  case cell =>
    intro other cell hother
    rcases eq_or_ne other key with rfl | hne
    · exact hcell cell hother
    · rw [(hothers other hne).1] at hother
      exact h.cell other cell hother
  case answer =>
    intro query
    dsimp only
    rw [hanswer]
    exact h.answer query

/-- A thread puts a cell there for its line. -/
theorem reserve (h : Accounts known right ledger rest) (hline : line ∈ known ++ ledger.accepted)
    (hterms : (CanonicalQuery.ofLine line).isEmpty = false) :
    Accounts known right
      { ledger with memory := ledger.memory.reserve (CanonicalQuery.ofLine line).key } rest := by
  by_cases hcontains : ledger.memory.cells.contains (CanonicalQuery.ofLine line).key = true
  · -- another thread was faster
    rw [QueryEngine.reserve, if_pos hcontains]
    exact h
  rw [QueryEngine.reserve, if_neg hcontains]
  have hnone : ledger.memory.cells[(CanonicalQuery.ofLine line).key]? = none := by
    rw [Std.ExtTreeMap.contains_eq_isSome_getElem?] at hcontains
    exact Option.not_isSome_iff_eq_none.mp hcontains
  have hfilling := h.filling_eq (CanonicalQuery.ofLine line).key
  have hsearched := h.searched_eq (CanonicalQuery.ofLine line).key
  rw [hnone] at hfilling
  rw [remembered_of_getElem? hnone] at hsearched
  apply h.update (CanonicalQuery.ofLine line).key
  · rfl
  · intro other hne
    exact ⟨by rw [getElem?_setCell, if_neg hne.symm], rfl, rfl, rfl⟩
  · exact fun _ => id
  · rw [getElem?_setCell, if_pos rfl]
    simpa using hfilling
  · rw [remembered_setCell]
    exact hsearched
  · intro cell hcell
    rw [getElem?_setCell, if_pos rfl] at hcell
    cases hcell
    exact ⟨line, hline, hterms, rfl, fun _ => Cell.noConfusion⟩

/-- A thread claims a cell that is vacant. -/
theorem claim (h : Accounts known right ledger rest)
    (hvacant : ledger.memory.cells[key]? = some .vacant) :
    Accounts known right { ledger with memory := ledger.memory.claim key } (.claimed key ::ₘ rest) := by
  have hclaim : ledger.memory.claim key = ledger.memory.setCell key .filling := by
    rw [QueryEngine.claim, hvacant]
  have hfilling := h.filling_eq key
  have hsearched := h.searched_eq key
  rw [hvacant, if_neg (by simp)] at hfilling
  rw [remembered_of_getElem? hvacant] at hsearched
  rw [hclaim]
  apply h.update key
  · rfl
  · intro other hne
    refine ⟨by rw [getElem?_setCell, if_neg hne.symm], rfl, ?_, ?_⟩
    · exact Multiset.count_cons_of_ne (by simpa using hne) _
    · exact Multiset.count_cons_of_ne (by simp) _
  · intro other hother
    simpa using hother
  · rw [getElem?_setCell, if_pos rfl, if_pos rfl, Multiset.count_cons_self,
      Multiset.count_cons_of_ne (by simp)]
    omega
  · rw [remembered_setCell, Multiset.count_cons_of_ne (by simp)]
    exact hsearched
  · intro cell hcell
    obtain ⟨other, hother, hterms, hkey, -⟩ := h.cell key .vacant hvacant
    rw [getElem?_setCell, if_pos rfl] at hcell
    cases hcell
    exact ⟨other, hother, hterms, hkey, fun _ => Cell.noConfusion⟩

/-- A thread searches for the key of a cell that it has claimed. -/
theorem noteSearch (h : Accounts known right ledger (.claimed key ::ₘ rest)) :
    Accounts known right { ledger with memory := ledger.memory.noteSearch key }
      (.searched key ::ₘ rest) := by
  have hfilling := h.filling_eq key
  have hsearched := h.searched_eq key
  rw [Multiset.count_cons_self, Multiset.count_cons_of_ne (by simp)] at hfilling
  rw [Multiset.count_cons_of_ne (by simp)] at hsearched
  apply h.update key
  · rfl
  · intro other hne
    refine ⟨rfl, ?_, ?_, ?_⟩
    · simp [QueryEngine.noteSearch, List.count_append, hne.symm]
    · rw [Multiset.count_cons_of_ne (by simp), Multiset.count_cons_of_ne (by simpa using hne)]
    · rw [Multiset.count_cons_of_ne (by simpa using hne), Multiset.count_cons_of_ne (by simp)]
  · intro other hother
    simpa using hother
  · rw [Multiset.count_cons_self, Multiset.count_cons_of_ne (by simp), getElem?_noteSearch, ← hfilling]
    omega
  · rw [Multiset.count_cons_self]
    simp only [QueryEngine.noteSearch, List.count_append, List.count_singleton_self]
    change ledger.memory.searched.count key + 1 = rest.count (.searched key) + 1 +
      if (ledger.memory.remembered key).isSome then 1 else 0
    omega
  · intro cell hcell
    exact h.cell key cell hcell

/-- A cell that a thread has searched for is being filled, and by nobody else. -/
theorem filling (h : Accounts known right ledger (.searched key ::ₘ rest)) :
    ledger.memory.cells[key]? = some .filling ∧ rest.count (.claimed key) = 0 ∧
      rest.count (.searched key) = 0 := by
  have hfilling := h.filling_eq key
  rw [Multiset.count_cons_of_ne (by simp), Multiset.count_cons_self] at hfilling
  split at hfilling
  · next hcell => exact ⟨hcell, by omega, by omega⟩
  · omega

/-- A thread fills the cell that it has claimed with what it has found. -/
theorem fill (h : Accounts known right ledger
      (.searched (CanonicalQuery.ofLine line).key ::ₘ .asked line ::ₘ rest))
    (hterms : (CanonicalQuery.ofLine line).isEmpty = false) {results : List SearchResult}
    (hright : right (CanonicalQuery.ofLine line) results) :
    Accounts known right
      { ledger with
        memory := ledger.memory.setCell (CanonicalQuery.ofLine line).key (.filled results) } rest := by
  -- nobody else has claimed the cell, so nobody has once it is filled
  obtain ⟨hcell, hclaimed, htoken⟩ := h.filling
  have hline : line ∈ known ++ ledger.accepted := h.asked_mem line (by simp)
  have hsearched := h.searched_eq (CanonicalQuery.ofLine line).key
  rw [remembered_of_getElem? hcell, Multiset.count_cons_self, htoken] at hsearched
  rw [Multiset.count_cons_of_ne (by simp)] at hclaimed htoken
  apply h.update (CanonicalQuery.ofLine line).key
  · rfl
  · intro other hne
    refine ⟨by rw [getElem?_setCell, if_neg hne.symm], rfl, ?_, ?_⟩
    · rw [Multiset.count_cons_of_ne (by simp), Multiset.count_cons_of_ne (by simp)]
    · rw [Multiset.count_cons_of_ne (by simpa using hne), Multiset.count_cons_of_ne (by simp)]
  · intro other hother
    exact Multiset.mem_cons_of_mem (Multiset.mem_cons_of_mem hother)
  · rw [getElem?_setCell, if_pos rfl, hclaimed, htoken]
    simp
  · rw [remembered_setCell, htoken]
    exact hsearched
  · intro cell hfilled
    rw [getElem?_setCell, if_pos rfl] at hfilled
    cases hfilled
    refine ⟨line, hline, hterms, rfl, ?_⟩
    rintro _ ⟨⟩
    exact hright

/-- More lines become known. -/
theorem extend (h : Accounts known right ledger rest) (line : String) :
    Accounts known right { ledger with accepted := ledger.accepted ++ [line] } rest := by
  have hmono : known ++ ledger.accepted ⊆ known ++ (ledger.accepted ++ [line]) := by
    rw [← List.append_assoc]
    exact List.subset_append_left _ _
  constructor
  case asked_mem => exact fun other hother => hmono (h.asked_mem other hother)
  case filling_eq => exact h.filling_eq
  case searched_eq => exact h.searched_eq
  case cell =>
    intro key cell hcell
    obtain ⟨other, hother, hrest⟩ := h.cell key cell hcell
    exact ⟨other, hmono hother, hrest⟩
  case answer => exact h.answer

/-- Threads may be given lines that are known. -/
theorem add_asked (h : Accounts known right ledger rest) {tokens : Multiset Token}
    (htokens : ∀ token ∈ tokens, ∃ line ∈ known ++ ledger.accepted, token = .asked line) :
    Accounts known right ledger (tokens + rest) := by
  have hcount : ∀ token, (∀ line, token ≠ .asked line) →
      (tokens + rest).count token = rest.count token := by
    intro token htoken
    rw [Multiset.count_add, Multiset.count_eq_zero_of_notMem, zero_add]
    intro hmem
    obtain ⟨line, -, heq⟩ := htokens token hmem
    exact htoken line heq
  constructor
  case asked_mem =>
    intro line hline
    rcases Multiset.mem_add.mp hline with hline | hline
    · obtain ⟨other, hother, heq⟩ := htokens _ hline
      cases heq
      exact hother
    · exact h.asked_mem line hline
  case filling_eq =>
    intro key
    rw [hcount _ (by simp), hcount _ (by simp)]
    exact h.filling_eq key
  case searched_eq =>
    intro key
    rw [hcount _ (by simp)]
    exact h.searched_eq key
  case cell => exact h.cell
  case answer => exact h.answer

/-- A key whose results are remembered was searched for once. -/
theorem count_searched (h : Accounts known right ledger rest) {results : List SearchResult}
    (hremembered : ledger.memory.remembered key = some results) :
    ledger.memory.searched.count key = 1 := by
  have hfilling := h.filling_eq key
  have hsearched := h.searched_eq key
  rw [remembered_eq_some_iff.mp hremembered, if_neg (by simp)] at hfilling
  rw [hremembered, if_pos (by simp)] at hsearched
  omega

/-- A key that has no cell was not searched for. -/
theorem not_mem_searched (h : Accounts known right ledger rest)
    (hnone : ledger.memory.cells[key]? = none) : key ∉ ledger.memory.searched := by
  have hfilling := h.filling_eq key
  have hsearched := h.searched_eq key
  rw [hnone, if_neg (by simp)] at hfilling
  rw [remembered_of_getElem? hnone, if_neg (by simp)] at hsearched
  rw [← List.count_eq_zero]
  omega

/-- No key is searched for twice. -/
theorem searched_nodup (h : Accounts known right ledger rest) : ledger.memory.searched.Nodup := by
  rw [List.nodup_iff_count_le_one]
  intro key
  cases hremembered : ledger.memory.remembered key with
  | some results => exact (h.count_searched hremembered).le
  | none =>
    -- only the thread that is filling the cell may have searched
    have hfilling := h.filling_eq key
    have hsearched := h.searched_eq key
    rw [hremembered, if_neg (by simp)] at hsearched
    split at hfilling <;> omega

/-- Threads that have only been given lines may be left out. -/
theorem of_asks (h : Accounts known right ledger rest)
    (hasks : ∀ token ∈ rest, ∃ line, token = .asked line) : Accounts known right ledger 0 := by
  have hcount : ∀ token, (∀ line, token ≠ .asked line) → rest.count token = 0 := by
    intro token htoken
    rw [Multiset.count_eq_zero]
    intro hmem
    obtain ⟨line, heq⟩ := hasks token hmem
    exact htoken line heq
  constructor
  case asked_mem => exact fun line hline => absurd hline (Multiset.notMem_zero _)
  case filling_eq =>
    intro key
    have hfilling := h.filling_eq key
    rw [hcount _ (by simp), hcount _ (by simp)] at hfilling
    simpa using hfilling
  case searched_eq =>
    intro key
    have hsearched := h.searched_eq key
    rw [hcount _ (by simp)] at hsearched
    simpa using hsearched
  case cell => exact h.cell
  case answer => exact h.answer

/-- While no thread has claimed a cell, none is being filled. -/
theorem not_isFilling (h : Accounts known right ledger 0) : ¬ ledger.memory.IsFilling := by
  rintro ⟨key, hcell⟩
  have hfilling := h.filling_eq key
  rw [hcell, if_pos rfl] at hfilling
  simp at hfilling

/-- What the lines of tasks account for, other lines may account for as well. -/
theorem of_subset (h : Accounts known right ledger 0) {ledger' : Ledger String QueryEngine}
    (hmemory : ledger'.memory = ledger.memory) {more : List String}
    (hmore : known ++ ledger.accepted ⊆ more ++ ledger'.accepted) :
    Accounts more right ledger' 0 := by
  constructor
  case asked_mem => exact fun line hline => absurd hline (Multiset.notMem_zero _)
  case filling_eq =>
    rw [hmemory]
    exact h.filling_eq
  case searched_eq =>
    rw [hmemory]
    exact h.searched_eq
  case cell =>
    intro key cell hcell
    rw [hmemory] at hcell
    obtain ⟨line, hline, hrest⟩ := h.cell key cell hcell
    exact ⟨line, hmore hline, hrest⟩
  case answer =>
    rw [hmemory]
    exact h.answer

end Accounts

/-! ## The agreement -/

/-- What the task of running a line has in hand at its start. -/
def ask (line : String) : Multiset Token :=
  if (CanonicalQuery.ofLine line).isEmpty then 0 else {.asked line}

theorem eq_asked_of_mem_ask {token : Token} (h : token ∈ ask line) : token = .asked line := by
  unfold ask at h
  split at h
  · cases h
  · exact Multiset.mem_singleton.mp h

/-- What tasks of some lines have in hand together at their start. -/
theorem mem_sum_ask {token : Token} {lines : List String} (h : token ∈ (lines.map ask).sum) :
    ∃ line ∈ lines, token = .asked line := by
  induction lines with
  | nil => exact absurd h (Multiset.notMem_zero token)
  | cons line lines ih =>
    rw [List.map_cons, List.sum_cons] at h
    rcases Multiset.mem_add.mp h with h | h
    · exact ⟨line, List.mem_cons_self, eq_asked_of_mem_ask h⟩
    · obtain ⟨other, hother, htoken⟩ := ih h
      exact ⟨other, List.mem_cons_of_mem line hother, htoken⟩

/-- What threads agree on that run queries: cells only grow, and all of them are accounted for. -/
def memo (known : List String) (right : CanonicalQuery → List SearchResult → Prop) :
    Agreement String QueryEngine (Multiset Token) where
  holds := Accounts known right
  share := ask
  permits change inHand := ∀ ledger others, Accounts known right ledger (inHand + others) →
    ledger.memory ≤ change ledger.memory

theorem fillJob_keeps (hterms : (CanonicalQuery.ofLine line).isEmpty = false) :
    (fillJob (CanonicalQuery.ofLine line)).Keeps (memo known right) Spent
      (.claimed (CanonicalQuery.ofLine line).key ::ₘ {.asked line}) := by
  refine ⟨fun ledger _ _ => le_noteSearch ledger.memory _, fun ledger others h => ?_⟩
  change Accounts known right ledger (_ ::ₘ {.asked line} + others) at h
  rw [Multiset.cons_add] at h
  refine ⟨.searched (CanonicalQuery.ofLine line).key ::ₘ {.asked line}, ?_, ?_, ?_⟩
  · rw [Multiset.cons_add]
    exact h.noteSearch
  · intro later others h
    rw [Multiset.cons_add] at h
    exact le_setCell h.filling.1 _
  · intro later others hlater
    change Accounts known right later (_ ::ₘ {.asked line} + others) at hlater
    rw [Multiset.cons_add, Multiset.singleton_add] at hlater
    refine ⟨0, ?_, rfl⟩
    rw [zero_add]
    exact hlater.fill hterms (h.answer _)

theorem shareJob_keeps (key : String) : (shareJob key).Keeps (memo known right) Spent 0 :=
  ⟨rfl, Job.keeps_look (fun ledger _ _ => le_refl ledger.memory) fun _ => rfl⟩

theorem cellJob_keeps (hterms : (CanonicalQuery.ofLine line).isEmpty = false) :
    (cellJob (CanonicalQuery.ofLine line)).Keeps (memo known right) Spent {.asked line} := by
  refine ⟨fun ledger _ _ => le_claim ledger.memory _, fun ledger others h => ?_⟩
  have hdropped : Accounts known right ledger others := h.of_asked
  by_cases hvacant : ledger.memory.cells[(CanonicalQuery.ofLine line).key]? = some .vacant
  · refine ⟨.claimed (CanonicalQuery.ofLine line).key ::ₘ {.asked line}, ?_, ?_⟩
    · rw [Multiset.cons_add]
      exact h.claim hvacant
    · dsimp only
      rw [hvacant]
      exact fillJob_keeps hterms
  · -- another thread has claimed the cell, and maybe filled it
    have hsame : ledger.memory.claim (CanonicalQuery.ofLine line).key = ledger.memory := by
      unfold claim
      split
      · next hcell => exact absurd hcell hvacant
      · rfl
    refine ⟨0, ?_, ?_⟩
    · dsimp only
      rw [hsame, zero_add]
      exact hdropped
    dsimp only
    split
    · rfl
    · next hcell => exact absurd hcell hvacant
    · exact shareJob_keeps _

/-- **A thread that runs a query keeps the agreement.** -/
theorem runJob_keeps (line : String) : (runJob line).Keeps (memo known right) Spent (ask line) := by
  unfold runJob ask
  dsimp only
  split
  · rfl
  · next hterms =>
    rw [Bool.not_eq_true] at hterms
    refine ⟨fun ledger _ _ => le_refl ledger.memory, fun ledger others h => ?_⟩
    refine ⟨{Token.asked line}, h, ?_⟩
    dsimp only
    split
    · exact cellJob_keeps hterms
    · refine ⟨fun ledger _ _ => le_reserve ledger.memory _, fun later others hlater => ?_⟩
      change Accounts known right later ({.asked line} + others) at hlater
      have hline : line ∈ known ++ later.accepted := hlater.asked_mem line (by simp)
      refine ⟨{.asked line}, ?_, cellJob_keeps hterms⟩
      exact hlater.reserve hline hterms

theorem lineTask_keeps (line : String) :
    (lineTask line).Keeps (memo known right) Spent ((memo known right).share line) :=
  Job.Keeps.bind (runJob_keeps line)

variable {α : Type}

/-- A thread that runs no query keeps the agreement if its changes to the memory do. -/
theorem keeps_of_changesOnly {kind : (QueryEngine → QueryEngine) → Prop}
    {job : Job String QueryEngine α} (h : job.ChangesOnly kind)
    (hkind : ∀ change, kind change → ∀ ledger inHand, Accounts known right ledger inHand →
      ledger.memory ≤ change ledger.memory ∧
        Accounts known right { ledger with memory := change ledger.memory } inHand) :
    job.Keeps (memo known right) Spent 0 := by
  apply h.keeps
  case hchange =>
    intro change hchange
    exact ⟨fun ledger others hledger => (hkind change hchange ledger _ hledger).1,
      fun ledger inHand hledger => (hkind change hchange ledger inHand hledger).2⟩
  case haccept =>
    intro ledger inHand line _ hledger
    apply (Accounts.extend hledger line).add_asked
    intro token htoken
    exact ⟨line, by simp, eq_asked_of_mem_ask htoken⟩
  case hrefuse =>
    intro ledger inHand line hledger
    exact ⟨hledger.asked_mem, hledger.filling_eq, hledger.searched_eq, hledger.cell, hledger.answer⟩
  case hshutdown =>
    intro ledger inHand hledger
    exact ⟨hledger.asked_mem, hledger.filling_eq, hledger.searched_eq, hledger.cell, hledger.answer⟩

/-! ## Pools of queries -/

variable {start pool : Pool String QueryEngine α} {refused : List String}

/-- The memory only grows while all threads keep the agreement. -/
theorem memory_le_of_keeps {body : String → Job String QueryEngine Unit}
    {pool next : Pool String QueryEngine α} {event : Event} (h : pool.Keeps (memo known right) refused)
    (hmoves : pool.Moves body event next) : pool.memory ≤ next.memory :=
  h.rel_memory hmoves le_refl fun _ _ ledger others hpermits hholds => hpermits ledger others hholds

theorem accounts_of_keeps (h : pool.Keeps (memo known right) refused) :
    ∃ inHand, Accounts known right (pool.ledger refused) inHand := by
  obtain ⟨ofWorkers, ofClients, -, -, hholds⟩ := h
  exact ⟨_, hholds⟩

/-- What the task of running a line assures, as far as it has come. -/
def TaskAssures (line : String) (activity : Activity String QueryEngine Unit)
    (engine : QueryEngine) : Prop :=
  activity.Assures IsFilling (fun _ engine => (CanonicalQuery.ofLine line).isEmpty = false →
    ∃ results, engine.remembered (CanonicalQuery.ofLine line).key = some results) engine

/-- **What each client and each task that runs a line assures, it goes on to assure.** -/
theorem holds_of_reached {ofClient : Nat → Activity String QueryEngine α → QueryEngine → Prop}
    (hkeeps : start.Keeps (memo known right) []) (horderly : start.history.IsOrderly)
    (hholds : start.Holds ofClient TaskAssures)
    (hclient : ∀ (pool next : Pool String QueryEngine α) (i : Nat)
      (activity activity' : Activity String QueryEngine α), pool.memory ≤ next.memory →
      pool.Continues next none activity activity' → ofClient i activity pool.memory →
      ofClient i activity' next.memory)
    (h : Pool.Reached (· = lineTask) start pool refused) :
    pool.Keeps (memo known right) refused ∧ pool.history.IsOrderly ∧
      pool.Holds ofClient TaskAssures := by
  refine h.invariant (p := fun pool refused => pool.Keeps (memo known right) refused ∧
    pool.history.IsOrderly ∧ pool.Holds ofClient TaskAssures) ⟨hkeeps, horderly, hholds⟩ ?_
  rintro _ pool next refused event rfl hmoves ⟨hkeeps, horderly, hholds⟩
  have hle := memory_le_of_keeps hkeeps hmoves
  refine ⟨hkeeps.moves hmoves lineTask_keeps, horderly.next hmoves.history, ?_⟩
  apply hholds.moves hmoves horderly
  · exact fun i activity activity' => hclient pool next i activity activity' hle
  · exact fun line self activity activity' hcontinues hassures => hcontinues.assures hassures hle
  · exact fun line => lineTask_assures line pool.memory

/-- What a line was run for is remembered when its task has ended. -/
theorem remembered_of_ended {ofClient : Nat → Activity String QueryEngine α → QueryEngine → Prop}
    (h : pool.Holds ofClient TaskAssures) {ticket : Nat} (hticket : ticket ∈ pool.ended) :
    ∃ line, pool.accepted[ticket]? = some line ∧ ((CanonicalQuery.ofLine line).isEmpty = false →
      ∃ results, pool.memory.remembered (CanonicalQuery.ofLine line).key = some results) := by
  obtain ⟨line, activity, haccepted, hthrough, hassures⟩ := h.ended ticket hticket
  refine ⟨line, haccepted, ?_⟩
  cases activity with
  | done => exact hassures pool.memory le_rfl
  | panicked => exact hassures.elim
  | _ => cases hthrough

end QueryEngine

end Concordance
