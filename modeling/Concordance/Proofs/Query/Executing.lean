import Concordance.Proofs.Pool.Batch
import Concordance.Proofs.Pool.Deserted
import Concordance.Proofs.Query.Keys
import Concordance.Proofs.Query.Sharing

/-!
# Lines that were run

Where the searcher finds the same each time, an engine is known by the lines that it has run: it
remembers for each of them what the searcher finds, and nothing else. This is so whether a line is run
by itself, after others, or as a task of a crew.

## Main definitions

* `QueryEngine.HasRun`: an engine that has run some lines

## Main results

* `HasRun.runLine_fst`: what a line gets from an engine that has run others
* `HasRun.runLine`, `HasRun.runLines`: lines that are run one after the other
* `HasRun.runPooled`: lines that are run as tasks of a crew
-/

namespace Concordance.QueryEngine

/-- What a searcher finds for a query. -/
def IsAnswer (searcher : Searcher) (mode : SearchMode) (query : CanonicalQuery)
    (results : List SearchResult) : Prop :=
  results = searcher query.terms mode

/-- An engine that has run some lines, and nothing else. -/
structure HasRun (searcher : Searcher) (mode : SearchMode) (executed : List String)
    (engine : QueryEngine) : Prop where
  accounts : Accounts executed (IsAnswer searcher mode) ⟨engine, [], [], false⟩ 0
  remembered : ∀ line ∈ executed, (CanonicalQuery.ofLine line).isEmpty = false →
    ∃ results, engine.remembered (CanonicalQuery.ofLine line).key = some results

variable {searcher : Searcher} {mode : SearchMode} {executed lines : List String}
  {engine : QueryEngine} {line key : String}

theorem hasRun_new (searcher : Searcher) (mode : SearchMode) :
    HasRun searcher mode [] (.new searcher mode) := by
  refine ⟨?_, fun line hline => absurd hline List.not_mem_nil⟩
  constructor
  case asked_mem => exact fun line hline => absurd hline (Multiset.notMem_zero _)
  case filling_eq => simp [new]
  case searched_eq => simp [new, QueryEngine.remembered]
  case cell => simp [new]
  case answer => exact fun _ => rfl

namespace HasRun

theorem answer_eq (h : HasRun searcher mode executed engine) (query : CanonicalQuery) :
    engine.answer query = searcher query.terms mode :=
  h.accounts.answer query

/-- A cell has what the searcher finds for a line that was run. -/
theorem exists_of_getElem? (h : HasRun searcher mode executed engine) {cell : Cell}
    (hcell : engine.cells[key]? = some cell) :
    ∃ line ∈ executed, (CanonicalQuery.ofLine line).isEmpty = false ∧
      (CanonicalQuery.ofLine line).key = key ∧
      cell = .filled (searcher (CanonicalQuery.ofLine line).terms mode) := by
  obtain ⟨line, hline, hterms, rfl, hright⟩ := h.accounts.cell key cell hcell
  rw [List.append_nil] at hline
  -- the line was run, so its cell is filled
  obtain ⟨results, hresults⟩ := h.remembered line hline hterms
  rw [remembered_eq_some_iff] at hresults
  rw [hresults] at hcell
  cases hcell
  have hanswer : results = searcher (CanonicalQuery.ofLine line).terms mode := hright results rfl
  exact ⟨line, hline, hterms, rfl, by rw [hanswer]⟩

/-- What is remembered for the key of a line is what the searcher finds for this line. -/
theorem eq_of_remembered (h : HasRun searcher mode executed engine) {results : List SearchResult}
    (hremembered : engine.remembered (CanonicalQuery.ofLine line).key = some results) :
    results = searcher (CanonicalQuery.ofLine line).terms mode := by
  rw [remembered_eq_some_iff] at hremembered
  obtain ⟨other, -, -, hkey, hcell⟩ := h.exists_of_getElem? hremembered
  rw [CanonicalQuery.ofLine_eq_of_key_eq hkey] at hcell
  cases hcell
  rfl

/-- A line with terms is remembered if a line with the same key was run. -/
theorem remembered_iff (h : HasRun searcher mode executed engine) :
    engine.remembered (CanonicalQuery.ofLine line).key =
        some (searcher (CanonicalQuery.ofLine line).terms mode) ↔
      ∃ other ∈ executed, (CanonicalQuery.ofLine other).isEmpty = false ∧
        (CanonicalQuery.ofLine other).key = (CanonicalQuery.ofLine line).key := by
  constructor
  · intro hremembered
    rw [remembered_eq_some_iff] at hremembered
    obtain ⟨other, hother, hterms, hkey, -⟩ := h.exists_of_getElem? hremembered
    exact ⟨other, hother, hterms, hkey⟩
  · rintro ⟨other, hother, hterms, hkey⟩
    obtain ⟨results, hresults⟩ := h.remembered other hother hterms
    rw [hkey] at hresults
    rw [hresults, h.eq_of_remembered hresults]

/-! ## Lines one after the other -/

/-- **What a line gets from an engine that has run others** is what the searcher finds for it. -/
theorem runLine_fst (h : HasRun searcher mode executed engine) (line : String) :
    (engine.runLine line).1 = if (CanonicalQuery.ofLine line).isEmpty then []
      else searcher (CanonicalQuery.ofLine line).terms mode := by
  unfold QueryEngine.runLine
  dsimp only
  split
  · rfl
  · split
    · next results hremembered => exact h.eq_of_remembered hremembered
    · exact h.answer_eq _

/-- An engine that has run a line that it knows already, or that has no terms. -/
theorem append_of_known (h : HasRun searcher mode executed engine)
    (hknown : (CanonicalQuery.ofLine line).isEmpty = false →
      ∃ results, engine.remembered (CanonicalQuery.ofLine line).key = some results) :
    HasRun searcher mode (executed ++ [line]) engine := by
  constructor
  case accounts =>
    apply h.accounts.of_subset rfl
    simp
  case remembered =>
    intro other hother hterms
    rcases List.mem_append.mp hother with hother | hother
    · exact h.remembered other hother hterms
    · rw [List.mem_singleton.mp hother] at hterms ⊢
      exact hknown hterms

/-- An engine that has searched for the key of a line and remembers what it has found. -/
theorem append_of_new (h : HasRun searcher mode executed engine)
    (hterms : (CanonicalQuery.ofLine line).isEmpty = false)
    (hnew : engine.remembered (CanonicalQuery.ofLine line).key = none) :
    HasRun searcher mode (executed ++ [line])
      ((engine.noteSearch (CanonicalQuery.ofLine line).key).setCell (CanonicalQuery.ofLine line).key
        (.filled (engine.answer (CanonicalQuery.ofLine line)))) := by
  have hknown : Accounts (executed ++ [line]) (IsAnswer searcher mode) ⟨engine, [], [], false⟩ 0 := by
    apply h.accounts.of_subset rfl
    simp
  have hcells : ∀ other, (CanonicalQuery.ofLine line).key ≠ other →
      ((engine.noteSearch (CanonicalQuery.ofLine line).key).setCell (CanonicalQuery.ofLine line).key
        (.filled (engine.answer (CanonicalQuery.ofLine line)))).cells[other]? =
        engine.cells[other]? := by
    intro other hne
    rw [getElem?_setCell, if_neg hne, getElem?_noteSearch]
  constructor
  case accounts =>
    have hsearched := h.accounts.searched_eq (CanonicalQuery.ofLine line).key
    dsimp only at hsearched
    rw [hnew] at hsearched
    apply hknown.update (CanonicalQuery.ofLine line).key
    · rfl
    · intro other hne
      refine ⟨hcells other hne.symm, ?_, rfl, rfl⟩
      simp [setCell, noteSearch, List.count_append, hne.symm]
    · exact fun _ => id
    · rw [getElem?_setCell, if_pos rfl]
      simp
    · rw [remembered_setCell]
      simpa [setCell, noteSearch, List.count_append, Cell.results?] using hsearched
    · intro cell hcell
      rw [getElem?_setCell, if_pos rfl] at hcell
      cases hcell
      refine ⟨line, by simp, hterms, rfl, ?_⟩
      rintro _ ⟨⟩
      exact h.answer_eq _
  case remembered =>
    intro other hother hother'
    rcases eq_or_ne (CanonicalQuery.ofLine line).key (CanonicalQuery.ofLine other).key with heq | hne
    · rw [← heq, remembered_setCell]
      exact ⟨_, rfl⟩
    · rw [remembered_of_getElem? (hcells _ hne)]
      rcases List.mem_append.mp hother with hother | hother
      · exact h.remembered other hother hother'
      · rw [List.mem_singleton.mp hother] at hne
        exact absurd rfl hne

/-- **A line that is run** is one more that was run. -/
theorem runLine (h : HasRun searcher mode executed engine) (line : String) :
    HasRun searcher mode (executed ++ [line]) (engine.runLine line).2 := by
  unfold QueryEngine.runLine
  dsimp only
  split
  · next hterms =>
    apply h.append_of_known
    rw [hterms]
    exact Bool.noConfusion
  · next hterms =>
    rw [Bool.not_eq_true] at hterms
    split
    · next results hremembered => exact h.append_of_known fun _ => ⟨results, hremembered⟩
    · next hnew => exact h.append_of_new hterms hnew

theorem runLines (h : HasRun searcher mode executed engine) (lines : List String) :
    HasRun searcher mode (executed ++ lines) (engine.runLines lines) := by
  induction lines generalizing executed engine with
  | nil =>
    rw [List.append_nil]
    exact h
  | cons line rest ih =>
    rw [← List.singleton_append, ← List.append_assoc]
    exact ih (h.runLine line)

end HasRun

/-! ## Lines as tasks of a crew -/

theorem cellJob_works (query : CanonicalQuery) : (cellJob query).Works 4 := by
  refine ⟨3, Nat.le_refl 4, fun engine => ?_⟩
  dsimp only
  split
  · exact Nat.le_add_left 1 2
  · exact ⟨2, Nat.le_refl 3, fun _ => ⟨1, Nat.le_refl 2, fun _ => Nat.le_refl 1⟩⟩
  · exact ⟨2, Nat.le_refl 3, 1, Nat.le_refl 2, fun _ => Nat.le_refl 1⟩

theorem lineTask_works (line : String) : (lineTask line).Works 7 := by
  have hrun : (runJob line).Works 6 := by
    unfold runJob
    dsimp only
    split
    · exact Nat.le_add_left 1 5
    · refine ⟨5, Nat.le_refl 6, fun engine => ?_⟩
      dsimp only
      split
      · exact (cellJob_works _).mono (Nat.le_succ 4)
      · exact ⟨4, Nat.le_refl 5, fun _ => cellJob_works _⟩
  apply Job.Works.bind (n := 1) hrun
  exact fun _ => Nat.le_refl 1

/-- The client of a crew that runs lines. -/
abbrev linesJob (lines : List String) : Job String QueryEngine Bool :=
  (Job.runAll lines).bind .finish

theorem linesJob_changesOnly (lines : List String) : (linesJob lines).ChangesOnly (· = id) := by
  rw [linesJob, Job.runAll_bind]
  apply Job.changesOnly_submitThen
  exact fun _ => trivial

section Pooled

variable {size : Nat} {pool : Pool String QueryEngine Bool} {refused : List String}

/-- What holds in every state while a crew runs lines. -/
theorem HasRun.agreed_of_reached (h : HasRun searcher mode executed engine)
    (hreached : Pool.Reached (· = lineTask) (.start size engine [linesJob lines]) pool refused) :
    pool.Keeps (memo executed (IsAnswer searcher mode)) refused ∧
      pool.Holds (fun _ _ _ => True) TaskAssures ∧ engine ≤ pool.memory := by
  have hstart : (Pool.start size engine [linesJob lines]).IsUnused engine [linesJob lines] :=
    Pool.isUnused_start size engine [linesJob lines]
  have hjob : (linesJob lines).Keeps (memo executed (IsAnswer searcher mode)) Spent 0 := by
    apply keeps_of_changesOnly (linesJob_changesOnly lines)
    rintro _ rfl ledger inHand hledger
    exact ⟨le_rfl, hledger⟩
  have hclients : Total (Job.Keeps (memo executed (IsAnswer searcher mode)) Spent)
      [linesJob lines] (0 + 0) := .cons hjob .nil
  have hkeeps : (Pool.start size engine [linesJob lines]).Keeps
      (memo executed (IsAnswer searcher mode)) [] := hstart.keeps hclients h.accounts
  have hholds : (Pool.start size engine [linesJob lines]).Holds (fun _ _ _ => True) TaskAssures :=
    hstart.holds fun _ _ _ => trivial
  have hgrown := hreached.invariant (p := fun pool refused =>
    pool.Keeps (memo executed (IsAnswer searcher mode)) refused ∧ engine ≤ pool.memory)
    ⟨hkeeps, le_refl engine⟩ (by
      rintro _ pool next refused event rfl hmoves ⟨hkeeps, hle⟩
      exact ⟨hkeeps.moves hmoves lineTask_keeps, le_trans hle (memory_le_of_keeps hkeeps hmoves)⟩)
  obtain ⟨hkeeps, -, hholds⟩ := holds_of_reached hkeeps hstart.isOrderly hholds
    (fun _ _ _ _ _ _ _ _ => trivial) hreached
  exact ⟨hkeeps, hholds, hgrown.2⟩

/-- When the pool is at rest, no thread has claimed a cell. -/
theorem HasRun.accounts_of_isStuck (h : HasRun searcher mode executed engine)
    (hreached : Pool.Reached (· = lineTask) (.start size engine [linesJob lines]) pool refused)
    (hbatch : pool.IsBatch lines .finish (fun _ => true) 7 1) (hstuck : pool.IsStuck lineTask) :
    Accounts executed (IsAnswer searcher mode) (pool.ledger refused) 0 := by
  obtain ⟨hkeeps, -⟩ := h.agreed_of_reached hreached
  -- only tasks that wait have anything in hand, and these have only been given their lines
  have hholds : Accounts executed (IsAnswer searcher mode) (pool.ledger refused)
      (pool.queue.map fun entry => ask entry.2).sum :=
    hstuck.holds (hbatch.lasts fun _ => Nat.le_refl 1) hkeeps
  apply hholds.of_asks
  intro token htoken
  have hlines : (pool.queue.map fun entry => ask entry.2) = (pool.waiting.map ask) := by
    rw [Pool.waiting, List.map_map]
    rfl
  rw [hlines] at htoken
  obtain ⟨line, -, heq⟩ := mem_sum_ask htoken
  exact ⟨line, heq⟩

/-- **Lines that a crew runs** are run, whatever is laid down for its threads. -/
theorem HasRun.runPooled (h : HasRun searcher mode executed engine) {crew : Crew}
    (hlive : crew.isLive = true) (lines : List String) :
    (engine.runPooled crew lines).1 = true ∧
      HasRun searcher mode (executed ++ lines) (engine.runPooled crew lines).2 := by
  have hready : ∀ (pool : Pool String QueryEngine Bool) (refused : List String),
      Pool.Reached (· = lineTask) (.start crew.size engine [linesJob lines]) pool refused →
      pool.IsBatch lines .finish (fun _ => true) 7 1 → pool.IsStuck lineTask →
      ∀ ticket activity, .running ticket activity ∈ pool.workers →
        activity.waitsIn pool.memory = false := by
    -- a task waits only for a cell that is being filled, and at rest there is none
    intro pool refused hreached hbatch hstuck ticket activity hactivity
    have haccounts := h.accounts_of_isStuck hreached hbatch hstuck
    obtain ⟨-, hholds, -⟩ := h.agreed_of_reached hreached
    obtain ⟨i, hi⟩ := List.mem_iff_getElem?.mp hactivity
    obtain ⟨line, -, hassures⟩ := hholds.task i ticket activity hi
    exact Activity.Assures.waitsIn_eq hassures haccounts.not_isFilling
  have hreads : ∀ memory : QueryEngine,
      (Job.finish true : Job String QueryEngine Bool).Reads memory ((fun _ => true) memory) :=
    fun _ => rfl
  obtain ⟨refused, hreached, hbatch, hstuck, hreturned⟩ := Crew.hasReturned_of_isLive hlive engine
    lineTask_works hreads (fun _ => Nat.le_refl 1) (by decide) hready
  have haccounts := h.accounts_of_isStuck hreached hbatch hstuck
  obtain ⟨-, hholds, hle⟩ := h.agreed_of_reached hreached
  unfold QueryEngine.runPooled
  rw [← Job.bind_finish (Job.runAll lines)]
  dsimp only
  rw [hreturned.result_eq]
  refine ⟨rfl, ?_, ?_⟩
  · refine haccounts.of_subset ?_ ?_
    · rfl
    · rw [Pool.ledger, hreturned.accepted_eq, List.append_nil]
      exact List.Subset.refl _
  · intro line hline hterms
    rcases List.mem_append.mp hline with hline | hline
    · obtain ⟨results, hresults⟩ := h.remembered line hline hterms
      exact ⟨results, remembered_mono hle hresults⟩
    · -- the task of the line has ended
      obtain ⟨ticket, hticket⟩ := List.mem_iff_getElem?.mp hline
      have hended := hreturned.ended_perm.mem_iff.mpr
        (List.mem_range.mpr (List.getElem?_eq_some_iff.mp hticket).1)
      obtain ⟨other, hother, hassures⟩ := remembered_of_ended hholds hended
      rw [hreturned.accepted_eq, hticket] at hother
      cases hother
      exact hassures hterms

/-- A crew that was sent home runs no line. -/
theorem runPooled_of_not_isLive {crew : Crew} (hlive : crew.isLive = false) (lines : List String) :
    (engine.runPooled crew lines).2 = engine := by
  unfold QueryEngine.runPooled
  rw [← Job.bind_finish (Job.runAll lines)]
  exact Crew.memory_of_not_isLive hlive lineTask _ engine (linesJob_changesOnly lines)

end Pooled

end Concordance.QueryEngine
