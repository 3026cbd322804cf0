import Concordance.CommandLine.Run
import Concordance.Proofs.Query.Executing

/-!
# Transparency

Where the searcher finds the same each time, nobody can tell that an engine remembers what it has found.
Whatever it was asked for before, a line gets what the searcher finds for the terms of the line. What the
engine tells about itself depends on nothing but the lines that were run.

## Main definitions

* `QueryEngine.Request`, `Request.lines`: what an engine can be asked for, and the lines that it runs for it
* `QueryEngine.serve`: an engine after a request
* `QueryEngine.IsTransparent`: what can be seen of an engine that has run some lines

## Main results

* `isTransparent_of_requests`: engines are transparent after every history
-/

namespace Concordance

/-- An index finds nothing for no terms. -/
theorem Index.search_empty (index : Index) (mode : SearchMode) : index.search ∅ mode = [] := by
  have hrank : ∀ add : Matches → String → Matches,
      rank (Std.ExtTreeSet.foldl add (∅ : Matches) (∅ : TermSet)).toList index.wordCount = [] := by
    intro add
    have hterms : (∅ : TermSet).toList = [] := by simp
    have hfound : (∅ : Matches).toList = [] := by simp
    rw [Std.ExtTreeSet.foldl_eq_foldl_toList, hterms, List.foldl_nil, hfound, rank,
      List.filterMap_nil, sortResults, List.mergeSort_nil]
  cases mode with
  | exact => exact hrank index.accumulateExact
  | partialMatch => exact hrank index.accumulatePartial

namespace QueryEngine

/-- What an engine can be asked for. -/
inductive Request where
  | run (line : String)
  /-- The lines of a file are run one after the other. -/
  | runFile (tree : FileTree) (path : String)
  /-- The lines of a file are run as tasks of a crew, whose threads take their turns as laid down. -/
  | runFilePooled (crew : Crew) (tree : FileTree) (path : String)
  | resultsFor (line : String)
  | hasQuery (line : String)

/-- The lines of the file that a path leads to. A file that cannot be read, or is no text, has none. -/
def linesAt (tree : FileTree) (path : String) : List String :=
  match tree.read path with
  | .ok content => ((String.fromUTF8? content).map Query.lines).getD []
  | .error _ => []

theorem toOption_readQueries (tree : FileTree) (path : String) :
    (readQueries tree path).toOption.getD [] = linesAt tree path := by
  unfold readQueries FileTree.readText linesAt
  cases tree.read path with
  | error cause => rfl
  | ok content =>
    dsimp only
    cases String.fromUTF8? content <;> rfl

/-- The lines that are run for a request. A crew that was sent home runs none. -/
def Request.lines : Request → List String
  | .run line => [line]
  | .runFile tree path => linesAt tree path
  | .runFilePooled crew tree path => if crew.isLive then linesAt tree path else []
  | .resultsFor _ | .hasQuery _ => []

/-- An engine after a request. -/
def serve (engine : QueryEngine) : Request → QueryEngine
  | .run line => (engine.runLine line).2
  | .runFile tree path => (engine.runFile tree path).2
  | .runFilePooled crew tree path => (engine.runFilePooled crew tree path).2
  | .resultsFor _ | .hasQuery _ => engine

/-- What can be seen of an engine that has run some lines. -/
structure IsTransparent (searcher : Searcher) (mode : SearchMode) (executed : List String)
    (engine : QueryEngine) : Prop where
  /-- A line gets what the searcher finds for its terms. For no terms it is not asked. -/
  answer : ∀ line, (engine.runLine line).1 = if (CanonicalQuery.ofLine line).isEmpty then []
    else searcher (CanonicalQuery.ofLine line).terms mode
  /-- If the searcher finds nothing for no terms, then this goes for all lines. -/
  answer_of_silent : searcher ∅ mode = [] → ∀ line,
    (engine.runLine line).1 = searcher (CanonicalQuery.ofLine line).terms mode
  /-- In an index, a line finds what the index has for its terms. -/
  answer_of_index : ∀ index : Index, searcher = index.search → ∀ line,
    (engine.runLine line).1 = index.search (CanonicalQuery.ofLine line).terms mode
  /-- Lines have the same key only if they have the same terms. -/
  terms_eq : ∀ line other, (CanonicalQuery.ofLine line).key = (CanonicalQuery.ofLine other).key →
    (CanonicalQuery.ofLine line).terms = (CanonicalQuery.ofLine other).terms
  hasQuery_iff : ∀ line, engine.hasQuery line = true ↔ ∃ other ∈ executed,
    (CanonicalQuery.ofLine other).key = (CanonicalQuery.ofLine line).key ∧
      (CanonicalQuery.ofLine line).key ≠ ""
  resultsFor_eq : ∀ line, engine.resultsFor line =
    if engine.hasQuery line then searcher (CanonicalQuery.ofLine line).terms mode else []
  keys_results : engine.results.keys = engine.keys
  queryCount_eq : engine.queryCount = engine.keys.length
  searchCount_eq : engine.searchCount = engine.queryCount

variable {searcher : Searcher} {mode : SearchMode} {executed : List String} {engine : QueryEngine}

namespace HasRun

/-! ## Requests -/

theorem runFile (h : HasRun searcher mode executed engine) (tree : FileTree) (path : String) :
    HasRun searcher mode (executed ++ linesAt tree path) (engine.runFile tree path).2 := by
  rw [← toOption_readQueries]
  unfold QueryEngine.runFile
  cases readQueries tree path with
  | error failure =>
    rw [Except.toOption, Option.getD_none, List.append_nil]
    exact h
  | ok lines => exact h.runLines lines

theorem runFilePooled (h : HasRun searcher mode executed engine) (crew : Crew) (tree : FileTree)
    (path : String) :
    HasRun searcher mode (executed ++ if crew.isLive then linesAt tree path else [])
      (engine.runFilePooled crew tree path).2 := by
  rw [← toOption_readQueries]
  unfold QueryEngine.runFilePooled
  cases readQueries tree path with
  | error failure =>
    rw [Except.toOption, Option.getD_none, ite_self, List.append_nil]
    exact h
  | ok lines =>
    dsimp only
    cases hlive : crew.isLive with
    | true =>
      rw [if_pos rfl]
      exact (h.runPooled hlive lines).2
    | false =>
      rw [if_neg Bool.false_ne_true, List.append_nil, runPooled_of_not_isLive hlive]
      exact h

/-- An engine that was asked for something has run the lines of this request as well. -/
theorem serve (h : HasRun searcher mode executed engine) (request : Request) :
    HasRun searcher mode (executed ++ request.lines) (engine.serve request) := by
  cases request with
  | run line => exact h.runLine line
  | runFile tree path => exact h.runFile tree path
  | runFilePooled crew tree path => exact h.runFilePooled crew tree path
  | resultsFor | hasQuery =>
    rw [Request.lines, List.append_nil]
    exact h

theorem foldl_serve (h : HasRun searcher mode executed engine) (requests : List Request) :
    HasRun searcher mode (executed ++ requests.flatMap Request.lines)
      (requests.foldl QueryEngine.serve engine) := by
  induction requests generalizing executed engine with
  | nil =>
    rw [List.flatMap_nil, List.append_nil]
    exact h
  | cons request rest ih =>
    rw [List.flatMap_cons, ← List.append_assoc]
    exact ih (h.serve request)

/-! ## What can be seen -/

theorem runLine_fst_of_silent (h : HasRun searcher mode executed engine)
    (hsilent : searcher ∅ mode = []) (line : String) :
    (engine.runLine line).1 = searcher (CanonicalQuery.ofLine line).terms mode := by
  rw [h.runLine_fst]
  split
  · next hterms =>
    rw [CanonicalQuery.isEmpty, Std.ExtTreeSet.isEmpty_iff] at hterms
    rw [hterms, hsilent]
  · rfl

theorem hasQuery_iff (h : HasRun searcher mode executed engine) (line : String) :
    engine.hasQuery line = true ↔ ∃ other ∈ executed,
      (CanonicalQuery.ofLine other).key = (CanonicalQuery.ofLine line).key ∧
        (CanonicalQuery.ofLine line).key ≠ "" := by
  rw [hasQuery, Std.ExtTreeMap.contains_eq_isSome_getElem?, Option.isSome_iff_exists]
  constructor
  · rintro ⟨cell, hcell⟩
    obtain ⟨other, hother, hterms, hkey, -⟩ := h.exists_of_getElem? hcell
    refine ⟨other, hother, hkey, fun hempty => ?_⟩
    rw [← hkey, CanonicalQuery.key_eq_empty_iff, hterms] at hempty
    cases hempty
  · rintro ⟨other, hother, hkey, hne⟩
    have hterms : (CanonicalQuery.ofLine other).isEmpty = false := by
      rw [← hkey, ne_eq, CanonicalQuery.key_eq_empty_iff, Bool.not_eq_true] at hne
      exact hne
    have hremembered := h.remembered_iff.mpr ⟨other, hother, hterms, hkey⟩
    exact ⟨_, remembered_eq_some_iff.mp hremembered⟩

theorem resultsFor_eq (h : HasRun searcher mode executed engine) (line : String) :
    engine.resultsFor line =
      if engine.hasQuery line then searcher (CanonicalQuery.ofLine line).terms mode else [] := by
  unfold resultsFor hasQuery
  rw [Std.ExtTreeMap.contains_eq_isSome_getElem?]
  cases hcell : engine.cells[(CanonicalQuery.ofLine line).key]? with
  | none =>
    rw [remembered_of_getElem? hcell]
    rfl
  | some cell =>
    obtain ⟨other, -, -, hkey, rfl⟩ := h.exists_of_getElem? hcell
    rw [remembered_of_getElem? hcell, CanonicalQuery.ofLine_eq_of_key_eq hkey]
    rfl

/-- No key is there without results. -/
theorem keys_results (h : HasRun searcher mode executed engine) :
    engine.results.keys = engine.keys := by
  have hfilled : ∀ entry ∈ engine.cells.toList,
      (Option.map (fun results => (entry.1, results)) entry.2.results?).map Prod.fst =
        some entry.1 := by
    rintro ⟨key, cell⟩ hentry
    obtain ⟨line, -, -, -, rfl⟩ :=
      h.exists_of_getElem? (Std.ExtTreeMap.mem_toList_iff_getElem?_eq_some.mp hentry)
    rfl
  rw [results, keys, ← Std.ExtTreeMap.map_fst_toList_eq_keys, Std.ExtTreeMap.toList_filterMap,
    List.map_filterMap, List.filterMap_congr hfilled, List.filterMap_eq_map',
    Std.ExtTreeMap.map_fst_toList_eq_keys]

/-- Every key was searched for once. -/
theorem searchCount_eq (h : HasRun searcher mode executed engine) :
    engine.searchCount = engine.queryCount := by
  have hmem : ∀ key, key ∈ engine.searched ↔ key ∈ engine.cells.keys := by
    intro key
    have hsearched := h.accounts.searched_eq key
    rw [Multiset.count_zero, zero_add] at hsearched
    rw [Std.ExtTreeMap.mem_keys, Std.ExtTreeMap.mem_iff_isSome_getElem?, ← List.count_pos_iff]
    cases hcell : engine.cells[key]? with
    | none =>
      rw [remembered_of_getElem? hcell] at hsearched
      simp at hsearched
      simp [hsearched]
    | some cell =>
      obtain ⟨line, -, -, -, rfl⟩ := h.exists_of_getElem? hcell
      rw [remembered_of_getElem? hcell] at hsearched
      simp [Cell.results?] at hsearched
      simp [hsearched]
  -- two lists without repetition that have the same keys
  have hperm : engine.searched.Perm engine.cells.keys :=
    (List.perm_ext_iff_of_nodup h.accounts.searched_nodup Std.ExtTreeMap.nodup_keys).mpr hmem
  rw [searchCount, queryCount, hperm.length_eq, Std.ExtTreeMap.length_keys]

end HasRun

/-- **Engines are transparent after every history.** -/
theorem isTransparent_of_requests (searcher : Searcher) (mode : SearchMode)
    (requests : List Request) :
    IsTransparent searcher mode (requests.flatMap Request.lines)
      (requests.foldl serve (.new searcher mode)) := by
  have h : HasRun searcher mode ([] ++ requests.flatMap Request.lines) _ :=
    (hasRun_new searcher mode).foldl_serve requests
  rw [List.nil_append] at h
  constructor
  case answer => exact h.runLine_fst
  case answer_of_silent => exact h.runLine_fst_of_silent
  case answer_of_index =>
    rintro index rfl
    exact h.runLine_fst_of_silent (index.search_empty mode)
  case terms_eq =>
    intro line other hkey
    rw [CanonicalQuery.ofLine_eq_of_key_eq hkey]
  case hasQuery_iff => exact h.hasQuery_iff
  case resultsFor_eq => exact h.resultsFor_eq
  case keys_results => exact h.keys_results
  case queryCount_eq => exact Std.ExtTreeMap.length_keys.symm
  case searchCount_eq => exact h.searchCount_eq

end QueryEngine

end Concordance
