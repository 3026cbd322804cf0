import Concordance.Proofs.Files.Reading
import Concordance.Proofs.Query.Transparency

/-!
# Query files

What an engine remembers depends on which lines were run, not on how they were run, in which order or
how often. So a query file that is run as tasks of a crew leaves the same results behind, after the
same number of searches, as one that is run line by line.

## Main results

* `HasRun.getElem?_results`: what an engine has under a key
* `HasRun.results_eq`, `HasRun.searchCount_congr`: engines that have run the same lines
* `runsAlike_of_isLive`: a query file is run with a crew as it is without one
-/

namespace Concordance

namespace QueryEngine

variable {searcher : Searcher} {mode : SearchMode} {executed executed' : List String}
  {engine engine' : QueryEngine}

theorem getElem?_results (engine : QueryEngine) (key : String) :
    engine.results[key]? = engine.remembered key := by
  rw [results, Std.ExtTreeMap.getElem?_filterMap, remembered]
  cases engine.cells[key]? <;> rfl

namespace HasRun

/-- What an engine has under a key is what the searcher finds for the lines with this key that were
run. -/
theorem getElem?_results (h : HasRun searcher mode executed engine) {key : String}
    {results : List SearchResult} :
    engine.results[key]? = some results ↔ ∃ line ∈ executed, (CanonicalQuery.ofLine line).key = key ∧
      key ≠ "" ∧ results = searcher (CanonicalQuery.ofLine line).terms mode := by
  have hterms : ∀ line, (CanonicalQuery.ofLine line).isEmpty = false ↔
      (CanonicalQuery.ofLine line).key ≠ "" := by
    intro line
    rw [ne_eq, CanonicalQuery.key_eq_empty_iff, Bool.not_eq_true]
  rw [QueryEngine.getElem?_results]
  constructor
  · -- what is remembered was filled in for a line that was run
    intro hremembered
    rw [remembered_eq_some_iff] at hremembered
    obtain ⟨line, hline, hne, rfl, hcell⟩ := h.exists_of_getElem? hremembered
    cases hcell
    exact ⟨line, hline, rfl, (hterms line).mp hne, rfl⟩
  · rintro ⟨line, hline, rfl, hne, rfl⟩
    exact h.remembered_iff.mpr ⟨line, hline, (hterms line).mpr hne, rfl⟩

section Congr

variable (h : HasRun searcher mode executed engine) (h' : HasRun searcher mode executed' engine')
  (hsame : ∀ line, line ∈ executed ↔ line ∈ executed')

include h h' hsame

/-- Engines that have run the same lines have the same results. -/
theorem results_eq : engine.results = engine'.results := by
  apply Std.ExtTreeMap.ext_getElem?
  intro key
  apply Option.ext
  intro results
  simp only [h.getElem?_results, h'.getElem?_results, hsame]

/-- Engines that have run the same lines have searched as often. -/
theorem searchCount_congr : engine.searchCount = engine'.searchCount := by
  have hkeys : engine.keys = engine'.keys := by
    rw [← h.keys_results, ← h'.keys_results, results_eq h h' hsame]
  rw [h.searchCount_eq, h'.searchCount_eq, queryCount, queryCount, ← Std.ExtTreeMap.length_keys,
    ← Std.ExtTreeMap.length_keys]
  exact congrArg List.length hkeys

end Congr

end HasRun

/-- What a query file comes to, run by two engines that have run the same lines before: by the first one
as tasks of a crew, by the second one line by line. -/
structure RunsAlike (searcher : Searcher) (mode : SearchMode) (tree : FileTree) (path : String)
    (crew : Crew) (engine engine' : QueryEngine) : Prop where
  outcome_eq : (engine.runFilePooled crew tree path).1 = (engine'.runFile tree path).1
  results_eq : (engine.runFilePooled crew tree path).2.results = (engine'.runFile tree path).2.results
  searchCount_eq :
    (engine.runFilePooled crew tree path).2.searchCount = (engine'.runFile tree path).2.searchCount
  /-- A text is run. What is added are the keys of its lines with terms, each with what the searcher
  finds for these terms. -/
  ran : ∀ content text, tree.read path = .ok content → String.fromUTF8? content = some text →
    (engine'.runFile tree path).1 = .ok () ∧
      ∀ key results, (engine'.runFile tree path).2.results[key]? = some results ↔
        engine'.results[key]? = some results ∨
          ∃ line ∈ Query.lines text, (CanonicalQuery.ofLine line).key = key ∧ key ≠ "" ∧
            results = searcher (CanonicalQuery.ofLine line).terms mode
  /-- What cannot be read leaves the engines as they were. -/
  unread : ∀ cause, tree.read path = .error cause →
    engine.runFilePooled crew tree path = (.error (.file cause), engine) ∧
      engine'.runFile tree path = (.error (.file cause), engine')
  /-- So does what is no text. -/
  noText : ∀ content, tree.read path = .ok content → String.fromUTF8? content = none →
    engine.runFilePooled crew tree path = (.error (.file .notText), engine) ∧
      engine'.runFile tree path = (.error (.file .notText), engine')

section File

variable {tree : FileTree} {path : String}

/-- A file that cannot be read as a text leaves both engines as they were. -/
theorem runFile_of_error {cause : FileError} (h : tree.readText path = .error cause) (crew : Crew)
    (engine engine' : QueryEngine) :
    engine.runFilePooled crew tree path = (.error (.file cause), engine) ∧
      engine'.runFile tree path = (.error (.file cause), engine') := by
  have hqueries : readQueries tree path = .error (.file cause) := by
    rw [readQueries, h]
  constructor
  · rw [QueryEngine.runFilePooled, hqueries]
  · rw [QueryEngine.runFile, hqueries]

theorem HasRun.runFilePooled_of_ok (h : HasRun searcher mode executed engine) {crew : Crew}
    (hlive : crew.isLive = true) {text : String} (htext : tree.readText path = .ok text) :
    (engine.runFilePooled crew tree path).1 = .ok () ∧
      HasRun searcher mode (executed ++ Query.lines text) (engine.runFilePooled crew tree path).2 := by
  obtain ⟨haccepted, hrun⟩ := h.runPooled hlive (Query.lines text)
  have hqueries : readQueries tree path = .ok (Query.lines text) := by
    rw [readQueries, htext]
  rw [QueryEngine.runFilePooled, hqueries]
  dsimp only
  rw [haccepted]
  exact ⟨rfl, hrun⟩

theorem HasRun.runFile_of_ok (h : HasRun searcher mode executed engine) {text : String}
    (htext : tree.readText path = .ok text) :
    (engine.runFile tree path).1 = .ok () ∧
      HasRun searcher mode (executed ++ Query.lines text) (engine.runFile tree path).2 := by
  have hqueries : readQueries tree path = .ok (Query.lines text) := by
    rw [readQueries, htext]
  rw [QueryEngine.runFile, hqueries]
  exact ⟨rfl, h.runLines _⟩

/-- Engines that have run the same lines run a file alike. -/
theorem HasRun.runsAlike (h : HasRun searcher mode executed engine)
    (h' : HasRun searcher mode executed' engine') (hsame : ∀ line, line ∈ executed ↔ line ∈ executed')
    {crew : Crew} (hlive : crew.isLive = true) (tree : FileTree) (path : String) :
    RunsAlike searcher mode tree path crew engine engine' := by
  have halike : (engine.runFilePooled crew tree path).1 = (engine'.runFile tree path).1 ∧
      (engine.runFilePooled crew tree path).2.results = (engine'.runFile tree path).2.results ∧
      (engine.runFilePooled crew tree path).2.searchCount =
        (engine'.runFile tree path).2.searchCount := by
    cases htext : tree.readText path with
    | ok text =>
      -- the lines of the file are run by both
      obtain ⟨hpooled, hend⟩ := h.runFilePooled_of_ok hlive htext
      obtain ⟨hserial, hend'⟩ := h'.runFile_of_ok htext
      have hsame' : ∀ line,
          line ∈ executed ++ Query.lines text ↔ line ∈ executed' ++ Query.lines text := by
        intro line
        rw [List.mem_append, List.mem_append, hsame]
      exact ⟨by rw [hpooled, hserial], hend.results_eq hend' hsame', hend.searchCount_congr hend' hsame'⟩
    | error cause =>
      obtain ⟨hpooled, hserial⟩ := runFile_of_error htext crew engine engine'
      rw [hpooled, hserial]
      exact ⟨rfl, h.results_eq h' hsame, h.searchCount_congr h' hsame⟩
  obtain ⟨houtcome, hresults, hcount⟩ := halike
  constructor
  case outcome_eq => exact houtcome
  case results_eq => exact hresults
  case searchCount_eq => exact hcount
  case ran =>
    intro content text hread htext
    obtain ⟨hserial, hend'⟩ := h'.runFile_of_ok (FileTree.readText_of_some hread htext)
    refine ⟨hserial, fun key results => ?_⟩
    rw [hend'.getElem?_results, h'.getElem?_results]
    simp only [List.mem_append, or_and_right, exists_or]
  case unread =>
    intro cause hread
    exact runFile_of_error (FileTree.readText_of_error hread) crew engine engine'
  case noText =>
    intro content hread hnone
    exact runFile_of_error (FileTree.readText_of_none hread hnone) crew engine engine'

end File

/-- **A query file is run with a crew as it is without one**, by engines whose histories have the same
lines. -/
theorem runsAlike_of_isLive (searcher : Searcher) (mode : SearchMode) (requests requests' : List Request)
    (hsame : ∀ line, line ∈ requests.flatMap Request.lines ↔ line ∈ requests'.flatMap Request.lines)
    {crew : Crew} (hlive : crew.isLive = true) (tree : FileTree) (path : String) :
    RunsAlike searcher mode tree path crew (requests.foldl serve (.new searcher mode))
      (requests'.foldl serve (.new searcher mode)) := by
  have hrun : ∀ requests : List Request, HasRun searcher mode ([] ++ requests.flatMap Request.lines)
      (requests.foldl serve (.new searcher mode)) :=
    (hasRun_new searcher mode).foldl_serve
  exact (hrun requests).runsAlike (hrun requests') hsame hlive tree path

/-- A file with two lines that ask for the same and one that asks for nothing, run by engines one of which
was also asked for results before. -/
theorem runsAlike_of_isLive_repeated :
    let searcher : Searcher := fun terms _ => [⟨terms.size, ⟨0⟩, "x"⟩]
    let requests := [Request.run "car"]
    let requests' := [Request.resultsFor "cat", .run "car", .run "car"]
    let tree : FileTree := ⟨.ofList [(["asks"], Node.file "cat dog\nDOGS cats\r\n  123".toUTF8)]⟩
    let crew : Crew := ⟨2, true, [.worker 1 none, .client 0 none]⟩
    let pooled := (requests.foldl serve (.new searcher .exact)).runFilePooled crew tree "asks"
    let serial := (requests'.foldl serve (.new searcher .exact)).runFile tree "asks"
    (∀ line, line ∈ requests.flatMap Request.lines ↔ line ∈ requests'.flatMap Request.lines) ∧
      crew.isLive = true ∧ pooled.2.results = serial.2.results ∧ pooled.2.searchCount = 2 ∧
      pooled.2.results["cat dog"]? = some [⟨2, ⟨0⟩, "x"⟩] := by
  intro searcher requests requests' tree crew pooled serial
  have hsame : ∀ line, line ∈ requests.flatMap Request.lines ↔
      line ∈ requests'.flatMap Request.lines := by
    simp [requests, requests', Request.lines]
  have hlive : crew.isLive = true := rfl
  have halike := runsAlike_of_isLive searcher .exact requests requests' hsame hlive tree "asks"
  have hread : tree.read "asks" = .ok "cat dog\nDOGS cats\r\n  123".toUTF8 :=
    FileTree.IsPlainName.read_of_node? (by decide +kernel) rfl
  have hqueries : readQueries tree "asks" = .ok (Query.lines "cat dog\nDOGS cats\r\n  123") := by
    rw [readQueries, FileTree.readText_of_toUTF8 hread]
  refine ⟨hsame, hlive, halike.results_eq, ?_, ?_⟩
  · rw [halike.searchCount_eq, QueryEngine.runFile, hqueries]
    decide +kernel
  · rw [halike.results_eq, QueryEngine.runFile, hqueries]
    decide +kernel

end QueryEngine

end Concordance
