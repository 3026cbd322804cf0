import Concordance.CommandLine.Run
import Concordance.Proofs.Files.Reading
import Concordance.Proofs.Pool.Ownership

/-!
# Calls with a pool

Indexing under a path and running a query file can be given a pool that others use as well. Such a call
submits a task for each file or line, waits until the pool is idle, and returns. If it is done with its
tasks, then nothing happens on its behalf any more once it has returned. There is one way in which it is
not: somebody shuts the pool down while the call submits. Then it returns at once, and leaves the tasks
behind that were accepted before.

## Main results

* `calls_clean_up`: a call that has returned is done with its tasks, unless a shutdown came in between
* `exists_abandoned`: tasks that are left behind by calls which a shutdown has broken off
-/

namespace Concordance

theorem FileTree.indexJob_cleansUp (files : List String) :
    (indexJob files).CleansUp (· = .error .poolShutdown) files := by
  apply Job.cleansUp_runAll
  · exact ⟨rfl, fun _ => by rintro ⟨⟩⟩
  · exact rfl

theorem QueryEngine.runAll_cleansUp (lines : List String) :
    (Job.runAll lines : Job String QueryEngine Bool).CleansUp (· = false) lines := by
  have hcleans : ((Job.runAll lines : Job String QueryEngine Bool).bind .finish).CleansUp (· = false)
      lines := by
    apply Job.cleansUp_runAll
    · rintro ⟨⟩
    · exact rfl
  rwa [Job.bind_finish] at hcleans

/-- **A call that has returned is done with its tasks**, unless somebody shut the pool down while it
submitted them. The pool may have any number of workers and any other clients, and the tasks in it may do
anything. A call that fails before it submits anything changes nothing. -/
theorem calls_clean_up (tree : FileTree) :
    (∀ root found, tree.discover root = .ok found →
      (FileTree.indexJob found.files).CleansUp (· = .error .poolShutdown) found.files) ∧
    (∀ root cause, tree.discover root = .error cause → ∀ crew index,
      tree.indexPathPooled crew index root = (.error (.file cause), index)) ∧
    (∀ path lines, readQueries tree path = .ok lines →
      (Job.runAll lines : Job String QueryEngine Bool).CleansUp (· = false) lines) ∧
    ∀ path failure, readQueries tree path = .error failure → ∀ crew (engine : QueryEngine),
      engine.runFilePooled crew tree path = (.error failure, engine) := by
  refine ⟨fun _ found _ => FileTree.indexJob_cleansUp found.files, ?_,
    fun _ lines _ => QueryEngine.runAll_cleansUp lines, ?_⟩
  · intro root cause hroot crew index
    rw [FileTree.indexPathPooled, hroot]
  · intro path failure hpath crew engine
    rw [QueryEngine.runFilePooled, hpath]

section Abandoned

/-- A searcher that finds one result for each query. -/
def countTerms : Searcher :=
  fun terms _ => [⟨terms.size, ⟨0⟩, "x"⟩]

/-- A pool with one worker, a client that runs the lines of a query file, and one that shuts the pool
down. -/
def queryingPool : Pool String QueryEngine Bool :=
  .start 1 (.new countTerms .exact) [Job.runAll ["cat", "dogs"], .shutdown (.finish true)]

/-- A query file with two lines. -/
def queryFile : FileTree :=
  ⟨.ofList [(["asks"], Node.file "cat\ndogs".toUTF8)]⟩

theorem readQueries_queryFile : readQueries queryFile "asks" = .ok ["cat", "dogs"] := by
  have hread : queryFile.read "asks" = .ok "cat\ndogs".toUTF8 :=
    FileTree.IsPlainName.read_of_node? (by decide +kernel) rfl
  rw [readQueries, FileTree.readText_of_toUTF8 hread]
  exact congrArg Except.ok (by decide +kernel)

/-- The pool is shut down when both lines were accepted. The call waits for them all the same. -/
theorem calls_clean_up_closing :
    ∃ events pool, readQueries queryFile "asks" = .ok ["cat", "dogs"] ∧
      queryingPool.run QueryEngine.lineTask events = some pool ∧ pool.result? 0 = some true ∧
      pool.isShutdown = true ∧ pool.Gave [0, 1] ["cat", "dogs"] ∧ pool.IsDoneWith 0 [0, 1] := by
  let events : List Event := List.replicate 4 (.client 0 none) ++ [.client 1 none, .client 0 none] ++
    List.replicate 16 (.worker 0 none) ++ [.client 0 none, .client 0 none]
  obtain ⟨pool, hpool⟩ : ∃ pool, queryingPool.run QueryEngine.lineTask events = some pool :=
    Option.isSome_iff_exists.mp (by decide +kernel)
  have hfacts : (queryingPool.run QueryEngine.lineTask events).all fun pool =>
      pool.result? 0 = some true ∧ pool.isShutdown = true := by decide +kernel
  rw [hpool, Option.all_some, decide_eq_true_eq] at hfacts
  have htickets : queryingPool.ticketsOf QueryEngine.lineTask 0 events = [0, 1] := by decide +kernel
  have hleaves := (calls_clean_up queryFile).2.2.1 "asks" _ readQueries_queryFile QueryEngine.lineTask
    queryingPool _ _ 0 events pool true (Pool.isUnused_start 1 _ _) rfl hpool hfacts.1
  rw [htickets] at hleaves
  exact ⟨events, pool, readQueries_queryFile, hpool, hfacts.1, hfacts.2, hleaves.gave (by simp),
    hleaves.isDoneWith (.inl (by simp)) [] pool rfl⟩

/-- The pool is shut down between the two tasks of a call. Both calls return at once with an error and
leave the first task waiting. The one with the query file goes on to have its line run. -/
theorem exists_abandoned :
    (∃ (tree : FileTree) (found : Discovered) (events : List Event)
      (start pool : Pool String BuildState (Except Failure BuildReport)),
      tree.discover "box" = .ok found ∧
      start = .start 1 ⟨.empty, found.failed⟩
        [FileTree.indexJob found.files, .shutdown (.finish (.ok ⟨0, 0⟩))] ∧
      start.run tree.indexTask events = some pool ∧
      pool.result? 0 = some (.error .poolShutdown) ∧
      start.ticketsOf tree.indexTask 0 events = [0] ∧ pool.queue = [(0, "box/a.txt")]) ∧
    ∃ events more pool later, readQueries queryFile "asks" = .ok ["cat", "dogs"] ∧
      queryingPool.run QueryEngine.lineTask events = some pool ∧ pool.result? 0 = some false ∧
      queryingPool.ticketsOf QueryEngine.lineTask 0 events = [0] ∧ pool.queue = [(0, "cat")] ∧
      pool.run QueryEngine.lineTask more = some later ∧ pool.memory.results["cat"]? = none ∧
      later.memory.results["cat"]? = some [⟨1, ⟨0⟩, "x"⟩] := by
  let events : List Event :=
    [.client 0 none, .client 0 none, .client 1 none, .client 0 none, .client 0 none]
  constructor
  · -- the worker has not even looked at the queue
    let tree : FileTree := ⟨.ofList [(["box"], Node.folder), (["box", "a.txt"], Node.file "cats".toUTF8),
      (["box", "b.txt"], Node.file "dogs".toUTF8)]⟩
    have hbox : tree.node? ["box"] = some .folder := rfl
    have hfind : tree.find "box" = .ok ["box"] :=
      FileTree.IsPlainName.find_of_node? (by decide +kernel) hbox (by simp)
    have hfound : tree.discover "box" = .ok ⟨["box/a.txt", "box/b.txt"], 0⟩ := by
      have hfolder : tree.isFolder ["box"] = true := rfl
      rw [FileTree.discover, hfind]
      dsimp only
      rw [if_pos hfolder, FileTree.walk]
      rfl
    exact ⟨tree, _, events, _, _, hfound, rfl, rfl, rfl, rfl, rfl⟩
  · -- the worker takes the line that was left behind when the call has returned
    let more : List Event := List.replicate 8 (.worker 0 none)
    obtain ⟨pool, hpool⟩ : ∃ pool, queryingPool.run QueryEngine.lineTask events = some pool :=
      Option.isSome_iff_exists.mp (by decide +kernel)
    have hfacts : (queryingPool.run QueryEngine.lineTask events).all fun pool =>
        pool.result? 0 = some false ∧ pool.queue = [(0, "cat")] ∧
          pool.memory.results["cat"]? = none ∧
          (pool.run QueryEngine.lineTask more).any fun later =>
            later.memory.results["cat"]? = some [⟨1, ⟨0⟩, "x"⟩] := by decide +kernel
    rw [hpool, Option.all_some, decide_eq_true_eq] at hfacts
    obtain ⟨hresult, hqueue, hbefore, hafter⟩ := hfacts
    obtain ⟨later, hlater, hresults⟩ := (Option.any_eq_true _ _).mp hafter
    exact ⟨events, more, pool, later, readQueries_queryFile, hpool, hresult, by decide +kernel, hqueue,
      hlater, hbefore, of_decide_eq_true hresults⟩

end Abandoned

end Concordance
