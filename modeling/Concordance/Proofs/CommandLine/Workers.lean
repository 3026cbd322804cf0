import Concordance.Proofs.Files.Indexing
import Concordance.Proofs.Query.Files

/-!
# Runs with and without workers

A run that does not crawl comes to the same with any number of workers as without them: it indexes the
same, finds the same, fails at the same steps and writes the same. How the threads take their turns shows
in nothing.

## Main results

* `runPooled_eq_runSerial`: what a run with workers has worked out before it writes anything
* `runFlags_threads`: a run with workers and one without leave the same behind
-/

namespace Concordance

/-- How terms match is settled without regard to the number of workers, and so is whether the flags are
refused. -/
theorem Flags.mode_config (flags : Flags) (threads : Option Nat) :
    { flags with threads := threads }.config.map Config.mode = flags.config.map Config.mode := by
  unfold Flags.config
  split_ifs <;> rfl

/-- All that is kept of a query file is whether it was run, and the results. -/
theorem Findings.afterQueries_congr (findings : Findings) (path : String)
    {result result' : Except Failure Unit × QueryEngine} (houtcome : result.1 = result'.1)
    (hresults : result.2.results = result'.2.results) :
    findings.afterQueries path result = findings.afterQueries path result' := by
  rw [Findings.afterQueries, Findings.afterQueries, houtcome, hresults]

/-- Without a seed, the work of a run is the same with workers as without them. Only how terms match has
to be settled alike. -/
theorem runPooled_eq_runSerial {flags : Flags} (hhtml : flags.html = none) {config config' : Config}
    (hmode : config.mode = config'.mode) (tree : FileTree) (web : Web) (turns : Turns) :
    runPooled flags config tree web turns = runSerial flags config' tree := by
  have hindexed : ∀ schedule path,
      tree.indexPathPooled ⟨config.workerCount, true, schedule⟩ .empty path =
        tree.indexPath .empty path := by
    intro schedule path
    exact tree.indexPathPooled_eq .empty rfl path
  have hasked : ∀ (findings : Findings) schedule path,
      findings.afterQueries path ((QueryEngine.new findings.index.search config.mode).runFilePooled
          ⟨config.workerCount, true, schedule⟩ tree path) =
        findings.afterQueries path
          ((QueryEngine.new findings.index.search config'.mode).runFile tree path) := by
    intro findings schedule path
    -- both engines are new: neither has run a line
    have hnew := QueryEngine.hasRun_new findings.index.search config.mode
    have hlive : Crew.isLive ⟨config.workerCount, true, schedule⟩ = true := rfl
    have halike := hnew.runsAlike hnew (fun _ => Iff.rfl) hlive tree path
    rw [← hmode]
    exact findings.afterQueries_congr path halike.outcome_eq halike.results_eq
  rw [runPooled, runSerial, hhtml]
  simp only [hindexed, hasked]

/-- A run without a seed depends on its settings only in how terms match. -/
theorem runFlags_of_html_eq_none (flags : Flags) (hhtml : flags.html = none) (tree : FileTree)
    (web : Web) (turns : Turns) :
    runFlags flags tree web turns =
      match flags.config.map Config.mode with
      | .error failure => ⟨tree, some (stepError "invalid arguments" failure), []⟩
      | .ok mode =>
        let (tree, errors) := writeOutputs flags (runSerial flags { mode := mode } tree) tree
        ⟨tree, failedSteps errors, errors⟩ := by
  rw [runFlags]
  cases flags.config with
  | error failure => rfl
  | ok config =>
    -- with or without workers, no other setting is looked at
    have hfindings : (if config.isMultithreaded then runPooled flags config tree web turns
        else runSerial flags config tree) = runSerial flags { mode := config.mode } tree := by
      split
      · exact runPooled_eq_runSerial hhtml rfl tree web turns
      · rfl
    dsimp only [Except.map]
    rw [hfindings]

/-- **Workers make no difference**: without a seed, a run with workers leaves the files behind that a run
without them leaves behind, with the same steps failed in the same order. -/
theorem runFlags_threads (flags : Flags) (hhtml : flags.html = none) (tree : FileTree)
    (web web' : Web) (turns turns' : Turns) (n : Nat) :
    runFlags { flags with threads := some n } tree web turns =
      runFlags { flags with threads := none } tree web' turns' := by
  rw [runFlags_of_html_eq_none { flags with threads := some n } hhtml,
    runFlags_of_html_eq_none { flags with threads := none } hhtml, flags.mode_config (some n),
    flags.mode_config none]
  -- the work and the writing do not look at the number of workers
  rfl

/-- A text that is not there, queries that two workers run, and counts that cannot be written. -/
theorem runFlags_threads_failing :
    let flags : Flags := { text := some "gone", query := some "asks", counts := some "lock" }
    let tree : FileTree :=
      ⟨.ofList [(["asks"], Node.file "cat dog\nDogs cat".toUTF8), (["lock"], Node.unreadable)]⟩
    let turns : Turns := { querying := [.worker 1 none, .client 0 none] }
    let pooled := runFlags { flags with threads := some 2 } tree unreachableWeb turns
    flags.html = none ∧ pooled = runFlags { flags with threads := none } tree unreachableWeb {} ∧
      pooled.stepErrors = ["indexing gone: No such file or directory (os error 2)",
        "writing lock: Input/output error (os error 5)"] := by
  intro flags tree turns pooled
  have hhtml : flags.html = none := rfl
  have hsame : pooled = runFlags { flags with threads := none } tree unreachableWeb {} :=
    runFlags_threads flags hhtml tree unreachableWeb unreachableWeb turns {} 2
  refine ⟨hhtml, hsame, ?_⟩
  have hplain : ∀ name ∈ ["gone", "asks", "lock"], FileTree.IsPlainName name := by decide +kernel
  have hgone : tree.find "gone" = .error .notFound :=
    (hplain "gone" (by simp)).find_of_missing rfl
  have hread : tree.read "asks" = .ok "cat dog\nDogs cat".toUTF8 :=
    (hplain "asks" (by simp)).read_of_node? rfl
  have hlocked : tree.locate "lock" = .ok (.found ["lock"]) :=
    (hplain "lock" (by simp)).locate_of_node? rfl (by simp)
  have hindexed : tree.indexPath .empty "gone" = (.error (.file .notFound), .empty) := by
    rw [FileTree.indexPath, FileTree.discover, hgone]
  have hqueries : ∀ engine : QueryEngine, (engine.runFile tree "asks").1 = .ok () := by
    intro engine
    rw [QueryEngine.runFile, readQueries, FileTree.readText_of_toUTF8 hread]
  have hwrite : ∀ text, tree.write "lock" text = .error .inputOutput := by
    intro text
    rw [FileTree.write, hlocked]
    rfl
  have hmode : { flags with threads := none }.config.map Config.mode = .ok .exact := rfl
  rw [hsame, runFlags_of_html_eq_none { flags with threads := none } hhtml, hmode]
  simp only [runSerial, flags, hindexed, Findings.afterIndexing, Findings.afterQueries, hqueries,
    writeOutputs, writeOutput, hwrite]
  decide

end Concordance
