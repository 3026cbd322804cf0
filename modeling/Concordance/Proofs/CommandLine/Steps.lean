import Concordance.Proofs.CommandLine.Workers

/-!
# The steps of a run

A run that does not crawl takes up to five steps, each of which either does all of its work or fails and
leaves everything as it was. So a step that fails might as well not have been asked for: the other steps
find the same, write the same, and fail in the same order.

## Main definitions

* `Step`: what a run can be asked for
* `Progress`: how far a run has come
* `Step.perform`: what a step does by itself
* `Step.failure?`: the text of a step that fails when its turn comes

## Main results

* `runFlags_eq`: a run takes its steps one after the other
* `runFlags_without_failing`: a step that fails does not show in anything but its own text
-/

namespace Concordance

/-- What a run without a seed can be asked for. -/
inductive Step where
  | text
  | query
  | counts
  | index
  | results
deriving DecidableEq, Repr

/-- How far a run has come: the files, and what it has worked out. -/
structure Progress where
  tree : FileTree
  index : Index
  results : QueryResults

/-- A run that has done nothing. -/
def Progress.start (tree : FileTree) : Progress :=
  ⟨tree, .empty, ∅⟩

/-- The progress of a run that writes a value to a file. -/
def Progress.write (progress : Progress) (path : String) (value : Json) : Except Failure Progress :=
  match progress.tree.write path value.pretty with
  | .ok tree => .ok { progress with tree := tree }
  | .error cause => .error (.file cause)

namespace Step

/-- The steps in the order of a run. -/
def all : List Step := [.text, .query, .counts, .index, .results]

/-- The path that a step is asked for with. -/
def path? (flags : Flags) : Step → Option String
  | .text => flags.text
  | .query => flags.query
  | .counts => flags.counts
  | .index => flags.index
  | .results => flags.results

/-- What stands before the path in the text of a failed step. -/
def title : Step → String
  | .text => "indexing "
  | .query => "running queries from "
  | .counts | .index | .results => "writing "

/-- What a step does by itself: it goes through with its work, or fails. -/
def perform (mode : SearchMode) (path : String) (progress : Progress) : Step → Except Failure Progress
  | .text =>
    match progress.tree.indexPath progress.index path with
    | (.ok _, grown) => .ok { progress with index := grown }
    | (.error failure, _) => .error failure
  | .query => (readQueries progress.tree path).map fun lines =>
    { progress with
      results := ((QueryEngine.new progress.index.search mode).runLines lines).results }
  | .counts => progress.write path progress.index.countsJson
  | .index => progress.write path progress.index.entriesJson
  | .results => progress.write path (resultsJson progress.results)

end Step

/-- Flags without the one that asks for a step. -/
def Flags.without (flags : Flags) : Step → Flags
  | .text => { flags with text := none }
  | .query => { flags with query := none }
  | .counts => { flags with counts := none }
  | .index => { flags with index := none }
  | .results => { flags with results := none }

namespace Progress

variable (flags : Flags) (mode : SearchMode)

/-- The progress after the turn of a step. A step that fails is passed over. -/
def next (progress : Progress) (step : Step) : Progress :=
  match (step.path? flags).map fun path => step.perform mode path progress with
  | some (.ok progress) => progress
  | _ => progress

/-- The text of a step that fails in its turn. -/
def failure? (progress : Progress) (step : Step) : Option String :=
  (step.path? flags).bind fun path =>
    match step.perform mode path progress with
    | .ok _ => none
    | .error failure => some (stepError (step.title ++ path) failure)

/-- The progress after some steps. -/
def through (progress : Progress) (steps : List Step) : Progress :=
  steps.foldl (next flags mode) progress

/-- The texts of those of some steps that fail. -/
def failures (progress : Progress) : List Step → List String
  | [] => []
  | step :: rest => (progress.failure? flags mode step).toList ++ (progress.next flags mode step).failures rest

end Progress

/-- The text of a step that fails when its turn comes in a run. -/
def Step.failure? (flags : Flags) (mode : SearchMode) (tree : FileTree) (step : Step) : Option String :=
  ((Progress.start tree).through flags mode (all.takeWhile (· ≠ step))).failure? flags mode step

/-! ## Steps one after the other -/

namespace Progress

variable {flags : Flags} {mode : SearchMode} {progress : Progress} {step : Step}

theorem through_append (steps more : List Step) :
    progress.through flags mode (steps ++ more) =
      (progress.through flags mode steps).through flags mode more :=
  List.foldl_append

theorem failures_append (steps more : List Step) :
    progress.failures flags mode (steps ++ more) =
      progress.failures flags mode steps ++
        (progress.through flags mode steps).failures flags mode more := by
  induction steps generalizing progress with
  | nil => rfl
  | cons step rest ih =>
    rw [List.cons_append, failures, failures, ih, List.append_assoc]
    rfl

/-- The steps that fail are those that fail when their turn comes. -/
theorem failures_eq_filterMap {steps : List Step} (hsteps : steps.Nodup) :
    progress.failures flags mode steps = steps.filterMap fun step =>
      (progress.through flags mode (steps.takeWhile (· ≠ step))).failure? flags mode step := by
  -- induction on the steps: the first one comes before the turn of each other one
  induction steps generalizing progress with
  | nil => rfl
  | cons first rest ih =>
    obtain ⟨hfirst, hrest⟩ := List.nodup_cons.mp hsteps
    have hturn : ∀ step ∈ rest, (first :: rest).takeWhile (· ≠ step) =
        first :: rest.takeWhile (· ≠ step) := by
      intro step hstep
      have hne : first ≠ step := fun heq => hfirst (heq ▸ hstep)
      simp [hne]
    have hself : (first :: rest).takeWhile (· ≠ first) = [] := by simp
    rw [failures, ih hrest, List.filterMap_cons, hself, through, List.foldl_nil]
    have hlater : (rest.filterMap fun step => ((progress.next flags mode first).through flags mode
          (rest.takeWhile (· ≠ step))).failure? flags mode step) =
        rest.filterMap fun step => (progress.through flags mode
          ((first :: rest).takeWhile (· ≠ step))).failure? flags mode step := by
      refine List.filterMap_congr fun step hstep => ?_
      rw [hturn step hstep]
      rfl
    rw [hlater]
    cases progress.failure? flags mode first <;> rfl

/-- A step fails in its turn if it is asked for and cannot do its work. -/
theorem failure?_eq_some_iff {text : String} : progress.failure? flags mode step = some text ↔
    ∃ path failure, step.path? flags = some path ∧ step.perform mode path progress = .error failure ∧
      text = stepError (step.title ++ path) failure := by
  rw [failure?, Option.bind_eq_some_iff]
  constructor
  · rintro ⟨path, hpath, htext⟩
    split at htext
    · cases htext
    · next failure hperform => exact ⟨path, failure, hpath, hperform, (Option.some.inj htext).symm⟩
  · rintro ⟨path, failure, hpath, hperform, rfl⟩
    exact ⟨path, hpath, by rw [hperform]⟩

/-- A step that fails is passed over. -/
theorem next_of_failure? {text : String} (h : progress.failure? flags mode step = some text) :
    progress.next flags mode step = progress := by
  obtain ⟨path, failure, hpath, hperform, -⟩ := failure?_eq_some_iff.mp h
  rw [next, hpath, Option.map_some, hperform]

/-! ## Steps that are not asked for -/

theorem path?_without (flags : Flags) (step other : Step) :
    other.path? (flags.without step) = if other = step then none else other.path? flags := by
  cases other <;> cases step <;> rfl

theorem next_without (other : Step) : progress.next (flags.without step) mode other =
    if other = step then progress else progress.next flags mode other := by
  unfold next
  rw [path?_without]
  by_cases hother : other = step
  · rw [if_pos hother, if_pos hother]
    rfl
  · rw [if_neg hother, if_neg hother]

theorem failure?_without (other : Step) : progress.failure? (flags.without step) mode other =
    if other = step then none else progress.failure? flags mode other := by
  unfold failure?
  rw [path?_without]
  split <;> rfl

theorem through_without (steps : List Step) : progress.through (flags.without step) mode steps =
    progress.through flags mode (steps.filter (· ≠ step)) := by
  induction steps generalizing progress with
  | nil => rfl
  | cons other rest ih =>
    rw [through, List.foldl_cons, next_without]
    by_cases hother : other = step
    · rw [if_pos hother, List.filter_cons_of_neg (by simpa using hother)]
      exact ih
    · rw [if_neg hother, List.filter_cons_of_pos (by simpa using hother)]
      exact ih

/-! ## A run is its steps -/

/-- What a run has found out that has come so far, with the texts of the steps that failed. -/
def findings (progress : Progress) (errors : List String) : Findings :=
  ⟨progress.index, progress.results, errors⟩

theorem findings_text (flags : Flags) (mode : SearchMode) (progress : Progress) (errors : List String) :
    (match flags.text with
      | some path => (progress.findings errors).afterIndexing ("indexing " ++ path)
          (progress.tree.indexPath progress.index path)
      | none => progress.findings errors) =
      (progress.next flags mode .text).findings
        (errors ++ (progress.failure? flags mode .text).toList) := by
  unfold next failure?
  dsimp only [Step.path?]
  cases flags.text with
  | none => exact congrArg (progress.findings ·) (List.append_nil errors).symm
  | some path =>
    dsimp only [Option.map_some, Option.bind_some, Step.perform, FileTree.indexPath]
    cases progress.tree.discover path with
    | error cause => rfl
    | ok found => rfl

theorem findings_query (flags : Flags) (mode : SearchMode) {progress : Progress}
    (hresults : progress.results = ∅) (errors : List String) :
    (match flags.query with
      | some path => (progress.findings errors).afterQueries path
          ((QueryEngine.new progress.index.search mode).runFile progress.tree path)
      | none => progress.findings errors) =
      (progress.next flags mode .query).findings
        (errors ++ (progress.failure? flags mode .query).toList) := by
  unfold next failure?
  dsimp only [Step.path?]
  cases flags.query with
  | none => exact congrArg (progress.findings ·) (List.append_nil errors).symm
  | some path =>
    dsimp only [Option.map_some, Option.bind_some, Step.perform, QueryEngine.runFile]
    cases readQueries progress.tree path with
    | error failure =>
      -- nothing was asked of the engine, so it has no results
      have hnone : (QueryEngine.new progress.index.search mode).results = ∅ :=
        Std.ExtTreeMap.ext_getElem? fun key => by
          rw [QueryEngine.getElem?_results, QueryEngine.remembered, QueryEngine.new]
          simp only [Std.ExtTreeMap.getElem?_empty, Option.bind_none]
      simp only [Findings.afterQueries, hnone, ← hresults]
      rfl
    | ok lines => rfl

/-- A step that writes a value. -/
theorem writeOutput_eq (flags : Flags) (mode : SearchMode) (progress : Progress) (step : Step)
    {value : Json} (htitle : step.title = "writing ")
    (hperform : ∀ path, step.perform mode path progress = progress.write path value)
    (errors : List String) :
    writeOutput (progress.tree, errors) (step.path? flags) value =
      ((progress.next flags mode step).tree,
        errors ++ (progress.failure? flags mode step).toList) := by
  unfold next failure? writeOutput
  cases step.path? flags with
  | none => exact congrArg (progress.tree, ·) (List.append_nil errors).symm
  | some path =>
    dsimp only [Option.map_some, Option.bind_some]
    rw [hperform, write, htitle]
    cases progress.tree.write path value.pretty with
    | error cause => rfl
    | ok tree => exact congrArg (tree, ·) (List.append_nil errors).symm

/-- What holds before a step, and after its work, holds after its turn. -/
theorem next_of_perform {P : Progress → Prop} (h : P progress)
    (hperform : ∀ path later, step.perform mode path progress = .ok later → P later) :
    P (progress.next flags mode step) := by
  unfold next
  split
  · next later hlater =>
    obtain ⟨path, -, hpath⟩ := Option.map_eq_some_iff.mp hlater
    exact hperform path later hpath
  · exact h

/-- Writing leaves the index and the results as they are. -/
theorem next_of_write {value : Json}
    (hperform : ∀ path, step.perform mode path progress = progress.write path value) :
    (progress.next flags mode step).index = progress.index ∧
      (progress.next flags mode step).results = progress.results := by
  refine next_of_perform (P := fun later => later.index = progress.index ∧
    later.results = progress.results) ⟨rfl, rfl⟩ fun path later h => ?_
  rw [hperform, write] at h
  split at h <;> cases h
  exact ⟨rfl, rfl⟩

/-- Indexing leaves the files and the results as they are. -/
theorem next_text (flags : Flags) (mode : SearchMode) (progress : Progress) :
    (progress.next flags mode .text).tree = progress.tree ∧
    (progress.next flags mode .text).results = progress.results := by
  refine next_of_perform (P := fun later => later.tree = progress.tree ∧
    later.results = progress.results) ⟨rfl, rfl⟩ fun path later h => ?_
  dsimp only [Step.perform] at h
  split at h <;> cases h
  exact ⟨rfl, rfl⟩

/-- Queries leave the files as they are. -/
theorem next_query (flags : Flags) (mode : SearchMode) (progress : Progress) :
    (progress.next flags mode .query).tree = progress.tree := by
  refine next_of_perform (P := fun later => later.tree = progress.tree) rfl fun path later h => ?_
  dsimp only [Step.perform] at h
  cases hlines : readQueries progress.tree path with
  | error => rw [hlines] at h; cases h
  | ok lines => rw [hlines] at h; cases h; rfl

/-- What a run works out before it writes. -/
theorem runSerial_eq (flags : Flags) (mode : SearchMode) (tree : FileTree) :
    runSerial flags { mode := mode } tree =
      ((start tree).through flags mode [.text, .query]).findings
        ((start tree).failures flags mode [.text, .query]) := by
  obtain ⟨htree, hresults⟩ := next_text flags mode (start tree)
  have htext := findings_text flags mode (start tree) []
  have hquery := findings_query flags mode hresults ((start tree).failure? flags mode .text).toList
  rw [htree] at hquery
  rw [failures, failures, failures, List.append_nil]
  have hasked := congrArg (fun findings : Findings =>
    match flags.query with
    | some path => findings.afterQueries path
        ((QueryEngine.new findings.index.search mode).runFile tree path)
    | none => findings) htext
  exact hasked.trans hquery

/-- What a run that has worked everything out writes. -/
theorem writeOutputs_eq (flags : Flags) (mode : SearchMode) (progress : Progress)
    (errors : List String) :
    writeOutputs flags (progress.findings errors) progress.tree =
      ((progress.through flags mode [.counts, .index, .results]).tree,
        errors ++ progress.failures flags mode [.counts, .index, .results]) := by
  let counted := progress.next flags mode .counts
  let indexed := counted.next flags mode .index
  let failed := errors ++ (progress.failure? flags mode .counts).toList
  -- all values are made before anything is written, so no step sees the writing of another
  obtain ⟨hcountedIndex, hcountedResults⟩ : counted.index = progress.index ∧
      counted.results = progress.results := next_of_write fun _ => rfl
  obtain ⟨-, hindexedResults⟩ : indexed.index = counted.index ∧
      indexed.results = counted.results := next_of_write fun _ => rfl
  have hcounts : writeOutput (progress.tree, errors) flags.counts progress.index.countsJson =
      (counted.tree, failed) := writeOutput_eq flags mode progress .counts rfl (fun _ => rfl) errors
  have hindex : writeOutput (counted.tree, failed) flags.index progress.index.entriesJson =
      (indexed.tree, failed ++ (counted.failure? flags mode .index).toList) := by
    rw [← hcountedIndex]
    exact writeOutput_eq flags mode counted .index rfl (fun _ => rfl) failed
  have hresults (errors : List String) :
      writeOutput (indexed.tree, errors) flags.results (resultsJson progress.results) =
        ((indexed.next flags mode .results).tree,
          errors ++ (indexed.failure? flags mode .results).toList) := by
    rw [← hcountedResults, ← hindexedResults]
    exact writeOutput_eq flags mode indexed .results rfl (fun _ => rfl) errors
  dsimp only [writeOutputs, findings]
  rw [hcounts, hindex, hresults]
  simp only [failures, failed, List.append_assoc, List.append_nil]
  rfl

end Progress

/-- **A run takes its steps one after the other.** -/
theorem runFlags_eq (flags : Flags) (hhtml : flags.html = none) {config : Config}
    (hconfig : flags.config = .ok config) (tree : FileTree) (web : Web) (turns : Turns) :
    let errors := (Progress.start tree).failures flags config.mode Step.all
    runFlags flags tree web turns =
      ⟨((Progress.start tree).through flags config.mode Step.all).tree, failedSteps errors, errors⟩ := by
  intro errors
  let found := (Progress.start tree).through flags config.mode [.text, .query]
  have hfound : found.tree = tree := (Progress.next_query ..).trans (Progress.next_text ..).1
  have hthrough : (Progress.start tree).through flags config.mode Step.all =
      found.through flags config.mode [.counts, .index, .results] :=
    Progress.through_append [.text, .query] [.counts, .index, .results]
  have herrors : errors = (Progress.start tree).failures flags config.mode [.text, .query] ++
      found.failures flags config.mode [.counts, .index, .results] :=
    Progress.failures_append [.text, .query] [.counts, .index, .results]
  have hwritten := Progress.writeOutputs_eq flags config.mode found
    ((Progress.start tree).failures flags config.mode [.text, .query])
  rw [hfound] at hwritten
  rw [runFlags_of_html_eq_none flags hhtml, hconfig]
  dsimp only [Except.map]
  rw [Progress.runSerial_eq, hwritten, ← herrors, ← hthrough]

/-! ## Leaving out a step that fails -/

theorem Flags.html_without (flags : Flags) (step : Step) : (flags.without step).html = flags.html := by
  cases step <;> rfl

theorem Flags.config_without (flags : Flags) (step : Step) :
    (flags.without step).config = flags.config := by
  cases step <;> rfl

/-- Leaving out a step that fails in its turn makes no difference to the progress. -/
theorem Progress.through_filter {flags : Flags} {mode : SearchMode} {progress : Progress} {step : Step}
    {text : String} {steps : List Step} (hsteps : steps.Nodup)
    (h : step ∈ steps → (progress.through flags mode (steps.takeWhile (· ≠ step))).failure?
      flags mode step = some text) :
    progress.through flags mode (steps.filter (· ≠ step)) = progress.through flags mode steps := by
  -- induction on the steps, for any progress that those before have made
  induction steps generalizing progress with
  | nil => rfl
  | cons first rest ih =>
    obtain ⟨hfirst, hrest⟩ := List.nodup_cons.mp hsteps
    by_cases hstep : first = step
    · subst hstep
      have hfails : progress.failure? flags mode first = some text := by
        simpa [through] using h List.mem_cons_self
      have hnone : rest.filter (· ≠ first) = rest :=
        List.filter_eq_self.mpr fun other hother => by
          simpa using fun heq : other = first => hfirst (heq ▸ hother)
      rw [List.filter_cons_of_neg (by simp), hnone, through, through, List.foldl_cons,
        next_of_failure? hfails]
    · have hlater : (progress.next flags mode first).through flags mode (rest.filter (· ≠ step)) =
          (progress.next flags mode first).through flags mode rest :=
        ih hrest fun hmem => by
          simpa [through, hstep] using h (List.mem_cons_of_mem first hmem)
      rw [List.filter_cons_of_pos (by simpa using hstep)]
      exact hlater

namespace Step

variable {flags : Flags} {mode : SearchMode} {tree : FileTree} {step : Step} {text : String}

theorem mem_all (step : Step) : step ∈ all := by
  cases step <;> decide

theorem nodup_all : all.Nodup := by decide

/-- The steps before a step are the same in the list of those before a later step. -/
theorem takeWhile_takeWhile_all {step other : Step} (h : step ∈ all.takeWhile (· ≠ other)) :
    (all.takeWhile (· ≠ other)).takeWhile (· ≠ step) = all.takeWhile (· ≠ step) := by
  revert h
  cases step <;> cases other <;> decide

/-- **Leaving out a step that fails** makes no difference to whether another step fails. -/
theorem failure?_without (h : step.failure? flags mode tree = some text) {other : Step}
    (hother : other ≠ step) :
    other.failure? (flags.without step) mode tree = other.failure? flags mode tree := by
  have hprogress : (Progress.start tree).through flags mode
      ((all.takeWhile (· ≠ other)).filter (· ≠ step)) =
        (Progress.start tree).through flags mode (all.takeWhile (· ≠ other)) :=
    Progress.through_filter (nodup_all.sublist (List.takeWhile_sublist _)) fun hmem => by
      rw [takeWhile_takeWhile_all hmem]
      exact h
  rw [failure?, Progress.failure?_without, if_neg hother, Progress.through_without, hprogress]
  rfl

/-- A step that is left out does not fail. -/
theorem failure?_without_self (flags : Flags) (mode : SearchMode) (tree : FileTree) (step : Step) :
    step.failure? (flags.without step) mode tree = none := by
  rw [failure?, Progress.failure?_without, if_pos rfl]

end Step

/-- The texts of the steps that fail in a run. -/
theorem failures_all (flags : Flags) (mode : SearchMode) (tree : FileTree) :
    (Progress.start tree).failures flags mode Step.all =
      Step.all.filterMap (Step.failure? flags mode tree) :=
  Progress.failures_eq_filterMap Step.nodup_all

/-- **Without a step that fails, a run makes the same progress.** -/
theorem Step.through_without_failing {flags : Flags} {mode : SearchMode} {tree : FileTree}
    {step : Step} {text : String} (h : step.failure? flags mode tree = some text) :
    (Progress.start tree).through (flags.without step) mode Step.all =
      (Progress.start tree).through flags mode Step.all := by
  rw [Progress.through_without]
  exact Progress.through_filter Step.nodup_all fun _ => h

/-- **Without a step that fails, the others fail as they did.** -/
theorem Step.failures_without_failing {flags : Flags} {mode : SearchMode} {tree : FileTree}
    {step : Step} {text : String} (h : step.failure? flags mode tree = some text) :
    (Progress.start tree).failures (flags.without step) mode Step.all =
      (Step.all.filter (· ≠ step)).filterMap (Step.failure? flags mode tree) := by
  rw [failures_all, List.filterMap_filter]
  refine List.filterMap_congr fun other _ => ?_
  by_cases heq : other = step
  · rw [heq, Step.failure?_without_self]
    simp
  · rw [Step.failure?_without h heq]
    simp [heq]

theorem isSome_failedSteps_iff {errors : List String} :
    (failedSteps errors).isSome ↔ errors ≠ [] := by
  unfold failedSteps
  split_ifs with h <;> simp [h]

/-- **A step that fails does not disturb the others.** A run fails if and only if some step does, and
counts those that do. Without the flag of one of them it leaves the same files behind, and the others fail
as they did. -/
theorem runFlags_without_failing (flags : Flags) (hhtml : flags.html = none) {config : Config}
    (hconfig : flags.config = .ok config) (tree : FileTree) (web : Web) (turns : Turns) :
    let outcome := runFlags flags tree web turns
    let failure? := Step.failure? flags config.mode tree
    outcome.stepErrors = Step.all.filterMap failure? ∧
      (outcome.error.isSome ↔ ∃ step, (failure? step).isSome) ∧
      (∀ text, outcome.error = some text → text =
        toString (Step.all.countP fun step => (failure? step).isSome) ++ " step(s) failed") ∧
      ∀ step, (failure? step).isSome → ∀ (web' : Web) (turns' : Turns),
        let without := runFlags (flags.without step) tree web' turns'
        without.tree = outcome.tree ∧
          without.stepErrors = (Step.all.filter (· ≠ step)).filterMap failure? := by
  intro outcome failure?
  have hrun := runFlags_eq flags hhtml hconfig tree web turns
  have herrors : outcome.stepErrors = Step.all.filterMap failure? :=
    (congrArg Outcome.stepErrors hrun).trans (failures_all flags config.mode tree)
  have herror : outcome.error = failedSteps outcome.stepErrors := by
    dsimp only [outcome]
    rw [hrun]
  refine ⟨herrors, ?_, ?_, ?_⟩
  · rw [herror, isSome_failedSteps_iff, herrors, ne_eq, List.filterMap_eq_nil_iff]
    simp only [not_forall, exists_prop]
    refine exists_congr fun step => ?_
    rw [Option.isSome_iff_ne_none]
    exact and_iff_right step.mem_all
  · intro text htext
    rw [herror, failedSteps] at htext
    split_ifs at htext with hnone
    rw [← Option.some.inj htext, herrors, List.length_filterMap_eq_countP]
  · intro step hfails web' turns'
    obtain ⟨text, htext⟩ := Option.isSome_iff_exists.mp hfails
    have hother := runFlags_eq (flags.without step) ((flags.html_without step).trans hhtml)
      ((flags.config_without step).trans hconfig) tree web' turns'
    dsimp only [outcome]
    rw [hother, hrun, Step.through_without_failing htext, Step.failures_without_failing htext]
    exact ⟨rfl, rfl⟩

/-- A text that is not there, queries that are no text, and counts that cannot be written, while the
results can. Without the counts, the rest is the same. -/
theorem runFlags_without_failing_counts :
    let flags : Flags :=
      { text := some "gone", query := some "noise", counts := some "lock", results := some "found" }
    let tree : FileTree :=
      ⟨.ofList [(["noise"], Node.file ⟨#[255]⟩), (["lock"], Node.unreadable)]⟩
    let outcome := runFlags flags tree unreachableWeb {}
    let without := runFlags (flags.without .counts) tree unreachableWeb {}
    flags.html = none ∧ (flags.config.map Config.mode).isOk ∧
      outcome.error = some "3 step(s) failed" ∧
      outcome.stepErrors = ["indexing gone: No such file or directory (os error 2)",
        "running queries from noise: stream did not contain valid UTF-8",
        "writing lock: Input/output error (os error 5)"] ∧
      without.tree = outcome.tree ∧
      without.stepErrors = ["indexing gone: No such file or directory (os error 2)",
        "running queries from noise: stream did not contain valid UTF-8"] := by
  intro flags tree outcome without
  have hhtml : flags.html = none := rfl
  have hconfig : flags.config = .ok {} := rfl
  obtain ⟨herrors, hfails, hcount, happart⟩ :=
    runFlags_without_failing flags hhtml hconfig tree unreachableWeb {}
  have hplain : ∀ name ∈ ["gone", "noise", "lock", "found"], FileTree.IsPlainName name := by
    decide +kernel
  have hgone : tree.find "gone" = .error .notFound :=
    (hplain "gone" (by simp)).find_of_missing rfl
  have hnoise : tree.readText "noise" = .error .notText :=
    FileTree.readText_of_none ((hplain "noise" (by simp)).read_of_node? rfl) rfl
  have hlocked : tree.locate "lock" = .ok (.found ["lock"]) :=
    (hplain "lock" (by simp)).locate_of_node? rfl (by simp)
  have hfound : tree.locate "found" = .ok (.missing ["found"]) :=
    (hplain "found" (by simp)).locate_of_missing rfl
  -- the steps that work something out fail one after the other
  have hdiscover : tree.discover "gone" = .error .notFound := by
    rw [FileTree.discover, hgone]
  have htext : (Progress.start tree).failure? flags .exact .text =
      some "indexing gone: No such file or directory (os error 2)" :=
    Progress.failure?_eq_some_iff.mpr ⟨"gone", .file .notFound, rfl, by
      simp only [Step.perform, Progress.start, FileTree.indexPath, hdiscover], by decide⟩
  have hquery : (Progress.start tree).failure? flags .exact .query =
      some "running queries from noise: stream did not contain valid UTF-8" :=
    Progress.failure?_eq_some_iff.mpr ⟨"noise", .file .notText, rfl, by
      simp only [Step.perform, Progress.start, readQueries, hnoise]
      rfl, by decide⟩
  have hcounts : (Progress.start tree).failure? flags .exact .counts =
      some "writing lock: Input/output error (os error 5)" :=
    Progress.failure?_eq_some_iff.mpr ⟨"lock", .file .inputOutput, rfl, by
      simp only [Step.perform, Progress.write, Progress.start, FileTree.write, hlocked]
      rfl, by decide⟩
  have hresults : (Progress.start tree).failure? flags .exact .results = none := by
    simp only [Progress.failure?, Step.path?, flags, Option.bind_some, Step.perform, Progress.write,
      Progress.start, FileTree.write, hfound]
    rfl
  have hindex : (Progress.start tree).failure? flags .exact .index = none := rfl
  -- only the results are written, so every step is tried with nothing done
  have hpassed : ∀ step ≠ .results,
      (Progress.start tree).next flags .exact step = Progress.start tree := by
    intro step hstep
    cases step with
    | text => exact Progress.next_of_failure? htext
    | query => exact Progress.next_of_failure? hquery
    | counts => exact Progress.next_of_failure? hcounts
    | index => rfl
    | results => exact absurd rfl hstep
  have hturn (step : Step) : Step.failure? flags .exact tree step =
      (Progress.start tree).failure? flags .exact step := by
    cases step <;> simp [Step.failure?, Step.all, Progress.through, hpassed]
  have hfailing : (Step.failure? flags .exact tree .counts).isSome := by
    rw [hturn, hcounts]
    rfl
  obtain ⟨htree, hother⟩ := happart .counts hfailing unreachableWeb {}
  have herrors : outcome.stepErrors = ["indexing gone: No such file or directory (os error 2)",
      "running queries from noise: stream did not contain valid UTF-8",
      "writing lock: Input/output error (os error 5)"] := by
    refine herrors.trans ?_
    simp [Step.all, hturn, htext, hquery, hcounts, hresults, hindex]
  refine ⟨hhtml, rfl, ?_, herrors, htree, hother.trans ?_⟩
  · have hsome : outcome.error.isSome := hfails.mpr ⟨.counts, hfailing⟩
    obtain ⟨error, herror⟩ := Option.isSome_iff_exists.mp hsome
    have hthree : (Step.all.countP fun step => (Step.failure? flags .exact tree step).isSome) = 3 := by
      simp [Step.all, hturn, htext, hquery, hcounts, hresults, hindex]
    refine herror.trans (congrArg some ((hcount error herror).trans ?_))
    rw [hthree]
    decide
  · simp [Step.all, hturn, htext, hquery, hresults, hindex]

end Concordance
