import Concordance.Files.Indexing
import Concordance.Proofs.Files.Reading
import Concordance.Proofs.Index.Merging
import Concordance.Proofs.Pool.Changes

/-!
# Indexing files, one after the other and at once

What indexing the files under a path reports, and what it adds to the index, depends on nothing but the
tree. The order of the files does not matter, so their tasks may be run by any number of workers under
every schedule.

## Main definitions

* `FileTree.reportFor`: what indexing under a path reports
* `FileTree.occurrencesUnder`: what the files under some paths have in them
* `indexInTurn`: indexes under several paths, one after the other
* `FileTree.IndexesAlike`: what that comes to, with and without workers

## Main results

* `foldl_indexOne`: what going through files comes to, in every order
* `indexPath_eq`, `indexPathPooled_eq`: what indexing under a path comes to
* `indexJob_returns`: the same on a pool that may have done other work
* `indexesAlike_of_isLive`: indexing under several paths comes to the same with and without workers
-/

namespace Concordance

namespace Index

theorem merge_build_nil {index : Index} (h : index.Reachable) : index.merge (build []) = index :=
  merge_empty h

end Index

namespace FileTree

variable {tree : FileTree} {index : Index} {path root : String} {files : List String}
  {occurrence : Occurrence}

/-! ## What is in a tree -/

/-- The files to index under a path; none if nothing is there. -/
def filesUnder (tree : FileTree) (root : String) : List String :=
  match tree.discover root with
  | .ok found => found.files
  | .error _ => []

/-- What a file has in it: the terms of its text at consecutive positions from one on. A file that cannot
be read, or is no text, has nothing. -/
def occurrencesIn (tree : FileTree) (path : String) : List Occurrence :=
  match tree.readText path with
  | .ok text => (Text.terms text).mapIdx fun i term => ⟨term, path, 1 + i⟩
  | .error _ => []

/-- What the files under some paths have in them. -/
def occurrencesUnder (tree : FileTree) (roots : List String) : List Occurrence :=
  (roots.flatMap tree.filesUnder).flatMap tree.occurrencesIn

/-- Whether a file cannot be read. What is no text can be read all the same. -/
def failsAt (tree : FileTree) (path : String) : Bool :=
  !(tree.read path).isOk

/-- What indexing under a path reports: how many files are to be indexed, and at how many entries and
files it fails. Only a path that leads nowhere is an error. -/
def reportFor (tree : FileTree) (root : String) : Except Failure BuildReport :=
  match tree.discover root with
  | .ok found => .ok ⟨found.files.length, found.failed + found.files.countP tree.failsAt⟩
  | .error cause => .error (.file cause)

/-- The index of a file is that of what it has in it. -/
theorem indexFile_eq (tree : FileTree) (path : String) :
    tree.indexFile path = (tree.read path).map fun _ => Index.build (tree.occurrencesIn path) := by
  unfold indexFile occurrencesIn readText
  cases tree.read path with
  | error => rfl
  | ok content =>
    cases htext : String.fromUTF8? content with
    | none => simp only [htext]; rfl
    | some text =>
      simp only [htext, Except.map]
      refine congrArg Except.ok ((Index.reachable_ofText path text).ext (Index.reachable_build _) ?_)
      intro occurrence
      rw [Index.mem_ofText, Index.mem_build, List.mem_mapIdx]
      constructor
      · rintro ⟨i, term, hterm, rfl⟩
        obtain ⟨hi, rfl⟩ := List.getElem?_eq_some_iff.mp hterm
        exact ⟨i, hi, rfl⟩
      · rintro ⟨i, hi, rfl⟩
        exact ⟨i, _, List.getElem?_eq_getElem hi, rfl⟩

/-! ## Going through files -/

/-- The state after one file. -/
theorem indexOne_eq {state : BuildState} (hindex : state.index.Reachable) (path : String) :
    tree.indexOne state path = ⟨state.index.merge (Index.build (tree.occurrencesIn path)),
      state.failed + if tree.failsAt path then 1 else 0⟩ := by
  rw [indexOne, indexFile_eq, failsAt]
  cases hread : tree.read path with
  | ok => rfl
  | error =>
    -- a file that cannot be read has nothing to add
    have hnone : tree.occurrencesIn path = [] := by
      rw [occurrencesIn, readText, hread]
    rw [hnone, Index.merge_build_nil hindex]
    rfl

/-- **What going through files comes to.** -/
theorem foldl_indexOne {state : BuildState} (hindex : state.index.Reachable) (files : List String) :
    files.foldl tree.indexOne state =
      ⟨state.index.merge (Index.build (files.flatMap tree.occurrencesIn)),
        state.failed + files.countP tree.failsAt⟩ := by
  -- induction on the files, for any state that those before have left
  induction files generalizing state with
  | nil =>
    rw [List.foldl_nil, List.flatMap_nil, Index.merge_build_nil hindex]
    rfl
  | cons path rest ih =>
    have hnext : (state.index.merge (Index.build (tree.occurrencesIn path))).Reachable :=
      hindex.merge (Index.reachable_build _)
    rw [List.foldl_cons, indexOne_eq hindex, ih hnext, List.flatMap_cons, List.countP_cons,
      Index.merge_assoc hindex (Index.reachable_build _) (Index.reachable_build _),
      Index.merge_build]
    dsimp only
    rw [Nat.add_assoc, Nat.add_comm (List.countP _ _)]

/-- The order of the files does not matter. -/
theorem foldl_indexOne_of_perm {state : BuildState} (hindex : state.index.Reachable)
    {more : List String} (h : files.Perm more) :
    files.foldl tree.indexOne state = more.foldl tree.indexOne state := by
  have hbuild : Index.build (files.flatMap tree.occurrencesIn) =
      Index.build (more.flatMap tree.occurrencesIn) :=
    Index.build_eq_build_iff.mpr fun occurrence => (h.flatMap_right _).mem_iff
  rw [foldl_indexOne hindex, foldl_indexOne hindex, hbuild, h.countP_eq]

/-! ## Indexing under a path -/

theorem indexPath_eq (hindex : index.Reachable) (root : String) :
    tree.indexPath index root =
      (tree.reportFor root, index.merge (Index.build (tree.occurrencesUnder [root]))) := by
  rw [indexPath, reportFor, occurrencesUnder, List.flatMap_singleton, filesUnder]
  cases tree.discover root with
  | error cause =>
    dsimp only
    rw [List.flatMap_nil, Index.merge_build_nil hindex]
  | ok found =>
    have hstate : (BuildState.mk index found.failed).index.Reachable := hindex
    dsimp only
    rw [foldl_indexOne hstate]

/-- A task does to the state what going through its file does. -/
theorem indexTask_eq (tree : FileTree) (path : String) :
    tree.indexTask path = .modify fun state => tree.indexOne state path := by
  unfold indexTask indexOne
  cases tree.indexFile path with
  | error => rfl
  | ok found => simp only [Index.absorb_eq_merge]

/-! ## Indexing files at once -/

/-- What the client of a crew does after it has submitted its files. -/
def reportJob (files : List String) (accepted : Bool) :
    Job String BuildState (Except Failure BuildReport) :=
  if accepted then .look fun state => .ok ⟨files.length, state.failed⟩
  else .finish (.error .poolShutdown)

theorem reportJob_lasts (files : List String) (accepted : Bool) :
    (reportJob files accepted).Lasts true false 2 := by
  cases accepted with
  | true => exact ⟨1, Nat.le_refl 2, fun _ => Nat.le_refl 1⟩
  | false => exact Nat.le_succ 1

theorem reportJob_changesOnly (files : List String) (accepted : Bool) :
    (reportJob files accepted).ChangesOnly (· = id) := by
  cases accepted with
  | true => exact ⟨rfl, fun _ => trivial⟩
  | false => trivial

theorem reportJob_reads (files : List String) (state : BuildState) :
    (reportJob files true).Reads state (.ok ⟨files.length, state.failed⟩) :=
  ⟨rfl, rfl⟩

/-- What the tasks of all files have left, in whatever order they were run. -/
theorem indexPath_eq_of_perm (hindex : index.Reachable) {found : Discovered}
    (hfound : tree.discover root = .ok found) {done : List String} (hdone : done.Perm found.files) :
    let state := done.foldl tree.indexOne ⟨index, found.failed⟩
    tree.indexPath index root = (.ok ⟨found.files.length, state.failed⟩, state.index) := by
  have hstate : (BuildState.mk index found.failed).index.Reachable := hindex
  dsimp only
  rw [indexPath, hfound, foldl_indexOne_of_perm hstate hdone]

/-- **Indexing files on a pool** comes to what going through them comes to, whatever the schedule. -/
theorem indexJob_returns (hindex : index.Reachable) {found : Discovered}
    (hfound : tree.discover root = .ok found)
    {start : Pool String BuildState (Except Failure BuildReport)}
    (hstart : start.IsStaffed ⟨index, found.failed⟩ (indexJob found.files)) :
    start.Returns tree.indexTask fun report state =>
      (report, state.index) = tree.indexPath index root := by
  refine (hstart.returns tree.indexTask_eq (reportJob_reads found.files)
    (reportJob_lasts found.files) (reportJob_changesOnly found.files)).imp ?_
  rintro report state ⟨rfl, done, hdone, hstate⟩
  rw [indexPath_eq_of_perm hindex hfound hdone, hstate]

/-- **A crew indexes files** as going through them does. -/
theorem indexPathPooled_eq (hindex : index.Reachable) {crew : Crew} (hlive : crew.isLive = true)
    (root : String) : tree.indexPathPooled crew index root = tree.indexPath index root := by
  unfold indexPathPooled
  cases hfound : tree.discover root with
  | error cause => rw [indexPath, hfound]
  | ok found =>
    obtain ⟨hresult, done, hdone, hmemory⟩ := crew.exists_perm_of_isLive hlive
      ⟨index, found.failed⟩ tree.indexTask_eq (reportJob_reads found.files)
      (reportJob_lasts found.files) (reportJob_changesOnly found.files) (by decide)
    have hjob : (Job.runAll found.files).bind (reportJob found.files) = indexJob found.files := rfl
    rw [hjob] at hresult hmemory
    dsimp only
    rw [hresult, Option.getD_some, hmemory, indexPath_eq_of_perm hindex hfound hdone]

end FileTree

/-! ## Several paths -/

/-- Indexes under several paths, one after the other: the reports, and the index at the end. -/
def indexInTurn {ρ : Type} (step : Index → ρ → Except Failure BuildReport × Index) (index : Index) :
    List ρ → List (Except Failure BuildReport) × Index
  | [] => ([], index)
  | root :: rest =>
    let (report, after) := step index root
    let (reports, last) := indexInTurn step after rest
    (report :: reports, last)

namespace FileTree

variable {tree : FileTree} {index : Index}

/-- Each step of some kind does what indexing under a path does. -/
theorem indexInTurn_eq {ρ : Type} {step : Index → ρ → Except Failure BuildReport × Index}
    {rootOf : ρ → String} {roots : List ρ}
    (hstep : ∀ root ∈ roots, ∀ index : Index, index.Reachable →
      step index root = tree.indexPath index (rootOf root))
    (hindex : index.Reachable) :
    indexInTurn step index roots = ((roots.map rootOf).map tree.reportFor,
      index.merge (Index.build (tree.occurrencesUnder (roots.map rootOf)))) := by
  -- induction on the paths, for any index that those before have left
  induction roots generalizing index with
  | nil =>
    rw [indexInTurn, List.map_nil, List.map_nil, occurrencesUnder, List.flatMap_nil,
      List.flatMap_nil, Index.merge_build_nil hindex]
  | cons root rest ih =>
    have hnext : (index.merge (Index.build (tree.occurrencesUnder [rootOf root]))).Reachable :=
      hindex.merge (Index.reachable_build _)
    have hunder : tree.occurrencesUnder ((root :: rest).map rootOf) =
        tree.occurrencesUnder [rootOf root] ++ tree.occurrencesUnder (rest.map rootOf) := by
      simp [occurrencesUnder]
    rw [indexInTurn, hstep root List.mem_cons_self index hindex, indexPath_eq hindex]
    dsimp only
    rw [ih (fun other hother => hstep other (List.mem_cons_of_mem root hother)) hnext, hunder,
      Index.merge_assoc hindex (Index.reachable_build _) (Index.reachable_build _),
      Index.merge_build]
    rfl

theorem mem_occurrencesUnder {roots : List String} {occurrence : Occurrence} :
    occurrence ∈ tree.occurrencesUnder roots ↔ ∃ root ∈ roots, ∃ path ∈ tree.filesUnder root,
      ∃ text, tree.readText path = .ok text ∧
        ∃ i, (Text.terms text)[i]? = some occurrence.term ∧
          occurrence.location = path ∧ occurrence.position = 1 + i := by
  have hfile : ∀ path, occurrence ∈ tree.occurrencesIn path ↔
      ∃ text, tree.readText path = .ok text ∧
        ∃ i, (Text.terms text)[i]? = some occurrence.term ∧
          occurrence.location = path ∧ occurrence.position = 1 + i := by
    intro path
    rw [occurrencesIn]
    cases tree.readText path with
    | error => simp
    | ok text =>
      rw [List.mem_mapIdx]
      constructor
      · rintro ⟨i, hi, rfl⟩
        exact ⟨text, rfl, i, List.getElem?_eq_getElem hi, rfl, rfl⟩
      · rintro ⟨_, ⟨⟩, i, hterm, rfl, hposition⟩
        obtain ⟨hi, hterm⟩ := List.getElem?_eq_some_iff.mp hterm
        refine ⟨i, hi, ?_⟩
        rw [hterm, ← hposition]
  simp only [occurrencesUnder, List.mem_flatMap, hfile]
  constructor
  · rintro ⟨path, ⟨root, hroot, hpath⟩, hoccurrence⟩
    exact ⟨root, hroot, path, hpath, hoccurrence⟩
  · rintro ⟨root, hroot, path, hpath, hoccurrence⟩
    exact ⟨path, ⟨root, hroot, hpath⟩, hoccurrence⟩

/-- What has been indexed is not indexed again. -/
theorem merge_occurrencesUnder {roots more : List String} (hindex : index.Reachable)
    (h : more.flatMap tree.filesUnder ⊆ roots.flatMap tree.filesUnder) :
    let after := index.merge (Index.build (tree.occurrencesUnder roots))
    after.merge (Index.build (tree.occurrencesUnder more)) = after := by
  apply Index.merge_of_subset (hindex.merge (Index.reachable_build _)) (Index.reachable_build _)
  intro occurrence hoccurrence
  rw [Index.mem_build, occurrencesUnder, List.mem_flatMap] at hoccurrence
  obtain ⟨path, hpath, hoccurrence⟩ := hoccurrence
  rw [Index.mem_merge, Index.mem_build]
  exact .inr (List.mem_flatMap.mpr ⟨path, h hpath, hoccurrence⟩)

/-- What indexing under several paths comes to, one after the other, in a tree that does not change. The
crew for each path is there, and may take its turns in any way. -/
structure IndexesAlike (tree : FileTree) (index : Index) (builds : List (Crew × String))
    (after : Index) : Prop where
  serial_eq : indexInTurn tree.indexPath index (builds.map Prod.snd) =
    ((builds.map Prod.snd).map tree.reportFor, after)
  pooled_eq : indexInTurn (fun index build => tree.indexPathPooled build.1 index build.2) index builds =
    ((builds.map Prod.snd).map tree.reportFor, after)
  /-- The index is the one at the start, united with all that is in the texts that were found. -/
  after_eq : after = index.merge (Index.build (tree.occurrencesUnder (builds.map Prod.snd)))
  mem_after_iff : ∀ occurrence, occurrence ∈ after ↔ occurrence ∈ index ∨
    ∃ root ∈ builds.map Prod.snd, ∃ path ∈ tree.filesUnder root,
      ∃ text, tree.readText path = .ok text ∧ ∃ i, (Text.terms text)[i]? = some occurrence.term ∧
        occurrence.location = path ∧ occurrence.position = 1 + i
  /-- A path that leads to no other files changes nothing more. -/
  again_eq : ∀ crew root, crew.isLive = true →
    tree.filesUnder root ⊆ (builds.map Prod.snd).flatMap tree.filesUnder →
    tree.indexPath after root = (tree.reportFor root, after) ∧
      tree.indexPathPooled crew after root = (tree.reportFor root, after)
  /-- A pool may have done other work before, and its threads take their turns in any way. -/
  returns : ∀ root found (start : Pool String BuildState (Except Failure BuildReport)),
    tree.discover root = .ok found →
    start.IsStaffed ⟨index, found.failed⟩ (indexJob found.files) →
    start.Returns tree.indexTask fun report state =>
      (report, state.index) = tree.indexPath index root

/-- **Indexing under paths comes to the same with and without workers.** -/
theorem indexesAlike_of_isLive (tree : FileTree) (hindex : index.Reachable)
    (builds : List (Crew × String)) (hlive : ∀ build ∈ builds, build.1.isLive = true) :
    tree.IndexesAlike index builds
      (index.merge (Index.build (tree.occurrencesUnder (builds.map Prod.snd)))) := by
  have hafter : (index.merge (Index.build (tree.occurrencesUnder (builds.map Prod.snd)))).Reachable :=
    hindex.merge (Index.reachable_build _)
  constructor
  case serial_eq =>
    have hserial : indexInTurn tree.indexPath index (builds.map Prod.snd) =
        (((builds.map Prod.snd).map id).map tree.reportFor,
          index.merge (Index.build (tree.occurrencesUnder ((builds.map Prod.snd).map id)))) :=
      indexInTurn_eq (fun _ _ _ _ => rfl) hindex
    rwa [List.map_id] at hserial
  case pooled_eq =>
    exact indexInTurn_eq (fun build hbuild index hindex =>
      indexPathPooled_eq hindex (hlive build hbuild) build.2) hindex
  case after_eq => rfl
  case mem_after_iff =>
    intro occurrence
    rw [Index.mem_merge, Index.mem_build, mem_occurrencesUnder]
  case again_eq =>
    intro crew root hcrew hfiles
    rw [indexPathPooled_eq hafter hcrew, indexPath_eq hafter, merge_occurrencesUnder hindex]
    · exact ⟨rfl, rfl⟩
    · rwa [List.flatMap_singleton]
  case returns =>
    intro root found start hfound hstart
    exact indexJob_returns hindex hfound hstart

/-- A file that is indexed twice, one that cannot be read and one that is not there, each with a crew of
its own, into an index that has something. -/
theorem indexesAlike_of_isLive_overlapping :
    let tree : FileTree :=
      ⟨.ofList [(["note"], Node.file "The cats ran".toUTF8), (["lock"], Node.unreadable)]⟩
    let index := Index.build [⟨"cat", "note", 7⟩]
    let builds := [(Crew.ofSize 2, "note"), (⟨1, true, [.worker 0 none]⟩, "lock"),
      (Crew.ofSize 0, "gone"), (Crew.ofSize 1, "note")]
    index.Reachable ∧ (∀ build ∈ builds, build.1.isLive = true) ∧
      indexInTurn (fun index build => tree.indexPathPooled build.1 index build.2) index builds =
        indexInTurn tree.indexPath index (builds.map Prod.snd) ∧
      (indexInTurn tree.indexPath index (builds.map Prod.snd)).1 =
        [.ok ⟨1, 0⟩, .ok ⟨1, 1⟩, .error (.file .notFound), .ok ⟨1, 0⟩] ∧
      ⟨"cat", "note", 2⟩ ∈ (indexInTurn tree.indexPath index (builds.map Prod.snd)).2 := by
  intro tree index builds
  have hindex : index.Reachable := Index.reachable_build _
  have hlive : ∀ build ∈ builds, build.1.isLive = true := by decide
  have halike := tree.indexesAlike_of_isLive hindex builds hlive
  have hplain : ∀ name ∈ ["note", "lock", "gone"], IsPlainName name := by decide +kernel
  have hnotes : tree.find "note" = .ok ["note"] :=
    (hplain "note" (by simp)).find_of_node? rfl (by simp)
  have hlocked : tree.find "lock" = .ok ["lock"] :=
    (hplain "lock" (by simp)).find_of_node? rfl (by simp)
  have hgone : tree.find "gone" = .error .notFound :=
    (hplain "gone" (by simp)).find_of_missing rfl
  have hfound : tree.discover "note" = .ok ⟨["note"], 0⟩ := by
    rw [discover, hnotes]
    rfl
  have hlockedFound : tree.discover "lock" = .ok ⟨["lock"], 0⟩ := by
    rw [discover, hlocked]
    rfl
  have hgoneFound : tree.discover "gone" = .error .notFound := by
    rw [discover, hgone]
  have hreads : tree.failsAt "note" = false := by
    rw [failsAt, read, hnotes]
    rfl
  have hfails : tree.failsAt "lock" = true := by
    rw [failsAt, read, hlocked]
    rfl
  refine ⟨hindex, hlive, ?_, ?_, ?_⟩
  · rw [halike.pooled_eq, halike.serial_eq]
  · rw [halike.serial_eq]
    simp [builds, reportFor, hfound, hlockedFound, hgoneFound, hreads, hfails]
  · have hread : tree.read "note" = .ok "The cats ran".toUTF8 :=
      (hplain "note" (by simp)).read_of_node? rfl
    rw [halike.serial_eq]
    refine (halike.mem_after_iff _).mpr (.inr ⟨"note", by simp [builds], "note", ?_, _, readText_of_toUTF8 hread, 1, ?_,
      rfl, rfl⟩)
    · simp [filesUnder, hfound]
    · decide +kernel

end FileTree

end Concordance
