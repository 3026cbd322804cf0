import Concordance.Proofs.Crawl.Coverage
import Concordance.Proofs.Crawl.Safety
import Concordance.Proofs.Pool.Closing
import Concordance.Proofs.Pool.Progress

/-!
# Completeness of crawls

A crawl on a pool that is not shut down comes to an end under every schedule. It visits only what can be
reached from its seed, and as much of it as its cap has room for. If there is room for all, then the
report and the index do not depend on the schedule: all that can be reached was visited and counted, and
the index has grown by what is on the pages.

## Main definitions

* `Crawl.IsComplete`: what a crawl has done when it returns

## Main results

* `exists_length_run_le`: a crawl takes a bounded number of steps
* `exists_report_of_isStuck`: a crawl that takes no more steps has returned
* `isComplete_of_reached`: what it has done then
* `ends_complete`: every crawl comes to an end, and is complete then
-/

namespace Concordance.Crawl

variable {web : Web} {seed : Url} {index : Index} {cap : Nat}

/-! ## How long a crawl lasts -/

theorem modify_lasts (mayIdle : Bool) (change : CrawlState → CrawlState) :
    (Job.modify change : Job Url CrawlState Unit).Lasts mayIdle false 2 :=
  ⟨1, Nat.le_refl 2, fun _ => Nat.le_refl 1⟩

theorem look_lasts (mayIdle : Bool) {β : Type} (view : CrawlState → β) :
    (Job.look view : Job Url CrawlState β).Lasts mayIdle false 2 :=
  ⟨1, Nat.le_refl 2, fun _ => Nat.le_refl 1⟩

theorem offer_lasts (mayIdle : Bool) (url : Url) : (offer url).Lasts mayIdle false 8 := by
  refine ⟨7, Nat.le_refl 8, fun state => ?_⟩
  dsimp only
  split
  · refine ⟨6, Nat.le_refl 7, fun _ => ⟨3, Nat.le_refl 6, fun accepted => ?_⟩⟩
    cases accepted with
    | true => exact Nat.le_add_left 1 2
    | false => exact ⟨2, Nat.le_refl 3, fun _ => ⟨1, Nat.le_refl 2, fun _ => Nat.le_refl 1⟩⟩
  · exact Nat.le_add_left 1 6

theorem offerAll_lasts (mayIdle : Bool) (urls : List Url) :
    (offerAll urls).Lasts mayIdle false (9 * urls.length + 1) := by
  induction urls with
  | nil => exact Nat.le_refl 1
  | cons url rest ih =>
    have hsteps : (offerAll (url :: rest)).Lasts mayIdle false (8 + (9 * rest.length + 1 + 1)) :=
      (offer_lasts mayIdle url).bind fun _ => ih.bind fun _ => Nat.le_refl 1
    exact hsteps.mono (by rw [List.length_cons]; omega)

/-- How many steps the task of a location takes at most. -/
def visitSteps (web : Web) (url : Url) : Nat :=
  9 * (linksOf web url).length + 11

theorem visit_lasts (mayIdle : Bool) (web : Web) (url : Url) :
    (visit web url).Lasts mayIdle false (visitSteps web url) := by
  have hreceive : (receive url (web url)).Lasts mayIdle false (9 * (linksOf web url).length + 9) := by
    unfold linksOf
    cases web url with
    | page text =>
      have hpage : (readPage url text).Lasts mayIdle false
          (2 + (9 * (pageLinks url text).length + 1 + (2 + (2 + 2)))) :=
        (modify_lasts mayIdle _).bind fun _ => (offerAll_lasts mayIdle _).bind fun _ =>
          (modify_lasts mayIdle _).bind fun _ => (modify_lasts mayIdle _).bind fun _ =>
            modify_lasts mayIdle _
      exact hpage.mono (by dsimp only; omega)
    | other | broken => exact (modify_lasts mayIdle _).mono (by simp)
  have hsteps : (visit web url).Lasts mayIdle false (2 + (9 * (linksOf web url).length + 9)) :=
    (modify_lasts mayIdle _).bind fun _ => hreceive
  exact hsteps.mono (by unfold visitSteps; omega)

theorem crawl_lasts (seed : Url) : (crawl seed).Lasts true false 20 := by
  have hreport : readReport.Lasts true false (2 + (2 + (2 + (2 + 1)))) :=
    (look_lasts true _).bind fun _ => (look_lasts true _).bind fun _ =>
      (look_lasts true _).bind fun _ => (look_lasts true _).bind fun _ => Nat.le_refl 1
  have hsteps : (crawl seed).Lasts true false (8 + (2 + 1 + (2 + (2 + (2 + (2 + 1)))))) :=
    (offer_lasts true _).bind fun _ =>
      Job.Lasts.bind ⟨rfl, 1, Nat.le_refl 3, Nat.le_refl 1⟩ fun _ => hreport
  exact hsteps.mono (by omega)

/-! ## What holds in every state -/

section Reached

variable {start pool : Pool Url CrawlState CrawlReport} {refused : List Url}

theorem keeps_coverage_of_reached (hindex : index.Reachable)
    (hstart : start.IsReady (.start index cap) [crawl seed]) (hopen : start.isShutdown = false)
    (h : Pool.Reached (· = visit web) start pool refused) :
    pool.Keeps (coverage web seed index) refused := by
  have hclients : Total (Job.Keeps (coverage web seed index) Spent) [crawl seed]
      (offering [seed.withoutFragment] + 0) := .cons crawl_keeps_coverage .nil
  refine h.keeps ?_ (hstart.keeps hclients ?_)
  · rintro body rfl url
    exact visit_keeps_coverage url
  · rw [hopen, add_zero]
    exact Covers.start hindex cap

/-- The books of a crawl, beside what it has covered. -/
theorem balances_and_covers (hindex : index.Reachable)
    (hstart : start.IsReady (.start index cap) [crawl seed]) (hopen : start.isShutdown = false)
    (h : Pool.Reached (· = visit web) start pool refused) :
    (∃ inHand unread uncounted, Balances cap (pool.ledger refused) inHand unread uncounted) ∧
    ∃ unoffered uncounted unabsorbed,
      Covers web seed index (pool.ledger refused) unoffered uncounted unabsorbed := by
  obtain ⟨ofWorkers, ofClients, -, -, hcovers⟩ := keeps_coverage_of_reached hindex hstart hopen h
  exact ⟨exists_balances hstart h, _, _, _, hcovers⟩

/-- How much the task of a location costs, with the steps of its worker and those of the client that it
wakes. -/
def visitCost (web : Web) (url : Url) : Nat :=
  visitSteps web url + 3

theorem exists_lasts_visit (web : Web) (url : Url) :
    ∃ m, m + 1 + 2 ≤ visitCost web url ∧ (visit web url).Lasts false false m :=
  ⟨visitSteps web url, Nat.le_refl _, visit_lasts false web url⟩

theorem lasts_start (hstart : start.IsReady (.start index cap) [crawl seed]) :
    start.Lasts false (visitCost web) 1 (start.size + (20 + 0)) :=
  hstart.lasts (visitCost web) (.cons (crawl_lasts seed) .nil)

/-- **A crawl takes a bounded number of steps**, apart from those of threads that wake for no reason. -/
theorem exists_length_run_le (hindex : index.Reachable)
    (hstart : start.IsReady (.start index cap) [crawl seed]) (hopen : start.isShutdown = false) :
    ∃ bound, ∀ events pool, start.run (visit web) events = some pool →
      events.length ≤ bound + 2 * events.countP Event.isSpurious := by
  refine ⟨start.size + (20 + 0) + Pool.costs (visitCost web) (within web seed cap),
    fun events pool hrun => ?_⟩
  have hlength := (lasts_start hstart).run hrun (exists_lasts_visit web)
  have hreached : Pool.Reached (· = visit web) start pool _ :=
    .of_run (by rfl) hrun
  obtain ⟨⟨_, _, _, hbooks⟩, _, _, _, hcovers⟩ := balances_and_covers hindex hstart hopen hreached
  -- however long the run, all that it visits is near enough to the seed
  have hvisited : pool.memory.visited ⊆ within web seed cap := by
    refine List.Subset.trans hcovers.trail.subset_within (within_subset ?_)
    exact hbooks.enqueued_eq ▸ hbooks.enqueued_le
  have hcosts : Pool.costs (visitCost web) pool.accepted ≤
      Pool.costs (visitCost web) (within web seed cap) :=
    Pool.costs_le_of_subset _ hbooks.accepted_nodup
      (List.Subset.trans hbooks.accepted_subset hvisited)
  omega

/-- **A crawl that takes no more steps has returned**, if the pool is not shut down. -/
theorem exists_report_of_isStuck (hstart : start.IsReady (.start index cap) [crawl seed])
    (hworkers : start.workers ≠ []) (h : Pool.Reached (· = visit web) start pool refused)
    (hopen : pool.isShutdown = false) (hstuck : pool.IsStuck (visit web)) :
    ∃ report, pool.result? 0 = some report := by
  obtain ⟨n, hlasts⟩ := h.lasts (by rintro body rfl; exact exists_lasts_visit web)
    ⟨_, lasts_start hstart⟩
  -- the workers of an open pool do not leave
  have hstaffed : .exited ∉ pool.workers := by
    intro hexited
    obtain ⟨hshutdown, -⟩ := h.isVacated hstart.isVacated hexited
    rw [hopen] at hshutdown
    cases hshutdown
  have hsize : pool.workers ≠ [] := by
    have hlength : pool.workers.length = start.workers.length := h.size_eq
    rw [← List.length_pos_iff] at hworkers ⊢
    rwa [hlength]
  have hreturning := isReturning_of_reached hstart (by simp) h
  obtain ⟨-, hthrough⟩ := hstuck.through hlasts hlasts.waitsForNothing
    (h.isCounted hstart.isCounted) (h.isAttended hstart.isAttended) hstaffed hsize
  refine ⟨_, hreturning.result_of_isThrough fun activity hactivity => ?_⟩
  exact hthrough activity (List.mem_of_getElem? hactivity)

/-! ## What a crawl has done when it returns -/

/-- What a crawl has done when it returns. -/
structure IsComplete (web : Web) (seed : Url) (index : Index) (cap : Nat)
    (pool : Pool Url CrawlState CrawlReport) (report : CrawlReport) : Prop where
  fetched_perm : pool.memory.fetched.Perm pool.memory.visited
  enqueued_eq : (report.enqueued : ℕ∞) = min (cap : ℕ∞) (reachable web seed).encard
  /-- If there is room for all that can be reached, then all that can be reached was counted. -/
  indexed_eq : (reachable web seed).encard ≤ cap →
    report.indexed = {url ∈ reachable web seed | (web url).isPage}.ncard
  skipped_eq : (reachable web seed).encard ≤ cap →
    report.skipped = {url ∈ reachable web seed | web url = .other}.ncard
  failed_eq : (reachable web seed).encard ≤ cap →
    report.failed = {url ∈ reachable web seed | web url = .broken}.ncard
  /-- The index has grown by what is on the pages that can be reached. -/
  index_eq : (reachable web seed).encard ≤ cap → ∃ occurrences : List Occurrence,
    (∀ occurrence, occurrence ∈ occurrences ↔
      ∃ url ∈ reachable web seed, occurrence ∈ pageOccurrences web url) ∧
    pool.memory.index = index.merge (Index.build occurrences)
  /-- Another crawl from the same seed never changes the index again. -/
  index_stable : (reachable web seed).encard ≤ cap →
    ∀ (cap' : Nat) (again later : Pool Url CrawlState CrawlReport) (refused : List Url),
      again.IsReady (.start pool.memory.index cap') [crawl seed] → again.isShutdown = false →
      Pool.Reached (· = visit web) again later refused →
      later.memory.index = pool.memory.index

theorem countP_eq_ncard {urls : List Url} (hnodup : urls.Nodup) {locations : Set Url}
    (hmem : ∀ url, url ∈ urls ↔ url ∈ locations) (p : Url → Prop) [DecidablePred p] :
    (urls : Multiset Url).countP p = {url ∈ locations | p url}.ncard := by
  have hset : {url ∈ locations | p url} = ((urls.filter fun url => p url).toFinset : Set Url) := by
    ext url
    simp [hmem]
  rw [hset, Set.ncard_coe_finset, List.toFinset_card_of_nodup (hnodup.filter _),
    Multiset.coe_countP, List.countP_eq_length_filter]

/-- What all threads have agreed on, when a crawl has returned. -/
theorem balances_and_covers_of_result (hindex : index.Reachable)
    (hstart : start.IsReady (.start index cap) [crawl seed]) (hopen : start.isShutdown = false)
    (h : Pool.Reached (· = visit web) start pool refused) {report : CrawlReport}
    (hreport : pool.result? 0 = some report) :
    report = pool.memory.report ∧ Balances cap (pool.ledger refused) 0 0 0 ∧
      Covers web seed index (pool.ledger refused) 0 0 0 := by
  obtain ⟨hvalue, hbooks⟩ := balances_of_result hstart (by simp) (reached_any h) hreport
  obtain ⟨-, hcovers⟩ := (keeps_coverage_of_reached hindex hstart hopen h).returned
    (h.isCounted hstart.isCounted) (isReturning_of_reached hstart (by simp) h) hreport
  exact ⟨hvalue, hbooks, hcovers⟩

/-- An index that has what can be reached never changes in a crawl. -/
theorem index_eq_of_reached (hindex : index.Reachable)
    (hstart : start.IsReady (.start index cap) [crawl seed]) (hopen : start.isShutdown = false)
    (h : Pool.Reached (· = visit web) start pool refused)
    (hhas : ∀ url, Reaches web seed url → ∀ occurrence ∈ pageOccurrences web url,
      occurrence ∈ index) : pool.memory.index = index := by
  obtain ⟨⟨_, _, _, hbooks⟩, _, _, _, hcovers⟩ := balances_and_covers hindex hstart hopen h
  obtain ⟨absorbed, habsorbed, hmem⟩ := hcovers.absorbed
  refine hcovers.reachable.ext hindex fun occurrence => (hmem occurrence).trans ?_
  refine or_iff_left_of_imp ?_
  rintro ⟨url, hurl, hoccurrence⟩
  -- what was added to the index is on a page that was visited
  have haccepted : url ∈ (pool.ledger refused).accepted := by
    rw [← Multiset.mem_coe, habsorbed]
    exact Multiset.mem_add.mpr (.inr hurl)
  exact hhas url (hcovers.trail.reaches (hbooks.accepted_subset haccepted)) occurrence hoccurrence

/-- **A crawl that has returned is complete.** -/
theorem isComplete_of_reached (hindex : index.Reachable)
    (hstart : start.IsReady (.start index cap) [crawl seed]) (hopen : start.isShutdown = false)
    (h : Pool.Reached (· = visit web) start pool refused) {report : CrawlReport}
    (hreport : pool.result? 0 = some report) : IsComplete web seed index cap pool report := by
  obtain ⟨rfl, hbooks, hcovers⟩ := balances_and_covers_of_result hindex hstart hopen h hreport
  -- no thread has a location left to offer, so all links were followed or the cap is full
  have hcovered : ∀ url, IsLinked web seed pool.memory.visited url →
      url ∈ pool.memory.visited ∨ cap ≤ pool.memory.visited.length := by
    intro url hurl
    obtain hvisited | hunoffered | hfull := hcovers.covered url hurl
    · exact .inl hvisited
    · exact absurd hunoffered (Multiset.notMem_zero url)
    · right
      rw [hbooks.cap_eq, hbooks.enqueued_eq] at hfull
      exact hfull
  have hle : pool.memory.visited.length ≤ cap := hbooks.enqueued_eq ▸ hbooks.enqueued_le
  have haccepted : (reachable web seed).encard ≤ cap →
      ∀ url, url ∈ pool.accepted ↔ url ∈ reachable web seed := fun hroom url =>
    hbooks.visited_perm.mem_iff.symm.trans (hcovers.trail.mem_iff hcovered hroom)
  -- no thread has a location left to count or to add to the index
  obtain ⟨counted, hcounted, htally⟩ := hcovers.counted
  obtain ⟨absorbed, habsorbed, hmem⟩ := hcovers.absorbed
  rw [zero_add] at hcounted habsorbed
  have hcountP : (reachable web seed).encard ≤ cap → ∀ (p : Url → Prop) [DecidablePred p],
      counted.countP p = {url ∈ reachable web seed | p url}.ncard := by
    intro hroom p _
    rw [← hcounted]
    exact countP_eq_ncard hbooks.accepted_nodup (haccepted hroom) p
  have hindex_eq : ∀ occurrence, occurrence ∈ pool.memory.index ↔
      occurrence ∈ index ∨ ∃ url ∈ pool.accepted, occurrence ∈ pageOccurrences web url := by
    intro occurrence
    rw [← habsorbed] at hmem
    exact hmem occurrence
  exact {
    fetched_perm := hbooks.fetched_perm.trans hbooks.visited_perm.symm
    enqueued_eq := by
      have hlength := hcovers.trail.length_eq hle hcovered
      rwa [← hbooks.enqueued_eq] at hlength
    indexed_eq := fun hroom => htally.indexed_eq.trans (hcountP hroom _)
    skipped_eq := fun hroom => htally.skipped_eq.trans (hcountP hroom _)
    failed_eq := fun hroom => htally.failed_eq.trans (hcountP hroom _)
    index_eq := by
      intro hroom
      refine ⟨pool.accepted.flatMap (pageOccurrences web), fun occurrence => ?_, ?_⟩
      · simp only [List.mem_flatMap, haccepted hroom]
      · refine hcovers.reachable.ext (hindex.merge (Index.reachable_build _)) fun occurrence => ?_
        rw [Index.mem_merge, Index.mem_build, List.mem_flatMap]
        exact hindex_eq occurrence
    index_stable := by
      intro hroom cap' again later refused' hagain hopen' hlater
      refine index_eq_of_reached hcovers.reachable hagain hopen' hlater ?_
      intro url hurl occurrence hoccurrence
      exact (hindex_eq occurrence).mpr (.inr ⟨url, (haccepted hroom url).mpr hurl, hoccurrence⟩) }

/-- **Every crawl on a pool that is not shut down comes to an end, and is complete then.** Its steps are
bounded, apart from those of threads that wake for no reason, and it takes none any more only after it
has returned. At every moment it has visited only what can be reached, each location being the seed or
linked from another one. -/
theorem ends_complete (hindex : index.Reachable)
    (hstart : start.IsReady (.start index cap) [crawl seed]) (hopen : start.isShutdown = false)
    (hworkers : start.workers ≠ []) :
    (∃ bound, ∀ events pool, start.run (visit web) events = some pool →
      events.length ≤ bound + 2 * events.countP Event.isSpurious) ∧
    ∀ pool refused, Pool.Reached (· = visit web) start pool refused →
      (pool.IsStuck (visit web) → ∃ report, pool.result? 0 = some report) ∧
      pool.memory.fetched ⊆ pool.memory.visited ∧
      (∀ url ∈ pool.memory.visited,
        Reaches web seed url ∧ IsLinked web seed pool.memory.visited url) ∧
      ∀ report, pool.result? 0 = some report → IsComplete web seed index cap pool report := by
  refine ⟨exists_length_run_le hindex hstart hopen, fun pool refused h => ?_⟩
  obtain ⟨⟨_, _, _, hbooks⟩, _, _, _, hcovers⟩ := balances_and_covers hindex hstart hopen h
  refine ⟨exists_report_of_isStuck hstart hworkers h hcovers.isShutdown_eq, ?_, fun url hurl => ?_, ?_⟩
  · exact List.Subset.trans hbooks.fetched_subset hbooks.accepted_subset
  · exact ⟨hcovers.trail.reaches hurl, hcovers.trail.isLinked hurl⟩
  · exact fun report hreport => isComplete_of_reached hindex hstart hopen h hreport

/-- A crawl with two workers from a page with one link, to a location that cannot be fetched. -/
theorem ends_complete_two_locations :
    ∃ (web : Web) (seed : Url) (pool : Pool Url CrawlState CrawlReport) (events : List Event),
      (Pool.start 2 (.start ∅ 5) [crawl seed]).run (visit web) events = some pool ∧
      pool.result? 0 = some ⟨2, 1, 0, 1⟩ ∧ IsComplete web seed ∅ 5 pool ⟨2, 1, 0, 1⟩ := by
  let seed : Url :=
    ⟨"http", some ⟨"", "", .name "a.test", none⟩, .segments [""], none, some "top"⟩
  let web : Web := fun url =>
    if url = seed.withoutFragment then .page "<p>home <a href='/next'>next</a>" else .broken
  let start : Pool Url CrawlState CrawlReport := .start 2 (.start ∅ 5) [crawl seed]
  obtain ⟨events, hevents⟩ := Pool.exists_run_settle (visit web) start 60
  have hreport : (start.settle (visit web) 60).result? 0 = some ⟨2, 1, 0, 1⟩ := by decide +kernel
  obtain ⟨-, hreached⟩ := @ends_complete web seed ∅ 5 start .empty (Pool.isReady_start _ _ _) rfl
    (by simp [start, Pool.start])
  obtain ⟨-, -, -, hcomplete⟩ := hreached _ _ (.of_run (by rfl) hevents)
  exact ⟨web, seed, _, events, hevents, hreport, hcomplete _ hreport⟩

end Reached

end Concordance.Crawl
