import Concordance.Proofs.Crawl.Course
import Concordance.Proofs.Crawl.Reachability
import Concordance.Proofs.Crawl.Safety
import Mathlib.Algebra.BigOperators.Group.Finset.Basic

/-!
# The stages of locations

The thread that takes a location up notes that it is queued, and the task that it submits notes the other
stages, whoever runs it. Since the first is noted before the task is submitted, the stages of each location
come in their order under every schedule. Each location that was taken up is a link of one page, or the seed;
the last stage of a page says how many of its links were.

## Main definitions

* `Crawl.stagesOf`: the stages of a location so far
* `Crawl.stages`: all stages of a location
* `Crawl.uptakes`: who has taken up which location in a run
* `Crawl.IsStaged`: the stages of a crawl after a run

## Main results

* `Phase.Next.entails`: what a thread does to the stages when it goes on
* `IsTracked.next`, `IsTracked.run`: the stages are those that the phases of the threads tell
* `isStaged_of_run`: the stages of every location come in their order
-/

namespace Concordance.Crawl

variable {web : Web} {seed : Url}

/-! ## Stages -/

/-- The stages of a location so far, in order. -/
def stagesOf (state : CrawlState) (url : Url) : List Stage :=
  (state.trace.filter fun entry => entry.1 = url).map Prod.snd

/-- All stages of a location, if so many links on its page are taken up. -/
def stages (web : Web) (url : Url) (taken : Nat) : List Stage :=
  match web url with
  | .page text =>
    [.queued, .fetching, .parsed ((pageIndex url text).wordCount url.text), stageAfter taken]
  | .other | .broken => [.queued, .fetching]

/-- Who has taken up which locations in a run, in order: the location whose task has, or nobody for the
client. -/
def uptakes (web : Web) (pool : Pool Url CrawlState CrawlReport) :
    List Event → List (Option Url × Url)
  | [] => []
  | event :: rest =>
    match pool.step (visit web) event with
    | some next =>
      (next.memory.visited.filter fun url => url ∉ pool.memory.visited).map (pool.taskOf event, ·) ++
        uptakes web next rest
    | none => []

/-- How many locations somebody has taken up. -/
def takenBy (log : List (Option Url × Url)) (owner : Option Url) : Nat :=
  log.countP fun entry => entry.1 = owner

/-- The locations that somebody has to offer. -/
def offeredBy (web : Web) (seed : Url) : Option Url → List Url
  | some page => linksOf web page
  | none => [seed.withoutFragment]

theorem stagesOf_append {state state' : CrawlState} {url other : Url} {stage : Stage}
    (htrace : state'.trace = state.trace ++ [(url, stage)]) :
    stagesOf state' other = stagesOf state other ++ if url = other then [stage] else [] := by
  unfold stagesOf
  rw [htrace, List.filter_append, List.map_append]
  by_cases h : url = other <;> simp [h]

theorem stagesOf_of_eq {state state' : CrawlState} (htrace : state'.trace = state.trace) (url : Url) :
    stagesOf state' url = stagesOf state url := by
  unfold stagesOf
  rw [htrace]

theorem takenBy_append (log : List (Option Url × Url)) (by' owner : Option Url) (url : Url) :
    takenBy (log ++ [(by', url)]) owner = takenBy log owner + if by' = owner then 1 else 0 := by
  unfold takenBy
  rw [List.countP_append]
  by_cases h : by' = owner <;> simp [h]

theorem takenBy_eq_zero {log : List (Option Url × Url)} {owner : Option Url}
    (h : ∀ entry ∈ log, entry.1 ≠ owner) : takenBy log owner = 0 := by
  unfold takenBy
  rw [List.countP_eq_zero]
  exact fun entry hentry => by simpa using h entry hentry

/-! ## What phases tell of stages -/

/-- How many links a thread has taken up. -/
def Phase.taken : Phase → Nat
  | .fetches | .receives => 0
  | .offers taken _ | .notes taken _ _ | .submits taken _ _ => taken
  | .absorbs taken | .counts taken | .finished taken => taken

/-- The links that a thread has left to offer. -/
def Phase.links : Phase → List Url
  | .offers _ links | .notes _ _ links | .submits _ _ links => links
  | _ => []

/-- How many stages a location has come through at most. -/
def Phase.passed : Phase → Nat
  | .fetches => 1
  | .receives => 2
  | .offers _ _ | .notes _ _ _ | .submits _ _ _ => 3
  | .absorbs _ | .counts _ | .finished _ => 4

/-- The location that a thread has taken up and not submitted yet, with its stages. -/
def Phase.inHand : Phase → Multiset (Url × List Stage)
  | .notes _ link _ => {(link, [])}
  | .submits _ link _ => {(link, [.queued])}
  | _ => 0

/-- The stages of the location that a task visits. -/
def Phase.stages (web : Web) (url : Url) (phase : Phase) : List Stage :=
  (Crawl.stages web url phase.taken).take phase.passed

/-- The locations that a thread answers for, with their stages. -/
def standings (web : Web) (thread : Option Url × Phase) : Multiset (Url × List Stage) :=
  (thread.1.elim 0 fun url => {(url, thread.2.stages web url)}) + thread.2.inHand

/-- What a step does to the locations that its thread answers for. -/
inductive Entails (state state' : CrawlState) :
    Multiset (Url × List Stage) → Multiset (Url × List Stage) → Prop
  | same {answers : Multiset (Url × List Stage)} (htrace : state'.trace = state.trace)
    (hvisited : state'.visited = state.visited) : Entails state state' answers answers
  | note {url : Url} {stage : Stage} {past : List Stage} {answers : Multiset (Url × List Stage)}
    (htrace : state'.trace = state.trace ++ [(url, stage)])
    (hvisited : state'.visited = state.visited) :
    Entails state state' ((url, past) ::ₘ answers) ((url, past ++ [stage]) ::ₘ answers)
  | take {link : Url} {answers : Multiset (Url × List Stage)} (hnew : link ∉ state.visited)
    (htrace : state'.trace = state.trace) (hvisited : state'.visited = state.visited ++ [link]) :
    Entails state state' answers ((link, []) ::ₘ answers)

/-- The stages of a page while its links are offered, which do not depend on how many are taken up. -/
def earlyStages (web : Web) (owner : Option Url) : Multiset (Url × List Stage) :=
  owner.elim 0 fun url => {(url, (stages web url 0).take 3)}

theorem standings_offering (web : Web) (owner : Option Url) {phase : Phase} (h : phase.passed = 3) :
    standings web (owner, phase) = earlyStages web owner + phase.inHand := by
  have htake : ∀ url, phase.stages web url = (stages web url 0).take 3 := by
    intro url
    unfold Phase.stages stages
    rw [h]
    split <;> rfl
  cases owner with
  | none => rfl
  | some url => simp only [standings, earlyStages, Option.elim_some, htake]

theorem standings_offers (web : Web) (owner : Option Url) (taken : Nat) (links : List Url) :
    standings web (owner, .offers taken links) = earlyStages web owner :=
  (standings_offering web owner rfl).trans (add_zero _)

theorem standings_notes (web : Web) (owner : Option Url) (taken : Nat) (link : Url) (links : List Url) :
    standings web (owner, .notes taken link links) = (link, []) ::ₘ earlyStages web owner := by
  rw [standings_offering web owner rfl, Phase.inHand, add_comm, Multiset.singleton_add]

theorem standings_submits (web : Web) (owner : Option Url) (taken : Nat) (link : Url)
    (links : List Url) :
    standings web (owner, .submits taken link links) = (link, [.queued]) ::ₘ earlyStages web owner := by
  rw [standings_offering web owner rfl, Phase.inHand, add_comm, Multiset.singleton_add]

theorem standings_some (web : Web) (url : Url) (phase : Phase) (h : phase.inHand = 0) :
    standings web (some url, phase) = (url, phase.stages web url) ::ₘ 0 := by
  rw [standings, h]
  rfl

section Task

variable {state state' : CrawlState} {phase phase' : Phase} {url : Url}

/-- A task goes on, and notes a stage of its location. -/
theorem entails_note {stage : Stage} (hstages : phase'.stages web url = phase.stages web url ++ [stage])
    (hbefore : phase.inHand = 0) (hafter : phase'.inHand = 0)
    (htrace : state'.trace = state.trace ++ [(url, stage)]) (hvisited : state'.visited = state.visited) :
    Entails state state' (standings web (some url, phase)) (standings web (some url, phase') + 0) := by
  rw [add_zero, standings_some web url phase hbefore, standings_some web url phase' hafter, hstages]
  exact .note htrace hvisited

/-- A task goes on, and notes nothing. -/
theorem entails_same (hstages : phase'.stages web url = phase.stages web url)
    (hbefore : phase.inHand = 0) (hafter : phase'.inHand = 0) (htrace : state'.trace = state.trace)
    (hvisited : state'.visited = state.visited) :
    Entails state state' (standings web (some url, phase)) (standings web (some url, phase') + 0) := by
  rw [add_zero, standings_some web url phase hbefore, standings_some web url phase' hafter, hstages]
  exact .same htrace hvisited

end Task

/-- **What a thread does to the stages when it goes on.** -/
theorem Phase.Next.entails {owner submitted : Option Url} {state state' : CrawlState}
    {phase phase' : Phase} (h : phase.Next web owner state state' submitted phase') :
    Entails state state' (standings web (owner, phase))
      (standings web (owner, phase') + submitted.elim 0 fun url => standings web (some url, .fetches)) := by
  cases h with
  | @fetch url =>
    have hstages : Phase.receives.stages web url = Phase.fetches.stages web url ++ [.fetching] := by
      unfold Phase.stages Crawl.stages
      split <;> rfl
    exact entails_note hstages rfl rfl rfl rfl
  | @skip url state h | @fail url state h =>
    have hstages : (Phase.finished 0).stages web url = Phase.receives.stages web url := by
      unfold Phase.stages Crawl.stages
      rw [h]
      rfl
    exact entails_same hstages rfl rfl rfl rfl
  | @parse url state text h =>
    have hstages : (Phase.offers 0 (pageLinks url text)).stages web url =
        Phase.receives.stages web url ++ [.parsed ((pageIndex url text).wordCount url.text)] := by
      unfold Phase.stages Crawl.stages
      rw [h]
      rfl
    exact entails_note hstages rfl rfl rfl rfl
  | pass =>
    rw [Option.elim_none, add_zero, standings_offers, standings_offers]
    exact .same rfl rfl
  | take h =>
    rw [Option.elim_none, add_zero, standings_offers, standings_notes, CrawlState.accept, if_pos h]
    exact .take (CrawlState.accepts_iff.mp h).2 rfl rfl
  | note =>
    rw [Option.elim_none, add_zero, standings_notes, standings_submits]
    exact .note rfl rfl
  | @submit owner state taken link links =>
    -- the new task answers for the link, which was queued
    have hqueued : Phase.fetches.stages web link = [.queued] := by
      unfold Phase.stages Crawl.stages
      split <;> rfl
    rw [Option.elim_some, standings_some web link .fetches rfl, hqueued, standings_submits,
      standings_offers, Multiset.add_cons, add_zero]
    exact .same rfl rfl
  | @expand url state text taken h =>
    have hstages : (Phase.absorbs taken).stages web url =
        (Phase.offers taken []).stages web url ++ [stageAfter taken] := by
      unfold Phase.stages Crawl.stages
      rw [h]
      rfl
    exact entails_note hstages rfl rfl rfl rfl
  | absorb => exact entails_same rfl rfl rfl (trace_absorb _ _) (visited_absorb _ _)
  | count => exact entails_same rfl rfl rfl rfl rfl

/-! ## The stages of a state -/

/-- Who answers for which location, and with which stages. -/
structure Accounts (state : CrawlState) (answers : Multiset (Url × List Stage)) : Prop where
  nodup : state.visited.Nodup
  visited_eq : answers.map Prod.fst = (state.visited : Multiset Url)
  stages_eq : ∀ entry ∈ answers, stagesOf state entry.1 = entry.2
  stages_nil : ∀ url ∉ state.visited, stagesOf state url = []

namespace Accounts

variable {state state' : CrawlState} {answers rest : Multiset (Url × List Stage)} {url : Url}

theorem same (h : Accounts state answers) (htrace : state'.trace = state.trace)
    (hvisited : state'.visited = state.visited) : Accounts state' answers where
  nodup := hvisited ▸ h.nodup
  visited_eq := hvisited ▸ h.visited_eq
  stages_eq entry hentry := (stagesOf_of_eq htrace entry.1).trans (h.stages_eq entry hentry)
  stages_nil url hurl := (stagesOf_of_eq htrace url).trans (h.stages_nil url (hvisited ▸ hurl))

/-- Nobody else answers for a location that somebody answers for. -/
theorem ne_of_mem {past : List Stage} (h : Accounts state ((url, past) ::ₘ rest))
    {entry : Url × List Stage} (hentry : entry ∈ rest) : entry.1 ≠ url := by
  have hall : (((url, past) ::ₘ rest).map Prod.fst).Nodup := by
    rw [h.visited_eq]
    exact Multiset.coe_nodup.mpr h.nodup
  rw [Multiset.map_cons, Multiset.nodup_cons] at hall
  rintro rfl
  exact hall.1 (Multiset.mem_map.mpr ⟨entry, hentry, rfl⟩)

/-- Whoever answers for a location notes its next stage. -/
theorem note {stage : Stage} {past : List Stage} (h : Accounts state ((url, past) ::ₘ rest))
    (htrace : state'.trace = state.trace ++ [(url, stage)]) (hvisited : state'.visited = state.visited) :
    Accounts state' ((url, past ++ [stage]) ::ₘ rest) := by
  have hnotes : ∀ other, stagesOf state' other =
      stagesOf state other ++ if url = other then [stage] else [] := fun _ => stagesOf_append htrace
  have hmem : url ∈ state.visited := by
    rw [← Multiset.mem_coe, ← h.visited_eq, Multiset.map_cons]
    exact Multiset.mem_cons_self _ _
  constructor
  case nodup => exact hvisited ▸ h.nodup
  case visited_eq => rw [hvisited, ← h.visited_eq, Multiset.map_cons, Multiset.map_cons]
  case stages_eq =>
    intro entry hentry
    rw [hnotes]
    rcases Multiset.mem_cons.mp hentry with rfl | hentry
    · rw [if_pos rfl, h.stages_eq (url, past) (Multiset.mem_cons_self _ _)]
    · rw [if_neg (h.ne_of_mem hentry).symm, List.append_nil]
      exact h.stages_eq entry (Multiset.mem_cons_of_mem hentry)
  case stages_nil =>
    intro other hother
    rw [hvisited] at hother
    have hne : url ≠ other := fun heq => hother (heq ▸ hmem)
    rw [hnotes, if_neg hne, List.append_nil, h.stages_nil other hother]

/-- Somebody takes up a location, and answers for it from then on. -/
theorem take {link : Url} (h : Accounts state answers) (hnew : link ∉ state.visited)
    (htrace : state'.trace = state.trace) (hvisited : state'.visited = state.visited ++ [link]) :
    Accounts state' ((link, []) ::ₘ answers) := by
  have hsame := stagesOf_of_eq htrace
  constructor
  case nodup =>
    rw [hvisited, List.nodup_append]
    refine ⟨h.nodup, List.nodup_singleton link, ?_⟩
    rintro other hother _ hlink rfl
    exact hnew (List.mem_singleton.mp hlink ▸ hother)
  case visited_eq =>
    rw [Multiset.map_cons, h.visited_eq, hvisited, ← Multiset.coe_add, Multiset.coe_singleton,
      add_comm, Multiset.singleton_add]
  case stages_eq =>
    intro entry hentry
    rw [hsame]
    rcases Multiset.mem_cons.mp hentry with rfl | hentry
    · exact h.stages_nil link hnew
    · exact h.stages_eq entry hentry
  case stages_nil =>
    intro other hother
    rw [hvisited] at hother
    rw [hsame]
    exact h.stages_nil other fun hmem => hother (List.mem_append_left _ hmem)

theorem next {answers' : Multiset (Url × List Stage)} (h : Accounts state (answers + rest))
    (hentails : Entails state state' answers answers') : Accounts state' (answers' + rest) := by
  cases hentails with
  | same htrace hvisited => exact h.same htrace hvisited
  | note htrace hvisited =>
    rw [Multiset.cons_add] at h ⊢
    exact h.note htrace hvisited
  | take hnew htrace hvisited =>
    rw [Multiset.cons_add]
    exact h.take hnew htrace hvisited

end Accounts

/-! ## Who takes up what -/

/-- A thread that goes on takes up one of its links, or none. -/
theorem Phase.Next.takes {owner submitted : Option Url} {state state' : CrawlState}
    {phase phase' : Phase} (h : phase.Next web owner state state' submitted phase') :
    state'.visited = state.visited ∧ phase'.taken = phase.taken ∨
      submitted = none ∧ ∃ link ∈ phase.links, link ∉ state.visited ∧
        state'.visited = state.visited ++ [link] ∧ phase'.taken = phase.taken + 1 := by
  cases h with
  | @take owner state taken link links h =>
    rw [CrawlState.accept, if_pos h]
    exact .inr ⟨rfl, link, List.mem_cons_self, (CrawlState.accepts_iff.mp h).2, rfl, rfl⟩
  | absorb => exact .inl ⟨visited_absorb _ _, rfl⟩
  | _ => exact .inl ⟨rfl, rfl⟩

/-- A thread offers what it has to offer, whoever it is. -/
theorem Phase.Next.links_subset {owner submitted : Option Url} {state state' : CrawlState}
    {phase phase' : Phase} (h : phase.Next web owner state state' submitted phase')
    (hlinks : phase.links ⊆ offeredBy web seed owner) : phase'.links ⊆ offeredBy web seed owner := by
  cases h with
  | @parse url state text h =>
    have hoffered : offeredBy web seed (some url) = pageLinks url text := by
      rw [offeredBy, linksOf, h]
    rw [hoffered]
    exact List.Subset.refl _
  | pass | take => exact List.Subset.trans (List.subset_cons_self _ _) hlinks
  | note | submit => exact hlinks
  | _ => exact List.nil_subset _

/-! ## The stages of a course -/

/-- The locations that the threads of a course answer for, with their stages. -/
def Course.answers (web : Web) (course : Course) : Multiset (Url × List Stage) :=
  (course.threads.map (standings web)).sum

/-- What the stages of a crawl have to do with the phases of its threads, and with who has taken up what. -/
structure IsTracked (web : Web) (seed : Url) (log : List (Option Url × Url)) (course : Course) :
    Prop where
  accounts : Accounts course.state (course.answers web)
  log_eq : log.map Prod.snd = course.state.visited
  log_source : ∀ entry ∈ log, entry.1 ∈ course.threads.map Prod.fst ∧
    entry.2 ∈ offeredBy web seed entry.1
  taken_eq : ∀ thread ∈ course.threads, takenBy log thread.1 = thread.2.taken
  links_subset : ∀ thread ∈ course.threads, thread.2.links ⊆ offeredBy web seed thread.1

/-- What a list comes to before and after one of its members has changed. -/
theorem exists_sum_set {β M : Type} [AddCommMonoid M] (g : β → M) {l : List β} {i : Nat} {b : β}
    (h : l[i]? = some b) :
    ∃ rest, (l.map g).sum = g b + rest ∧ ∀ b', ((l.set i b').map g).sum = g b' + rest := by
  induction l generalizing i with
  | nil => cases h
  | cons c l ih =>
    cases i with
    | zero =>
      cases h
      exact ⟨(l.map g).sum, List.sum_cons, fun b' => List.sum_cons⟩
    | succ i =>
      obtain ⟨rest, hsum, hset⟩ := ih h
      refine ⟨g c + rest, ?_, fun b' => ?_⟩
      · rw [List.map_cons, List.sum_cons, hsum, add_left_comm]
      · rw [List.set_cons_succ, List.map_cons, List.sum_cons, hset, add_left_comm]

section Spawn

variable {threads : List (Option Url × Phase)} {thread : Nat} {owner submitted : Option Url}
  {phase phase' : Phase} {entry : Option Url × Phase}

/-- What the threads answer for before and after one of them goes on. -/
theorem exists_sum_standings (web : Web) (hthread : threads[thread]? = some (owner, phase)) :
    ∃ rest, (threads.map (standings web)).sum = standings web (owner, phase) + rest ∧
      ∀ phase' submitted, ((spawn threads thread owner phase' submitted).map (standings web)).sum =
        (standings web (owner, phase') +
          submitted.elim 0 fun url => standings web (some url, .fetches)) + rest := by
  obtain ⟨rest, hsum, hset⟩ := exists_sum_set (standings web) hthread
  refine ⟨rest, hsum, fun phase' submitted => ?_⟩
  unfold spawn
  rw [List.map_append, List.sum_append, hset, add_right_comm]
  cases submitted with
  | none => rfl
  | some url =>
    rw [Option.map_some, Option.toList_some, List.map_singleton, List.sum_singleton, Option.elim_some]

theorem mem_spawn (hentry : entry ∈ spawn threads thread owner phase' submitted) :
    entry ∈ threads ∨ entry = (owner, phase') ∨ ∃ url, submitted = some url ∧
      entry = (some url, .fetches) := by
  rcases List.mem_append.mp hentry with hentry | hentry
  · exact (List.mem_or_eq_of_mem_set hentry).imp_right .inl
  · cases submitted with
    | none => cases hentry
    | some url => exact .inr (.inr ⟨url, rfl, List.mem_singleton.mp hentry⟩)

variable {log log' : List (Option Url × Url)} {course course' : Course}

/-- The log tells of each thread how many links it has taken up, also after one has gone on. -/
theorem takenBy_spawn (hthread : threads[thread]? = some (owner, phase))
    (howners : ((spawn threads thread owner phase' submitted).map Prod.fst).Nodup)
    (hsource : ∀ entry ∈ log, entry.1 ∈ threads.map Prod.fst)
    (htaken : ∀ entry ∈ threads, takenBy log entry.1 = entry.2.taken)
    (hothers : ∀ other, other ≠ owner → takenBy log' other = takenBy log other)
    (howner : takenBy log' owner = phase'.taken) :
    ∀ entry ∈ spawn threads thread owner phase' submitted, takenBy log' entry.1 = entry.2.taken := by
  intro entry hentry
  by_cases heq : entry.1 = owner
  · -- a thread is known by the location that it visits
    have hmem : (owner, phase') ∈ spawn threads thread owner phase' submitted :=
      List.mem_of_getElem? (spawn_self hthread)
    obtain rfl : entry = (owner, phase') := List.inj_on_of_nodup_map howners hentry hmem heq
    exact howner
  · rw [hothers entry.1 heq]
    rcases mem_spawn hentry with hentry | rfl | ⟨url, rfl, rfl⟩
    · exact htaken entry hentry
    · exact absurd rfl heq
    · -- nobody has taken up anything for a task that is new
      rw [spawn_owners hthread, List.nodup_append] at howners
      refine takenBy_eq_zero fun past hpast heq => ?_
      exact howners.2.2 past.1 (hsource past hpast) (some url) (List.mem_singleton_self _) heq

theorem Course.Next.accounts (hnext : course.Next web owner course')
    (h : Accounts course.state (course.answers web)) : Accounts course'.state (course'.answers web) := by
  obtain ⟨hthread, hphase⟩ := hnext
  obtain ⟨rest, hsum, hspawn⟩ := exists_sum_standings web hthread
  rw [Course.answers, hsum] at h
  rw [Course.answers, hspawn]
  exact h.next hphase.entails

theorem Course.Next.links_subset (hnext : course.Next web owner course')
    (h : ∀ entry ∈ course.threads, entry.2.links ⊆ offeredBy web seed entry.1) :
    ∀ entry ∈ course'.threads, entry.2.links ⊆ offeredBy web seed entry.1 := by
  obtain ⟨hthread, hphase⟩ := hnext
  intro entry hentry
  rcases mem_spawn hentry with hentry | rfl | ⟨url, -, rfl⟩
  · exact h entry hentry
  · exact hphase.links_subset (h _ (List.mem_of_getElem? hthread))
  · exact List.nil_subset _

/-- Who was there is there after a step. -/
theorem Course.Next.owners_subset (hnext : course.Next web owner course') :
    course.threads.map Prod.fst ⊆ course'.threads.map Prod.fst := by
  obtain ⟨hthread, -⟩ := hnext
  rw [spawn_owners hthread]
  exact List.subset_append_left _ _

/-- Threads that go on leave a log that is extended by what was taken up. -/
theorem IsTracked.next (h : IsTracked web seed log course) (hnext : course.Next web owner course')
    (howners : (course'.threads.map Prod.fst).Nodup) :
    IsTracked web seed (log ++ (course'.state.visited.filter fun url =>
      url ∉ course.state.visited).map (owner, ·)) course' := by
  have haccounts := hnext.accounts h.accounts
  have hlinks := hnext.links_subset h.links_subset
  have hold : ∀ entry ∈ log, entry.1 ∈ course'.threads.map Prod.fst ∧
      entry.2 ∈ offeredBy web seed entry.1 := fun entry hentry =>
    (h.log_source entry hentry).imp_left fun hmem => hnext.owners_subset hmem
  obtain @⟨thread, phase, phase', state', submitted, hthread, hphase⟩ := hnext
  have hmem : (owner, phase) ∈ course.threads := List.mem_of_getElem? hthread
  have hsource : ∀ entry ∈ log, entry.1 ∈ course.threads.map Prod.fst := fun entry hentry =>
    (h.log_source entry hentry).1
  rcases hphase.takes with ⟨hvisited, hsame⟩ | ⟨-, link, hlink, hnew, hvisited, hmore⟩
  · -- nothing was taken up
    have hlog : log ++ (state'.visited.filter fun url => url ∉ course.state.visited).map (owner, ·) =
        log := by
      rw [hvisited]
      simp
    dsimp only
    rw [hlog]
    refine ⟨haccounts, h.log_eq.trans hvisited.symm, hold, ?_, hlinks⟩
    refine takenBy_spawn hthread howners hsource h.taken_eq (fun _ _ => rfl) ?_
    rw [hsame]
    exact h.taken_eq _ hmem
  · have hlog : log ++ (state'.visited.filter fun url => url ∉ course.state.visited).map (owner, ·) =
        log ++ [(owner, link)] := by
      rw [hvisited]
      simp [List.filter_append, hnew]
    dsimp only
    rw [hlog]
    refine ⟨haccounts, ?_, fun entry hentry => ?_,
      takenBy_spawn hthread howners hsource h.taken_eq (fun other hne => ?_) ?_, hlinks⟩
    · rw [List.map_append, h.log_eq, hvisited]
      rfl
    · rcases List.mem_append.mp hentry with hentry | hentry
      · exact hold entry hentry
      · rw [List.mem_singleton.mp hentry]
        exact ⟨List.mem_map_of_mem (List.mem_of_getElem? (spawn_self hthread)), h.links_subset _ hmem hlink⟩
    · rw [takenBy_append, if_neg hne.symm]
      rfl
    · rw [takenBy_append, if_pos rfl, h.taken_eq _ hmem]
      exact hmore.symm

end Spawn

theorem isTracked_start (state : CrawlState) (hvisited : state.visited = []) (htrace : state.trace = []) :
    IsTracked web seed [] ⟨state, [(none, .offers 0 [seed.withoutFragment])]⟩ where
  accounts := by
    have hnone : Course.answers web ⟨state, [(none, .offers 0 [seed.withoutFragment])]⟩ = 0 := by
      rw [Course.answers, List.map_singleton, List.sum_singleton, standings_offers]
      rfl
    rw [hnone]
    refine ⟨?_, ?_, fun entry hentry => absurd hentry (Multiset.notMem_zero entry), fun url _ => ?_⟩
    · rw [hvisited]
      exact List.nodup_nil
    · rw [hvisited]
      rfl
    · rw [stagesOf, htrace]
      rfl
  log_eq := hvisited.symm
  log_source entry hentry := absurd hentry List.not_mem_nil
  taken_eq thread hthread := by
    rw [List.mem_singleton.mp hthread]
    rfl
  links_subset thread hthread := by
    rw [List.mem_singleton.mp hthread]
    exact List.Subset.refl _

variable {index : Index} {cap : Nat} {start pool last : Pool Url CrawlState CrawlReport}
  {refused : List Url} {log : List (Option Url × Url)} {course : Course}

/-- **The stages are those that the phases of the threads tell**, after every run. -/
theorem IsTracked.run (hstart : start.IsUnused (.start index cap) [crawl seed])
    (hreached : Pool.Reached (· = visit web) start pool refused) (hfollows : Follows web pool course)
    (h : IsTracked web seed log course) {events : List Event}
    (hrun : pool.run (visit web) events = some last) :
    ∃ course', Follows web last course' ∧
      IsTracked web seed (log ++ uptakes web pool events) course' := by
  induction events generalizing pool refused log course with
  | nil =>
    cases hrun
    rw [uptakes, List.append_nil]
    exact ⟨course, hfollows, h⟩
  | cons event rest ih =>
    obtain ⟨next, hstep, hrest⟩ := Option.bind_eq_some_iff.mp hrun
    have hnext := hreached.step (by rfl) hstep
    obtain ⟨course', hcourse, hfollows'⟩ :=
      hfollows.moves (hreached.isOrderly hstart) (Pool.moves_of_step hstep)
    have htracked : IsTracked web seed (log ++ (next.memory.visited.filter fun url =>
        url ∉ pool.memory.visited).map (pool.taskOf event, ·)) course' := by
      rw [hfollows'.memory_eq, hfollows.memory_eq]
      rcases hcourse with rfl | hcourse
      · -- where the course stays, nothing was taken up
        have hnone : (course'.state.visited.filter fun url => url ∉ course'.state.visited) = [] := by
          simp
        rw [hnone, List.map_nil, List.append_nil]
        exact h
      · refine h.next hcourse ?_
        -- no location is accepted twice, so tasks are known by theirs
        obtain ⟨_, _, _, hbooks⟩ := exists_balances hstart.toIsReady hnext
        rw [hfollows'.owners_eq, List.nodup_cons]
        refine ⟨by simp, hbooks.accepted_nodup.map (Option.some_injective Url)⟩
    rw [uptakes, hstep]
    dsimp only
    rw [← List.append_assoc]
    exact ih hnext hfollows' htracked hrest

/-! ## The stages of a crawl -/

/-- The stages of a crawl after a run, with the log of who has taken up which locations. -/
structure IsStaged (web : Web) (seed : Url) (log : List (Option Url × Url))
    (pool : Pool Url CrawlState CrawlReport) : Prop where
  /-- A location that was taken up has come through some of its stages, in their order and each once. -/
  isPrefix_stages : ∀ url ∈ pool.memory.visited,
    stagesOf pool.memory url <+: stages web url (takenBy log (some url))
  stages_nil : ∀ url ∉ pool.memory.visited, stagesOf pool.memory url = []
  /-- No location is fetched before it was queued. -/
  queued_before : ∀ url before after, pool.memory.trace = before ++ (url, .fetching) :: after →
    (url, .queued) ∈ before
  /-- A page is expanded only if some of its links were taken up, and terminal only if none was. -/
  expanded : ∀ url accepted, (url, .expanded accepted) ∈ pool.memory.trace →
    accepted = takenBy log (some url) ∧ 0 < accepted
  terminal : ∀ url, (url, .terminal) ∈ pool.memory.trace → takenBy log (some url) = 0
  /-- Each location is taken up once. -/
  nodup : pool.memory.visited.Nodup
  log_eq : log.map Prod.snd = pool.memory.visited
  /-- Tasks take up links of their page, and the client takes up the seed. -/
  ofTask : ∀ page link, (some page, link) ∈ log →
    page ∈ pool.memory.visited ∧ link ∈ linksOf web page
  ofClient : ∀ link, (none, link) ∈ log → link = seed.withoutFragment
  /-- When the crawl has returned, each location has come through all of its stages, and what was taken up
  for all pages, and the seed, is what the report counts. -/
  returned : ∀ report, pool.result? 0 = some report →
    (∀ url ∈ pool.memory.visited,
      stagesOf pool.memory url = stages web url (takenBy log (some url))) ∧
    report.enqueued = (pool.memory.visited.map fun url => takenBy log (some url)).sum +
      if (none, seed.withoutFragment) ∈ log then 1 else 0

theorem mem_stagesOf {state : CrawlState} {url : Url} {stage : Stage} :
    stage ∈ stagesOf state url ↔ (url, stage) ∈ state.trace := by
  simp [stagesOf, List.mem_map, List.mem_filter]

theorem mem_sum {β γ : Type} (g : β → Multiset γ) {l : List β} {c : γ} :
    c ∈ (l.map g).sum ↔ ∃ b ∈ l, c ∈ g b := by
  induction l with
  | nil => simp
  | cons b l ih =>
    rw [List.map_cons, List.sum_cons, Multiset.mem_add, ih]
    simp

/-- Whoever answers for a location, its stages come in their order. -/
theorem isPrefix_of_mem_standings {owner : Option Url} {phase : Phase} {entry : Url × List Stage}
    (h : entry ∈ standings web (owner, phase)) {taken : Nat}
    (htaken : owner = some entry.1 → taken = phase.taken) : entry.2 <+: stages web entry.1 taken := by
  rcases Multiset.mem_add.mp h with hvisits | hinHand
  · cases owner with
    | none => exact absurd hvisits (Multiset.notMem_zero entry)
    | some url =>
      rw [Multiset.mem_singleton.mp hvisits] at htaken ⊢
      rw [htaken rfl]
      exact List.take_prefix _ _
  · cases phase with
    | notes =>
      rw [Multiset.mem_singleton.mp hinHand]
      exact List.nil_prefix
    | submits =>
      rw [Multiset.mem_singleton.mp hinHand]
      unfold stages
      split <;> exact ⟨_, rfl⟩
    | _ => exact absurd hinHand (Multiset.notMem_zero entry)

theorem IsTracked.exists_thread (h : IsTracked web seed log course) {url : Url}
    (hurl : url ∈ course.state.visited) :
    ∃ thread ∈ course.threads, (url, stagesOf course.state url) ∈ standings web thread := by
  have hmem : url ∈ (course.answers web).map Prod.fst := by
    rw [h.accounts.visited_eq]
    exact hurl
  obtain ⟨entry, hentry, rfl⟩ := Multiset.mem_map.mp hmem
  rw [h.accounts.stages_eq entry hentry]
  exact (mem_sum (standings web)).mp hentry

theorem IsTracked.isPrefix_stages (h : IsTracked web seed log course) {url : Url}
    (hurl : url ∈ course.state.visited) :
    stagesOf course.state url <+: stages web url (takenBy log (some url)) := by
  obtain ⟨⟨owner, phase⟩, hthread, hstandings⟩ := h.exists_thread hurl
  refine isPrefix_of_mem_standings hstandings ?_
  rintro rfl
  exact h.taken_eq _ hthread

/-- A location whose task is finished has come through all of its stages. -/
theorem IsTracked.stagesOf_of_finished (h : IsTracked web seed log course) {url : Url} {taken : Nat}
    (hthread : (some url, .finished taken) ∈ course.threads) :
    stagesOf course.state url = stages web url (takenBy log (some url)) := by
  have hentry : (url, (Phase.finished taken).stages web url) ∈ course.answers web := by
    refine (mem_sum (standings web)).mpr ⟨_, hthread, ?_⟩
    rw [standings_some web url (.finished taken) rfl]
    exact Multiset.mem_cons_self _ _
  rw [h.accounts.stages_eq _ hentry, h.taken_eq _ hthread]
  unfold Phase.stages stages
  split <;> rfl

/-- Everything is taken up by somebody. -/
theorem length_eq_sum_takenBy {urls : List Url} (hnodup : urls.Nodup)
    (hlog : ∀ entry ∈ log, entry.1 ∈ none :: urls.map some) :
    log.length = (urls.map fun url => takenBy log (some url)).sum + takenBy log none := by
  have hcount : ∀ owner, (log.map Prod.fst : Multiset (Option Url)).count owner = takenBy log owner := by
    intro owner
    rw [Multiset.coe_count]
    unfold List.count takenBy
    rw [List.countP_map]
    exact List.countP_congr fun entry _ => by simp
  have hall : (none :: urls.map some).Nodup := by
    rw [List.nodup_cons]
    exact ⟨by simp, hnodup.map (Option.some_injective Url)⟩
  have hcard : ∑ owner ∈ (none :: urls.map some).toFinset,
      (log.map Prod.fst : Multiset (Option Url)).count owner = log.length := by
    rw [Multiset.sum_count_eq_card, Multiset.coe_card, List.length_map]
    intro owner howner
    obtain ⟨entry, hentry, rfl⟩ := List.mem_map.mp howner
    exact List.mem_toFinset.mpr (hlog entry hentry)
  rw [List.sum_toFinset _ hall, List.map_cons, List.sum_cons, List.map_map] at hcard
  rw [← hcard, add_comm]
  simp only [hcount, Function.comp_def]

/-- The client takes up the seed once, if at all. -/
theorem takenBy_none_eq (hnodup : log.Nodup) {url : Url}
    (hclient : ∀ link, (none, link) ∈ log → link = url) :
    takenBy log none = if (none, url) ∈ log then 1 else 0 := by
  have hcount : takenBy log none = log.count (none, url) := by
    unfold takenBy List.count
    refine List.countP_congr fun entry hentry => ?_
    obtain ⟨owner, link⟩ := entry
    constructor
    · intro howner
      obtain rfl : owner = none := by simpa using howner
      rw [hclient link hentry]
      simp
    · intro heq
      obtain ⟨rfl, -⟩ : owner = none ∧ link = url := by simpa using heq
      simp
  rw [hcount]
  split
  · next hmem => exact List.count_eq_one_of_mem hnodup hmem
  · next hmem => exact List.count_eq_zero_of_not_mem hmem

/-- What was taken up is what was taken up for pages, and the seed. -/
theorem length_eq_sum {urls : List Url} (hnodup : urls.Nodup) (hlog : log.map Prod.snd = urls)
    (howners : ∀ entry ∈ log, entry.1 ∈ none :: urls.map some) {first : Url}
    (hclient : ∀ link, (none, link) ∈ log → link = first) :
    urls.length = (urls.map fun url => takenBy log (some url)).sum +
      if (none, first) ∈ log then 1 else 0 := by
  have hlogNodup : log.Nodup := by
    refine List.Nodup.of_map Prod.snd ?_
    rw [hlog]
    exact hnodup
  have hlength : urls.length = log.length := by rw [← hlog, List.length_map]
  rw [hlength, length_eq_sum_takenBy hnodup howners, takenBy_none_eq hlogNodup hclient]

theorem mem_visited_of_mem_trace {state : CrawlState} (hnil : ∀ url ∉ state.visited, stagesOf state url = [])
    {url : Url} {stage : Stage} (h : (url, stage) ∈ state.trace) : url ∈ state.visited := by
  by_contra hnew
  have hstage := mem_stagesOf.mpr h
  rw [hnil url hnew] at hstage
  cases hstage

/-- Before a location is fetched, it is queued. -/
theorem queued_mem_of_isPrefix {state : CrawlState} {url : Url} {taken : Nat}
    {before after : List (Url × Stage)} (hbegun : stagesOf state url <+: stages web url taken)
    (htrace : state.trace = before ++ (url, .fetching) :: after) : (url, .queued) ∈ before := by
  have hfirst : ∃ rest, stages web url taken = .queued :: rest := by
    unfold stages
    split <;> exact ⟨_, rfl⟩
  obtain ⟨rest, hrest⟩ := hfirst
  have hstages : stagesOf state url = (before.filter fun entry => entry.1 = url).map Prod.snd ++
      .fetching :: (after.filter fun entry => entry.1 = url).map Prod.snd := by
    simp [stagesOf, htrace, List.filter_append]
  rw [hstages, hrest] at hbegun
  cases hpast : (before.filter fun entry => entry.1 = url).map Prod.snd with
  | nil =>
    rw [hpast, List.nil_append, List.cons_prefix_cons] at hbegun
    cases hbegun.1
  | cons stage past =>
    rw [hpast, List.cons_append, List.cons_prefix_cons] at hbegun
    have hmem : .queued ∈ (before.filter fun entry => entry.1 = url).map Prod.snd := by
      rw [hpast, hbegun.1]
      exact List.mem_cons_self
    simpa [List.mem_map, List.mem_filter] using hmem

theorem of_expanded_mem_stages {url : Url} {taken accepted : Nat}
    (h : .expanded accepted ∈ stages web url taken) : accepted = taken ∧ 0 < accepted := by
  unfold stages stageAfter at h
  split at h
  · split at h
    · next hpos =>
      obtain rfl : accepted = taken := by simpa using h
      exact ⟨rfl, hpos⟩
    · simp at h
  · simp at h
  · simp at h

theorem of_terminal_mem_stages {url : Url} {taken : Nat} (h : .terminal ∈ stages web url taken) :
    taken = 0 := by
  unfold stages stageAfter at h
  split at h
  · split at h
    · simp at h
    · next hpos => exact Nat.eq_zero_of_not_pos hpos
  · simp at h
  · simp at h

/-- Whatever was noted of a location is one of its stages. -/
theorem IsTracked.mem_stages (h : IsTracked web seed log course) {url : Url} {stage : Stage}
    (hstage : (url, stage) ∈ course.state.trace) : stage ∈ stages web url (takenBy log (some url)) := by
  have hurl := mem_visited_of_mem_trace h.accounts.stages_nil hstage
  exact (h.isPrefix_stages hurl).subset (mem_stagesOf.mpr hstage)

/-- The client takes up nothing but the seed. -/
theorem IsTracked.eq_seed (h : IsTracked web seed log course) {link : Url} (hlink : (none, link) ∈ log) :
    link = seed.withoutFragment :=
  List.mem_singleton.mp (h.log_source _ hlink).2

/-- What was taken up for all pages, and the seed, is all that was visited. -/
theorem IsTracked.length_visited (h : IsTracked web seed log course)
    (howners : ∀ entry ∈ log, entry.1 ∈ none :: course.state.visited.map some) :
    course.state.visited.length = (course.state.visited.map fun url => takenBy log (some url)).sum +
      if (none, seed.withoutFragment) ∈ log then 1 else 0 :=
  length_eq_sum h.accounts.nodup h.log_eq howners fun _ hlink => h.eq_seed hlink

/-- **The stages of every location come in their order**, whatever is fetched and however the threads of a
crawl are scheduled. -/
theorem isStaged_of_run (hstart : start.IsUnused (.start index cap) [crawl seed])
    (hopen : start.isShutdown = false) {events : List Event}
    (h : start.run (visit web) events = some pool) :
    IsStaged web seed (uptakes web start events) pool := by
  have hreached : Pool.Reached (· = visit web) start pool _ := .of_run (by rfl) h
  have hinitial : IsTracked web seed [] ⟨.start index cap, [(none, .offers 0 [seed.withoutFragment])]⟩ :=
    isTracked_start _ rfl rfl
  obtain ⟨course, hfollows, htracked⟩ := hinitial.run hstart .start (.start hstart hopen) h
  rw [List.nil_append] at htracked
  obtain ⟨_, _, _, hbooks⟩ := exists_balances hstart.toIsReady hreached
  have hmemory := hfollows.memory_eq
  have howners : ∀ entry ∈ uptakes web start events, entry.1 ∈ none :: pool.accepted.map some := by
    rw [← hfollows.owners_eq]
    exact fun entry hentry => (htracked.log_source entry hentry).1
  constructor
  case isPrefix_stages =>
    rw [hmemory]
    exact fun url hurl => htracked.isPrefix_stages hurl
  case stages_nil =>
    rw [hmemory]
    exact htracked.accounts.stages_nil
  case queued_before =>
    rw [hmemory]
    intro url before after htrace
    have hmem : (url, .fetching) ∈ course.state.trace := by
      rw [htrace]
      exact List.mem_append_right _ List.mem_cons_self
    have hurl := mem_visited_of_mem_trace htracked.accounts.stages_nil hmem
    exact queued_mem_of_isPrefix (htracked.isPrefix_stages hurl) htrace
  case expanded =>
    rw [hmemory]
    exact fun url accepted hmem => of_expanded_mem_stages (htracked.mem_stages hmem)
  case terminal =>
    rw [hmemory]
    exact fun url hmem => of_terminal_mem_stages (htracked.mem_stages hmem)
  case nodup => exact hbooks.nodup
  case log_eq =>
    rw [hmemory]
    exact htracked.log_eq
  case ofTask =>
    intro page link hlink
    refine ⟨?_, (htracked.log_source _ hlink).2⟩
    -- the page was accepted, since its task has taken up something
    have hpage := howners _ hlink
    rw [List.mem_cons] at hpage
    obtain ⟨other, hother, heq⟩ := List.mem_map.mp (hpage.resolve_left (by simp))
    cases heq
    exact hbooks.accepted_subset hother
  case ofClient => exact fun link hlink => htracked.eq_seed hlink
  case returned =>
    intro report hreport
    have hreturning := isReturning_of_reached hstart.toIsReady (by simp) hreached
    have hended := hreached.allEnded_of_result hstart hreturning hreport
    obtain ⟨rfl, hdone⟩ := balances_of_result hstart.toIsReady (by simp) (reached_any hreached) hreport
    have hperm : course.state.visited.Perm pool.accepted := hmemory ▸ hdone.visited_perm
    have henqueued : course.state.enqueued = course.state.visited.length := hmemory ▸ hbooks.enqueued_eq
    rw [hmemory]
    constructor
    · intro url hurl
      obtain ⟨taken, hthread⟩ := hfollows.finished hended (hperm.mem_iff.mp hurl)
      exact htracked.stagesOf_of_finished hthread
    · rw [CrawlState.report, henqueued]
      -- what was accepted is all that was visited
      refine htracked.length_visited fun entry hentry => ?_
      have howner := howners entry hentry
      rw [List.mem_cons] at howner ⊢
      exact howner.imp_right fun hmem => List.map_subset _ hperm.symm.subset hmem

/-- Two workers crawl from a page with one link to a page with two, of which one is known and the cap has no
room for the other. -/
theorem isStaged_of_two_pages :
    ∃ (web : Web) (seed next : Url) (pool : Pool Url CrawlState CrawlReport) (events : List Event),
      (Pool.start 2 (.start ∅ 2) [crawl seed]).run (visit web) events = some pool ∧
      pool.result? 0 = some ⟨2, 2, 0, 0⟩ ∧
      stagesOf pool.memory seed.withoutFragment = [.queued, .fetching, .parsed 1, .expanded 1] ∧
      stagesOf pool.memory next = [.queued, .fetching, .parsed 2, .terminal] ∧
      IsStaged web seed (uptakes web (Pool.start 2 (.start ∅ 2) [crawl seed]) events) pool := by
  let seed : Url :=
    ⟨"http", some ⟨"", "", .name "a.test", none⟩, .segments [""], none, some "top"⟩
  let next : Url := ⟨"http", some ⟨"", "", .name "a.test", none⟩, .segments ["next"], none, none⟩
  let web : Web := fun url =>
    if url = seed.withoutFragment then .page "<a href='/next'>next</a>"
    else if url = next then .page "<a href='/'>home</a> <a href='/more'>more</a>" else .broken
  let start : Pool Url CrawlState CrawlReport := .start 2 (.start ∅ 2) [crawl seed]
  obtain ⟨events, hevents⟩ := Pool.exists_run_settle (visit web) start 80
  have hreport : (start.settle (visit web) 80).result? 0 = some ⟨2, 2, 0, 0⟩ := by decide +kernel
  have hseed : stagesOf (start.settle (visit web) 80).memory seed.withoutFragment =
      [.queued, .fetching, .parsed 1, .expanded 1] := by decide +kernel
  have hnext : stagesOf (start.settle (visit web) 80).memory next =
      [.queued, .fetching, .parsed 2, .terminal] := by decide +kernel
  exact ⟨web, seed, next, _, events, hevents, hreport, hseed, hnext,
    isStaged_of_run (Pool.isUnused_start 2 _ _) rfl hevents⟩

end Concordance.Crawl
