import Concordance.Proofs.Crawl.Completeness
import Concordance.Proofs.Crawl.Course
import Concordance.Proofs.Crawl.Traversal
import Concordance.Proofs.Index.Merging
import Concordance.Proofs.Pool.Execution

/-!
# Crawls with one worker

A crawl has no queue of its own: its tasks submit others to the pool. A single worker ends one task before it
starts the next, in the order in which they were submitted, so the pool is the queue of a breadth-first
traversal. At every moment, the state of the crawl is that of a traversal in the middle of looking at one
location; what is left of both comes to the same.

## Main definitions

* `Traversal.ofState`: the state of a crawl as a traversal
* `Phase.complete`: what is left of looking at a location
* `Stands`: where a crawl with one worker stands
* `IsBreadthFirst`: what a crawl has in common with a traversal

## Main results

* `Phase.Next.complete_eq`: a step leaves less to do, and nothing else
* `Stands.next`: where a crawl stands after a step
* `isBreadthFirst_of_size`: a crawl with one worker is a breadth-first traversal
-/

namespace Concordance.Crawl

variable {web : Web} {seed : Url} {cap : Nat} {owner submitted : Option Url} {phase phase' : Phase}
  {state state' : CrawlState}

/-! ## What is left of looking at a location -/

namespace Traversal

/-- The state of a crawl as a traversal that has still to look at some locations. -/
def ofState (state : CrawlState) (queue : List Url) : Traversal :=
  ⟨queue, state.visited, state.index, state.indexed, state.skipped, state.failed⟩

/-- The page of a task is added, if it has one. -/
def addPageOf (web : Web) (t : Traversal) : Option Url → Traversal
  | none => t
  | some url =>
    match web url with
    | .page text => t.addPage (pageIndex url text)
    | .other | .broken => t

theorem look_of_page {url : Url} {text : String} (h : web url = .page text) (t : Traversal) :
    t.look web cap url = ((pageLinks url text).foldl (offer cap) t).addPageOf web (some url) := by
  simp only [look, addPageOf, h]

theorem look_of_other {url : Url} (h : web url = .other) (t : Traversal) :
    t.look web cap url = { t with skipped := t.skipped + 1 } := by
  simp only [look, h]

theorem look_of_broken {url : Url} (h : web url = .broken) (t : Traversal) :
    t.look web cap url = { t with failed := t.failed + 1 } := by
  simp only [look, h]

theorem addPageOf_of_page {url : Url} {text : String} (h : web url = .page text) (t : Traversal) :
    t.addPageOf web (some url) = t.addPage (pageIndex url text) := by
  simp only [addPageOf, h]

theorem admitted_addPageOf (web : Web) (t : Traversal) (owner : Option Url) :
    (t.addPageOf web owner).admitted = t.admitted := by
  cases owner with
  | none => rfl
  | some url =>
    unfold addPageOf
    dsimp only
    split
    · exact admitted_addPage t _
    · rfl
    · rfl

theorem addPage_ofState (state : CrawlState) (queue : List Url) (page : Index) :
    (ofState state queue).addPage page =
      { ofState (state.absorb page) queue with
        indexed := (ofState (state.absorb page) queue).indexed + 1 } := by
  have hindex : (state.absorb page).index = state.index.merge page := Index.absorb_eq_merge _ _
  unfold addPage ofState
  rw [hindex]
  rfl

theorem admits_iff (hcap : state.cap = cap) (henqueued : state.enqueued = state.visited.length)
    {queue : List Url} {url : Url} :
    (url ∉ (ofState state queue).admitted ∧ (ofState state queue).admitted.length < cap) ↔
      state.accepts url = true := by
  rw [CrawlState.accepts_iff, hcap, henqueued]
  exact and_comm

/-- A crawl takes up what a traversal admits. -/
theorem offer_of_accepts (hcap : state.cap = cap) (henqueued : state.enqueued = state.visited.length)
    (queue : List Url) {url : Url} (h : state.accepts url = true) :
    (ofState state queue).offer cap url = ofState (state.accept url) (queue ++ [url]) := by
  rw [offer, if_pos ((admits_iff hcap henqueued).mpr h), CrawlState.accept, if_pos h]
  rfl

theorem offer_of_refuses (hcap : state.cap = cap) (henqueued : state.enqueued = state.visited.length)
    (queue : List Url) {url : Url} (h : state.accepts url = false) :
    (ofState state queue).offer cap url = ofState state queue := by
  rw [offer, if_neg ((admits_iff hcap henqueued).not.mpr (Bool.eq_false_iff.mp h))]

end Traversal

namespace Phase

/-- What a traversal comes to when a thread has done all that it has left to do. -/
def complete (web : Web) (cap : Nat) (owner : Option Url) (t : Traversal) : Phase → Traversal
  | .fetches | .receives => owner.elim t (t.look web cap)
  | .offers _ links | .notes _ _ links | .submits _ _ links =>
    (links.foldl (Traversal.offer cap) t).addPageOf web owner
  | .absorbs _ => t.addPageOf web owner
  | .counts _ => { t with indexed := t.indexed + 1 }
  | .finished _ => t

/-- The link that a thread has taken up and not submitted yet. -/
def inHand? : Phase → Option Url
  | .notes _ link _ | .submits _ link _ => some link
  | _ => none

/-- The location that a thread has fetched. -/
def fetched? (owner : Option Url) : Phase → Option Url
  | .fetches => none
  | _ => owner

theorem fetched?_isPrefix (phase : Phase) (owner : Option Url) :
    (phase.fetched? owner).toList <+: owner.toList := by
  cases phase with
  | fetches => exact List.nil_prefix
  | _ => exact List.prefix_rfl

theorem admitted_complete (web : Web) (cap : Nat) (owner : Option Url) (t : Traversal) (phase : Phase) :
    t.admitted <+: (phase.complete web cap owner t).admitted := by
  cases phase with
  | fetches | receives =>
    cases owner with
    | none => exact List.prefix_rfl
    | some url => exact Traversal.admitted_look web cap t url
  | offers _ links | notes _ _ links | submits _ _ links =>
    rw [complete, Traversal.admitted_addPageOf]
    exact Traversal.admitted_foldl cap links t
  | absorbs =>
    rw [complete, Traversal.admitted_addPageOf]
  | counts | finished => exact List.prefix_rfl

/-- **A step leaves less to do, and nothing else.** The locations in hand are looked at after those that
wait, so a task that is submitted takes its turn. -/
theorem Next.complete_eq (h : phase.Next web owner state state' submitted phase')
    (hcap : state.cap = cap) (henqueued : state.enqueued = state.visited.length) (waiting : List Url) :
    phase.complete web cap owner (.ofState state (waiting ++ phase.inHand?.toList)) =
      phase'.complete web cap owner
        (.ofState state' (waiting ++ (submitted.toList ++ phase'.inHand?.toList))) := by
  cases h with
  | fetch | note | submit | expand | count => rfl
  | skip h =>
    rw [complete, Option.elim_some, Traversal.look_of_other h]
    rfl
  | fail h =>
    rw [complete, Option.elim_some, Traversal.look_of_broken h]
    rfl
  | parse h =>
    rw [complete, Option.elim_some, Traversal.look_of_page h]
    rfl
  | @pass _ _ taken link links h =>
    rw [complete, List.foldl_cons, Traversal.offer_of_refuses hcap henqueued _ h]
    rfl
  | @take _ _ taken link links h =>
    -- the link is in hand, and so behind those that wait
    rw [complete, List.foldl_cons, Traversal.offer_of_accepts hcap henqueued _ h]
    simp only [inHand?, Option.toList_none, Option.toList_some, List.append_nil, List.nil_append]
    rfl
  | absorb h =>
    rw [complete, Traversal.addPageOf_of_page h, Traversal.addPage_ofState]
    rfl

theorem Next.visited_eq (h : phase.Next web owner state state' submitted phase') {others : List Url}
    (hvisited : state.visited = others ++ phase.inHand?.toList) :
    state'.visited = others ++ (submitted.toList ++ phase'.inHand?.toList) := by
  cases h with
  | @take _ _ taken link links h =>
    rw [CrawlState.accept, if_pos h]
    dsimp only
    rw [hvisited]
    simp [inHand?]
  | absorb => exact (visited_absorb _ _).trans hvisited
  | _ => exact hvisited

theorem Next.fetched_eq (h : phase.Next web owner state state' submitted phase') {others : List Url}
    (hfetched : state.fetched = others ++ (phase.fetched? owner).toList) :
    state'.fetched = others ++ (phase'.fetched? owner).toList := by
  have hkeeps : state'.fetched = state.fetched → phase'.fetched? owner = phase.fetched? owner →
      state'.fetched = others ++ (phase'.fetched? owner).toList := by
    intro hsame hphase
    rw [hsame, hphase, hfetched]
  cases h with
  | @fetch url =>
    rw [CrawlState.fetched_note_fetching, hfetched]
    simp [fetched?]
  | parse | note => exact hkeeps (CrawlState.fetched_note_of_ne (by simp)) rfl
  | expand => exact hkeeps (CrawlState.fetched_note_of_ne (stageAfter_ne_fetching _)) rfl
  | take h =>
    refine hkeeps ?_ rfl
    rw [CrawlState.accept, if_pos h]
    rfl
  | absorb => exact hkeeps (fetched_absorb _ _) rfl
  | _ => exact hkeeps rfl rfl

end Phase

/-! ## Where a crawl stands -/

/-- A thread has nothing left to do: it is a task that is finished, or the client after its offer. -/
inductive Rests : Option Url × Phase → Prop
  | task {url : Url} {taken : Nat} : Rests (some url, .finished taken)
  | client {taken : Nat} : Rests (none, .offers taken [])

theorem Rests.not_next (h : Rests (owner, phase)) :
    ¬ phase.Next web owner state state' submitted phase' := by
  intro hnext
  cases h with
  | task | client => cases hnext

/-- How far the client has come, and what waits then: nothing does before its seed is submitted. -/
inductive Leads : Phase → List Url → Prop
  | offers {url : Url} : Leads (.offers 0 [url]) []
  | notes {url : Url} : Leads (.notes 1 url []) []
  | submits {url : Url} : Leads (.submits 1 url []) []
  | rests {taken : Nat} {waiting : List Url} : Leads (.offers taken []) waiting

theorem Leads.next {waiting : List Url} (h : Leads phase waiting)
    (hnext : phase.Next web none state state' submitted phase') :
    Leads phase' (waiting ++ submitted.toList) := by
  cases h with
  | offers =>
    cases hnext with
    | pass => exact .rests
    | take => exact .notes
  | notes =>
    cases hnext
    exact .submits
  | submits =>
    cases hnext
    exact .rests
  | rests => cases hnext

/-- Where a crawl with one worker stands: some threads rest, one has its turn, and the tasks of some locations
wait. What is left comes to the end of a traversal. -/
structure Stands (web : Web) (cap : Nat) (last : Traversal) (course : Course)
    (past : List (Option Url × Phase)) (owner : Option Url) (phase : Phase) (waiting : List Url) :
    Prop where
  threads_eq : course.threads = past ++ (owner, phase) :: waiting.map (some ·, .fetches)
  rests : ∀ thread ∈ past, Rests thread
  leads : owner = none → Leads phase waiting
  visited_eq : course.state.visited =
    past.filterMap Prod.fst ++ owner.toList ++ waiting ++ phase.inHand?.toList
  fetched_eq : course.state.fetched = past.filterMap Prod.fst ++ (phase.fetched? owner).toList
  finish_eq : (phase.complete web cap owner
    (.ofState course.state (waiting ++ phase.inHand?.toList))).finish web cap = last

namespace Stands

variable {last : Traversal} {course : Course} {past : List (Option Url × Phase)} {waiting : List Url}
  {url : Url} {thread : Nat}

theorem getElem?_past (h : Stands web cap last course past owner phase waiting) :
    course.threads[past.length]? = some (owner, phase) := by
  rw [h.threads_eq, List.getElem?_append_right (Nat.le_refl _), Nat.sub_self]
  rfl

/-- The next task has its turn. -/
theorem turn (h : Stands web cap last course past owner phase (url :: waiting))
    (hrests : Rests (owner, phase)) :
    Stands web cap last course (past ++ [(owner, phase)]) (some url) .fetches waiting where
  threads_eq := by
    rw [h.threads_eq, List.append_assoc]
    rfl
  rests thread hthread := by
    rcases List.mem_append.mp hthread with hthread | hthread
    · exact h.rests thread hthread
    · rw [List.mem_singleton.mp hthread]
      exact hrests
  leads hnone := by cases hnone
  visited_eq := by
    rw [h.visited_eq]
    cases hrests with
    | task | client => simp [Phase.inHand?]
  fetched_eq := by
    rw [h.fetched_eq]
    cases hrests with
    | task | client => simp [Phase.fetched?]
  finish_eq := by
    -- nothing is left to do but what is left in the queue
    have hfinish : (Traversal.ofState course.state (url :: waiting)).finish web cap = last := by
      rw [← h.finish_eq]
      cases hrests with
      | task | client => simp [Phase.complete, Phase.inHand?, Traversal.addPageOf]
    rw [Traversal.finish_of_cons rfl] at hfinish
    rw [← hfinish]
    simp [Phase.complete, Phase.inHand?, Traversal.ofState]

/-- The thread that has its turn makes a step. -/
theorem go (h : Stands web cap last course past owner phase waiting)
    (hnext : phase.Next web owner course.state state' submitted phase') (hcap : course.state.cap = cap)
    (henqueued : course.state.enqueued = course.state.visited.length) :
    Stands web cap last ⟨state', spawn course.threads past.length owner phase' submitted⟩ past owner phase'
      (waiting ++ submitted.toList) where
  threads_eq := by
    dsimp only
    rw [h.threads_eq, spawn, List.set_append_right _ _ (Nat.le_refl _), Nat.sub_self]
    cases submitted <;> simp
  rests := h.rests
  leads := by
    rintro rfl
    exact (h.leads rfl).next hnext
  visited_eq := by
    dsimp only
    rw [hnext.visited_eq h.visited_eq]
    simp
  fetched_eq := hnext.fetched_eq h.fetched_eq
  finish_eq := by
    dsimp only
    rw [List.append_assoc, ← hnext.complete_eq hcap henqueued, h.finish_eq]

/-- The task that comes next waits until the thread that has its turn rests. -/
theorem rests_of_lt (h : Stands web cap last course past owner phase (url :: waiting))
    (hclient : ∃ phase, course.threads[0]? = some (none, phase))
    (hearlier : 0 < past.length →
      ∃ url taken, course.threads[past.length]? = some (some url, .finished taken)) :
    Rests (owner, phase) := by
  have hturn := h.getElem?_past
  rcases Nat.eq_zero_or_pos past.length with hzero | hpos
  · -- the client, with a task that waits
    obtain ⟨phaseOfClient, hclient⟩ := hclient
    rw [hzero, hclient] at hturn
    cases hturn
    cases h.leads rfl with
    | rests => exact .client
  · -- a task, before the one that goes on
    obtain ⟨page, taken, hfinished⟩ := hearlier hpos
    rw [hfinished] at hturn
    cases hturn
    exact .task

/-- A thread behind the one that has its turn is the first that waits, if all before it rest. -/
theorem exists_of_lt (h : Stands web cap last course past owner phase waiting)
    {entry : Option Url × Phase} (hthread : course.threads[thread]? = some entry)
    (hlt : past.length < thread) (hclient : ∃ phase, course.threads[0]? = some (none, phase))
    (hearlier : ∀ i, 0 < i → i < thread →
      ∃ url taken, course.threads[i]? = some (some url, .finished taken)) :
    ∃ url rest, waiting = url :: rest ∧ Rests (owner, phase) ∧ thread = past.length + 1 := by
  cases waiting with
  | nil =>
    have hlength := (List.getElem?_eq_some_iff.mp hthread).1
    rw [h.threads_eq] at hlength
    simp at hlength
    omega
  | cons url rest =>
    have hrests := h.rests_of_lt hclient fun hpos => hearlier _ hpos hlt
    refine ⟨url, rest, rfl, hrests, ?_⟩
    by_contra hne
    -- the first that waits is not finished, and so not before it
    have hfirst := (h.turn hrests).getElem?_past
    rw [List.length_append, List.length_singleton] at hfirst
    obtain ⟨page, taken, hfinished⟩ := hearlier (past.length + 1) (Nat.succ_pos _) (by omega)
    rw [hfinished] at hfirst
    cases hfirst

/-- **Where a crawl stands after a step**, if all tasks before the one that makes the step are finished. -/
theorem next (h : Stands web cap last course past owner phase waiting) {turn : Option Url}
    {course' : Course} (hnext : course.Next web turn course') (hcap : course.state.cap = cap)
    (henqueued : course.state.enqueued = course.state.visited.length)
    (hclient : ∃ phase, course.threads[0]? = some (none, phase))
    (hearlier : ∀ thread phase, course.threads[thread]? = some (turn, phase) →
      ∀ i, 0 < i → i < thread → ∃ url taken, course.threads[i]? = some (some url, .finished taken)) :
    ∃ past owner phase waiting, Stands web cap last course' past owner phase waiting := by
  obtain @⟨thread, phase₀, phase', state', submitted, hthread, hphase⟩ := hnext
  have hearlier := hearlier thread phase₀ hthread
  rcases Nat.lt_trichotomy thread past.length with hlt | rfl | hlt
  · -- it is none that rests
    have hmem : (turn, phase₀) ∈ past := by
      rw [h.threads_eq, List.getElem?_append_left hlt] at hthread
      exact List.mem_of_getElem? hthread
    exact absurd hphase (h.rests _ hmem).not_next
  · -- it is the one that has its turn
    rw [h.getElem?_past] at hthread
    cases hthread
    exact ⟨past, owner, phase', _, h.go hphase hcap henqueued⟩
  · -- it is one that waits, and has its turn now
    obtain ⟨url, rest, rfl, hrests, hsame⟩ := h.exists_of_lt hthread hlt hclient hearlier
    obtain rfl : thread = (past ++ [(owner, phase)]).length := by
      rw [hsame, List.length_append, List.length_singleton]
    have hturn := h.turn hrests
    rw [hturn.getElem?_past] at hthread
    cases hthread
    exact ⟨_, _, phase', _, hturn.go hphase hcap henqueued⟩

/-- What holds when all threads rest. -/
theorem ends (h : Stands web cap last course past owner phase waiting)
    (hrests : ∀ thread ∈ course.threads, Rests thread) :
    course.state.fetched = course.state.visited ∧ Traversal.ofState course.state [] = last := by
  rw [h.threads_eq] at hrests
  have hturn : Rests (owner, phase) := hrests _ (by simp)
  -- a task that waits does not rest
  have hwaiting : waiting = [] := by
    refine List.eq_nil_iff_forall_not_mem.mpr fun url hurl => ?_
    have hwaits : Rests (some url, .fetches) := hrests _ (by simp [hurl])
    cases hwaits
  subst hwaiting
  refine ⟨?_, ?_⟩
  · rw [h.fetched_eq, h.visited_eq]
    cases hturn with
    | task | client => simp [Phase.fetched?, Phase.inHand?]
  · have hfinish := h.finish_eq
    cases hturn with
    | task => exact (Traversal.finish_of_nil rfl).symm.trans hfinish
    | client => exact (Traversal.finish_of_nil rfl).symm.trans hfinish

/-- What was fetched was admitted by the traversal, in the same order. -/
theorem isPrefix (h : Stands web cap last course past owner phase waiting) :
    course.state.fetched <+: course.state.visited ∧ course.state.visited <+: last.admitted := by
  refine ⟨?_, ?_⟩
  · rw [h.fetched_eq, h.visited_eq, List.append_assoc, List.append_assoc]
    refine (List.prefix_append_right_inj _).mpr ((Phase.fetched?_isPrefix phase owner).trans ?_)
    exact List.prefix_append _ _
  · have hadmitted := phase.admitted_complete web cap owner
      (.ofState course.state (waiting ++ phase.inHand?.toList))
    rw [← h.finish_eq]
    exact hadmitted.trans (Traversal.admitted_finish web cap _)

end Stands

variable {index : Index} {start pool : Pool Url CrawlState CrawlReport} {refused : List Url}

/-- Where a crawl stands at its start. -/
theorem stands_start (web : Web) (cap : Nat) (index : Index) (seed : Url) :
    Stands web cap (traverse web cap index seed)
      ⟨.start index cap, [(none, .offers 0 [seed.withoutFragment])]⟩ [] none
      (.offers 0 [seed.withoutFragment]) [] where
  threads_eq := rfl
  rests _ hthread := absurd hthread List.not_mem_nil
  leads _ := .offers
  visited_eq := rfl
  fetched_eq := rfl
  finish_eq := rfl

/-! ## Crawls with one worker -/

/-- With a single worker, the tasks before the one that goes on are finished. -/
theorem finished_of_lt (hstart : start.IsUnused (.start index cap) [crawl seed])
    (hsize : pool.size = 1) (h : Pool.Reached (· = visit web) start pool refused) {course : Course}
    (hfollows : Follows web pool course) {event : Event} {thread : Nat}
    (hthread : course.threads[thread]? = some (pool.taskOf event, phase)) {i : Nat} (hi : 0 < i)
    (hlt : i < thread) : ∃ url taken, course.threads[i]? = some (some url, .finished taken) := by
  obtain ⟨earlier, rfl⟩ := Nat.exists_eq_succ_of_ne_zero hi.ne'
  obtain ⟨ticket, rfl⟩ := Nat.exists_eq_succ_of_ne_zero (Nat.ne_zero_of_lt hlt)
  obtain ⟨url, hurl, htask⟩ := Option.map_eq_some_iff.mp (hfollows.owner_eq hthread)
  obtain ⟨other, hunderway, hother⟩ := Pool.exists_of_taskOf htask.symm
  -- no other task has the same location
  obtain ⟨_, _, _, hbooks⟩ := exists_balances hstart.toIsReady h
  have hnodup : pool.accepted.Nodup := hbooks.accepted_nodup
  obtain rfl : ticket = other :=
    (List.getElem?_inj (List.getElem?_eq_some_iff.mp hurl).1 hnodup).mp (hurl.trans hother.symm)
  exact hfollows.ended earlier (h.mem_ended_of_lt hstart hsize hunderway (Nat.lt_of_succ_lt_succ hlt))

/-- Where a crawl stands in all that is reached. -/
theorem exists_stands_of_reached (hstart : start.IsUnused (.start index cap) [crawl seed])
    (hopen : start.isShutdown = false) (hsize : start.size = 1)
    (h : Pool.Reached (· = visit web) start pool refused) :
    ∃ course, Follows web pool course ∧ ∃ past owner phase waiting,
      Stands web cap (traverse web cap index seed) course past owner phase waiting := by
  induction h with
  | start => exact ⟨_, .start hstart hopen, _, _, _, _, stands_start web cap index seed⟩
  | @step body pool next refused event h hbody hstep ih =>
    subst hbody
    obtain ⟨course, hfollows, past, owner, phase, waiting, hstands⟩ := ih
    obtain ⟨course', hcourse, hfollows'⟩ :=
      hfollows.moves (h.isOrderly hstart) (Pool.moves_of_step hstep)
    refine ⟨course', hfollows', ?_⟩
    rcases hcourse with rfl | hnext
    · exact ⟨past, owner, phase, waiting, hstands⟩
    · obtain ⟨_, _, _, hbooks⟩ := exists_balances hstart.toIsReady h
      have hmemory := hfollows.memory_eq
      have hcap : course.state.cap = cap := hmemory ▸ hbooks.cap_eq
      have henqueued : course.state.enqueued = course.state.visited.length := hmemory ▸ hbooks.enqueued_eq
      obtain ⟨-, phaseOfClient, -, hclient, -⟩ := hfollows.client
      refine hstands.next hnext hcap henqueued ⟨phaseOfClient, hclient⟩ ?_
      intro thread phase hthread i hi hlt
      exact finished_of_lt hstart (h.size_eq.trans hsize) h hfollows hthread hi hlt

/-- When a crawl has returned, all of its threads rest. -/
theorem Follows.rests {course : Course} (h : Follows web pool course) (hended : pool.AllEnded)
    {report : CrawlReport} (hreport : pool.clients[0]? = some (.done report)) :
    ∀ thread ∈ course.threads, Rests thread := by
  intro thread hmem
  obtain ⟨i, hi⟩ := List.mem_iff_getElem?.mp hmem
  cases i with
  | zero =>
    obtain ⟨-, -, phase, hfirst, hseeks⟩ := h.client_of_getElem? hreport
    rw [hfirst] at hi
    cases hi
    cases hseeks with
    | offers hoffers => cases hoffers
    | looks => exact .client
  | succ ticket =>
    obtain ⟨owner, phase⟩ := thread
    obtain ⟨url, hurl, -⟩ := Option.map_eq_some_iff.mp (h.owner_eq hi)
    have hmem : ticket ∈ pool.ended := by
      rw [hended.ended_perm.mem_iff, List.mem_range]
      exact (List.getElem?_eq_some_iff.mp hurl).1
    obtain ⟨page, taken, hfinished⟩ := h.ended ticket hmem
    rw [hfinished] at hi
    cases hi
    exact .task

/-- What a crawl has in common with the traversal from its seed. -/
structure IsBreadthFirst (web : Web) (cap : Nat) (index : Index) (seed : Url)
    (pool : Pool Url CrawlState CrawlReport) : Prop where
  /-- Locations are fetched in the order in which the traversal admits them. -/
  fetched_isPrefix : pool.memory.fetched <+: (traverse web cap index seed).admitted
  /-- They can be reached, and those that are nearer to the seed come first. -/
  reaches : ∀ url ∈ pool.memory.fetched, Reaches web seed url
  pairwise_distance : pool.memory.fetched.Pairwise fun first second =>
    distance web seed first ≤ distance web seed second
  /-- When the crawl has returned, it has come as far as the traversal. -/
  returned : ∀ report, pool.result? 0 = some report →
    pool.memory.fetched = (traverse web cap index seed).admitted ∧
    report = (traverse web cap index seed).report ∧
    pool.memory.index = (traverse web cap index seed).index

/-- What a crawl with one worker has in common with the traversal, in all that is reached. -/
theorem isBreadthFirst_of_reached (hstart : start.IsUnused (.start index cap) [crawl seed])
    (hopen : start.isShutdown = false) (hsize : start.size = 1)
    (h : Pool.Reached (· = visit web) start pool refused) : IsBreadthFirst web cap index seed pool := by
  obtain ⟨course, hfollows, past, owner, phase, waiting, hstands⟩ :=
    exists_stands_of_reached hstart hopen hsize h
  have hmemory := hfollows.memory_eq
  obtain ⟨hfetched, hvisited⟩ := hstands.isPrefix
  have hadmitted := hfetched.trans hvisited
  have hbreadth := breadthFirst_traverse web cap index seed
  constructor
  case fetched_isPrefix => rwa [hmemory]
  case reaches =>
    rw [hmemory]
    exact fun url hurl => hbreadth.trail.reaches (hadmitted.subset hurl)
  case pairwise_distance =>
    rw [hmemory]
    exact hbreadth.pairwise_distance.sublist hadmitted.sublist
  case returned =>
    intro report hreport
    have hreturning := isReturning_of_reached hstart.toIsReady (by simp) h
    have hended := h.allEnded_of_result hstart hreturning hreport
    obtain ⟨hdone, -, rfl⟩ := hreturning.of_result hreport
    obtain ⟨hall, hlast⟩ := hstands.ends (hfollows.rests hended hdone)
    obtain ⟨_, _, _, hbooks⟩ := exists_balances hstart.toIsReady h
    have henqueued : pool.memory.enqueued = pool.memory.visited.length := hbooks.enqueued_eq
    rw [← hmemory] at hall hlast
    rw [← hlast]
    refine ⟨hall, ?_, rfl⟩
    -- the traversal has no count of its own for what it has admitted
    rw [CrawlState.report, henqueued]
    rfl

/-- A crawl with one worker takes a bounded number of steps: it visits no more than the traversal. -/
theorem exists_length_run_le_of_size (hstart : start.IsUnused (.start index cap) [crawl seed])
    (hopen : start.isShutdown = false) (hsize : start.size = 1) :
    ∃ bound, ∀ events pool, start.run (visit web) events = some pool →
      events.length ≤ bound + 2 * events.countP Event.isSpurious := by
  refine ⟨start.size + (20 + 0) + Pool.costs (visitCost web) (traverse web cap index seed).admitted,
    fun events pool hrun => ?_⟩
  have hlength := (lasts_start hstart.toIsReady).run hrun (exists_lasts_visit web)
  have hreached : Pool.Reached (· = visit web) start pool _ := .of_run (by rfl) hrun
  obtain ⟨course, hfollows, _, _, _, _, hstands⟩ := exists_stands_of_reached hstart hopen hsize hreached
  obtain ⟨_, _, _, hbooks⟩ := exists_balances hstart.toIsReady hreached
  have haccepted : pool.accepted ⊆ (traverse web cap index seed).admitted := by
    refine List.Subset.trans hbooks.accepted_subset ?_
    show pool.memory.visited ⊆ _
    rw [hfollows.memory_eq]
    exact hstands.isPrefix.2.subset
  have hcosts := Pool.costs_le_of_subset (visitCost web) hbooks.accepted_nodup haccepted
  dsimp only [Pool.ledger] at hcosts
  omega

/-- **A crawl with one worker is a breadth-first traversal**, whatever is fetched. It comes to an end, and
until then it fetches what the traversal from its seed admits, in the same order. -/
theorem isBreadthFirst_of_size (hstart : start.IsUnused (.start index cap) [crawl seed])
    (hopen : start.isShutdown = false) (hsize : start.size = 1) :
    (∃ bound, ∀ events pool, start.run (visit web) events = some pool →
      events.length ≤ bound + 2 * events.countP Event.isSpurious) ∧
    ∀ pool refused, Pool.Reached (· = visit web) start pool refused →
      (pool.IsStuck (visit web) → ∃ report, pool.result? 0 = some report) ∧
      IsBreadthFirst web cap index seed pool := by
  refine ⟨exists_length_run_le_of_size hstart hopen hsize, fun pool refused h => ⟨?_, ?_⟩⟩
  · have hworkers : start.workers ≠ [] := by
      rintro hnone
      rw [Pool.size, hnone] at hsize
      cases hsize
    obtain ⟨course, hfollows, -⟩ := exists_stands_of_reached hstart hopen hsize h
    exact exists_report_of_isStuck hstart.toIsReady hworkers h hfollows.isShutdown_eq
  · exact isBreadthFirst_of_reached hstart hopen hsize h

/-- A crawl from a page with two links. The first is to a page with two links of its own, which come after
the second, and the cap has no room for the last. -/
theorem isBreadthFirst_of_four_locations :
    ∃ (web : Web) (seed near far away : Url) (pool : Pool Url CrawlState CrawlReport)
      (events : List Event),
      (Pool.start 1 (.start ∅ 4) [crawl seed]).run (visit web) events = some pool ∧
      pool.result? 0 = some ⟨4, 2, 1, 1⟩ ∧
      pool.memory.fetched = [seed.withoutFragment, near, far, away] ∧ away ∈ linksOf web near ∧
      IsBreadthFirst web 4 ∅ seed pool := by
  let locate (name : String) (fragment : Option String) : Url :=
    ⟨"http", some ⟨"", "", .name "a.test", none⟩, .segments [name], none, fragment⟩
  let seed : Url := locate "" (some "top")
  let web : Web := fun url =>
    if url = seed.withoutFragment then .page "<a href='/near'>near</a> <a href='/far'>far</a>"
    else if url = locate "near" none then .page "<a href='/away'>away</a> <a href='/more'>more</a>"
    else if url = locate "far" none then .other else .broken
  let start : Pool Url CrawlState CrawlReport := .start 1 (.start ∅ 4) [crawl seed]
  obtain ⟨events, hevents⟩ := Pool.exists_run_settle (visit web) start 120
  have hreport : (start.settle (visit web) 120).result? 0 = some ⟨4, 2, 1, 1⟩ := by decide +kernel
  have hfetched : (start.settle (visit web) 120).memory.fetched =
      [seed.withoutFragment, locate "near" none, locate "far" none, locate "away" none] := by
    decide +kernel
  have hlink : locate "away" none ∈ linksOf web (locate "near" none) := by decide +kernel
  obtain ⟨-, hreached⟩ := @isBreadthFirst_of_size web seed 4 ∅ start (Pool.isUnused_start 1 _ _) rfl rfl
  obtain ⟨-, hbreadth⟩ := hreached _ _ (.of_run (by rfl) hevents)
  exact ⟨web, seed, _, _, _, _, events, hevents, hreport, hfetched, hlink, hbreadth⟩

end Concordance.Crawl
