import Concordance.Proofs.Crawl.Jobs
import Mathlib.Algebra.Group.Nat.Defs
import Mathlib.Algebra.Group.Prod
import Mathlib.Algebra.Order.Group.Multiset

/-!
# The balance of a crawl

A location that was taken up is in the hand of the thread that took it up, until the pool has accepted
it or it was given back. An accepted location waits to be fetched, and an accepted or refused one waits
to be counted. All threads of a crawl keep these books together, whatever is fetched, and also when
somebody shuts the pool down.

## Main definitions

* `Crawl.Balances`: the books of a crawl, when threads have some locations in hand, and others wait to
  be fetched or counted
* `Crawl.balance`: the agreement that all threads of a crawl keep

## Main results

* `visit_keeps_balance`, `crawl_keeps_balance`: tasks and crawls keep the balance
-/

namespace Concordance

namespace Crawl

/-! ## The books -/

/-- The books of a crawl, when threads have some locations in hand, and others wait to be fetched or
counted. -/
structure Balances (cap : Nat) (ledger : Ledger Url CrawlState) (inHand unread : Multiset Url)
    (uncounted : Nat) : Prop where
  nodup : ledger.memory.visited.Nodup
  enqueued_eq : ledger.memory.enqueued = ledger.memory.visited.length
  enqueued_le : ledger.memory.enqueued ≤ cap
  cap_eq : ledger.memory.cap = cap
  visited_eq : (ledger.memory.visited : Multiset Url) = inHand + ledger.accepted
  accepted_eq : (ledger.accepted : Multiset Url) = unread + ledger.memory.fetched
  counted_eq : ledger.memory.indexed + ledger.memory.skipped + ledger.memory.failed + uncounted =
    ledger.accepted.length + ledger.refused.length
  fragment_eq : ∀ url ∈ ledger.memory.visited, url.fragment = none
  not_accepted : ∀ url ∈ ledger.refused, url ∉ ledger.accepted
  isShutdown_eq : ledger.refused ≠ [] → ledger.isShutdown = true

namespace Balances

variable {cap : Nat} {ledger : Ledger Url CrawlState} {inHand unread : Multiset Url}
  {uncounted : Nat} {url : Url}

theorem start (index : Index) (cap : Nat) (isShutdown : Bool) :
    Balances cap ⟨.start index cap, [], [], isShutdown⟩ 0 0 0 where
  nodup := List.nodup_nil
  enqueued_eq := rfl
  enqueued_le := Nat.zero_le cap
  cap_eq := rfl
  visited_eq := rfl
  accepted_eq := rfl
  counted_eq := rfl
  fragment_eq _ h := absurd h List.not_mem_nil
  not_accepted _ h := absurd h List.not_mem_nil
  isShutdown_eq h := absurd rfl h

theorem shutdown (h : Balances cap ledger inHand unread uncounted) :
    Balances cap { ledger with isShutdown := true } inHand unread uncounted :=
  { h with isShutdown_eq := fun _ => rfl }

theorem mem_visited (h : Balances cap ledger inHand unread uncounted) (hurl : url ∈ inHand) :
    url ∈ ledger.memory.visited := by
  rw [← Multiset.mem_coe, h.visited_eq]
  exact Multiset.mem_add.mpr (.inl hurl)

/-- A location in the hand of a thread was not accepted. -/
theorem not_mem_accepted (h : Balances cap ledger inHand unread uncounted) (hurl : url ∈ inHand) :
    url ∉ ledger.accepted := by
  have hnodup : (inHand + (ledger.accepted : Multiset Url)).Nodup := by
    rw [← h.visited_eq]
    exact Multiset.coe_nodup.mpr h.nodup
  intro haccepted
  exact Multiset.disjoint_left.mp (Multiset.nodup_add.mp hnodup).2.2 hurl haccepted

/-- A location is taken up, by a thread that has it in hand from then on. -/
theorem accept (h : Balances cap ledger inHand unread uncounted) (hurl : url.fragment = none)
    (haccepts : ledger.memory.accepts url = true) :
    Balances cap { ledger with memory := ledger.memory.accept url } ({url} + inHand) unread
      uncounted := by
  obtain ⟨hroom, hnew⟩ := CrawlState.accepts_iff.mp haccepts
  rw [CrawlState.accept, if_pos haccepts]
  refine { h with
    nodup := ?_, enqueued_eq := ?_, enqueued_le := ?_, visited_eq := ?_, fragment_eq := ?_ }
  · refine List.nodup_append.mpr ⟨h.nodup, List.nodup_singleton url, ?_⟩
    rintro other hother _ hurl rfl
    exact hnew (List.mem_singleton.mp hurl ▸ hother)
  · simp [h.enqueued_eq]
  · exact h.cap_eq ▸ hroom
  · change ((ledger.memory.visited ++ [url] : List Url) : Multiset Url) = _
    rw [← Multiset.coe_add, h.visited_eq, Multiset.coe_singleton, add_right_comm, add_comm inHand]
  · intro other hother
    rcases List.mem_append.mp hother with hother | hother
    · exact h.fragment_eq other hother
    · rw [List.mem_singleton.mp hother, hurl]

/-- The pool accepts a location that a thread has in hand. -/
theorem submitted (h : Balances cap ledger ({url} + inHand) unread uncounted)
    (hopen : ledger.isShutdown = false) :
    Balances cap { ledger with accepted := ledger.accepted ++ [url] } inHand ({url} + unread)
      (uncounted + 1) := by
  -- a pool that is open has refused nothing yet
  have hrefused : ledger.refused = [] := by
    by_contra hne
    have hclosed := h.isShutdown_eq hne
    rw [hopen] at hclosed
    cases hclosed
  refine { h with visited_eq := ?_, accepted_eq := ?_, counted_eq := ?_, not_accepted := ?_ }
  · dsimp only
    rw [h.visited_eq, ← Multiset.coe_add, Multiset.coe_singleton, add_rotate, add_assoc]
  · dsimp only
    rw [← Multiset.coe_add, Multiset.coe_singleton, h.accepted_eq, add_comm, add_assoc]
  · have hcounted := h.counted_eq
    simp only [List.length_append, List.length_singleton]
    omega
  · simp [hrefused]

/-- The pool refuses a location that a thread has in hand. -/
theorem refused (h : Balances cap ledger ({url} + inHand) unread uncounted)
    (hclosed : ledger.isShutdown = true) :
    Balances cap { ledger with refused := ledger.refused ++ [url] } ({url} + inHand) unread
      (uncounted + 1) := by
  refine { h with counted_eq := ?_, not_accepted := ?_, isShutdown_eq := fun _ => hclosed }
  · have hcounted := h.counted_eq
    simp only [List.length_append, List.length_singleton]
    omega
  · intro other hother
    rcases List.mem_append.mp hother with hother | hother
    · exact h.not_accepted other hother
    · rw [List.mem_singleton.mp hother]
      exact h.not_mem_accepted (by simp)

/-- A thread gives a location back that it has in hand. -/
theorem release (h : Balances cap ledger ({url} + inHand) unread uncounted) :
    Balances cap { ledger with memory := ledger.memory.release url } inHand unread uncounted := by
  have hmem : url ∈ ledger.memory.visited := h.mem_visited (by simp)
  rw [CrawlState.release, if_pos (List.contains_iff_mem.mpr hmem)]
  refine { h with
    nodup := ?_, enqueued_eq := ?_, enqueued_le := ?_, visited_eq := ?_, fragment_eq := ?_ }
  · exact h.nodup.erase url
  · change ledger.memory.enqueued - 1 = (ledger.memory.visited.erase url).length
    rw [List.length_erase_of_mem hmem, h.enqueued_eq]
  · exact Nat.le_trans (Nat.sub_le _ _) h.enqueued_le
  · change ((ledger.memory.visited.erase url : List Url) : Multiset Url) = _
    rw [← Multiset.coe_erase, h.visited_eq, add_assoc, Multiset.singleton_add,
      Multiset.erase_cons_head]
  · exact fun other hother => h.fragment_eq other (List.mem_of_mem_erase hother)

/-- What concerns the counters and the trace only. -/
theorem of_eq (h : Balances cap ledger inHand unread uncounted) {memory : CrawlState}
    {unread' : Multiset Url} {uncounted' : Nat} (hvisited : memory.visited = ledger.memory.visited)
    (henqueued : memory.enqueued = ledger.memory.enqueued) (hcap : memory.cap = ledger.memory.cap)
    (hfetched : unread' + (memory.fetched : Multiset Url) = unread + ledger.memory.fetched)
    (hcounted : memory.indexed + memory.skipped + memory.failed + uncounted' =
      ledger.memory.indexed + ledger.memory.skipped + ledger.memory.failed + uncounted) :
    Balances cap { ledger with memory := memory } inHand unread' uncounted' where
  nodup := hvisited ▸ h.nodup
  enqueued_eq := by
    dsimp only
    rw [henqueued, hvisited]
    exact h.enqueued_eq
  enqueued_le := henqueued ▸ h.enqueued_le
  cap_eq := hcap ▸ h.cap_eq
  visited_eq := hvisited ▸ h.visited_eq
  accepted_eq := h.accepted_eq.trans hfetched.symm
  counted_eq := hcounted.trans h.counted_eq
  fragment_eq := hvisited ▸ h.fragment_eq
  not_accepted := h.not_accepted
  isShutdown_eq := h.isShutdown_eq

end Balances

/-! ## The agreement -/

/-- What a thread answers for: the locations that it has in hand, those that it still has to fetch, and
how many it still has to count. -/
abbrev Stake := Multiset Url × Multiset Url × Nat

/-- The agreement that all threads of a crawl keep. A location is given back only by the thread that has
it in hand. -/
def balance (cap : Nat) : Agreement Url CrawlState Stake where
  holds ledger stake := Balances cap ledger stake.1 stake.2.1 stake.2.2
  share url := (0, {url}, 1)
  permits change stake := ∀ url, change = (·.release url) → url ∈ stake.1

/-- Only giving a location back makes fewer visited locations. -/
theorem permits_of_le {cap : Nat} {stake : Stake} {change : CrawlState → CrawlState}
    (h : ∀ state, state.visited.length ≤ (change state).visited.length) :
    (balance cap).permits change stake := by
  intro url heq
  -- where only this location is visited, giving it back leaves none
  have hle := h { CrawlState.start ∅ 0 with visited := [url] }
  rw [heq] at hle
  simp [CrawlState.release] at hle

/-- Giving a location back is giving back no other. -/
theorem release_injective {url other : Url}
    (h : (fun state : CrawlState => state.release url) = fun state => state.release other) :
    other = url := by
  by_contra hne
  have hstate := congrFun h { CrawlState.start ∅ 0 with visited := [other] }
  simp [CrawlState.release, Ne.symm hne] at hstate

theorem length_visited_accept (state : CrawlState) (url : Url) :
    state.visited.length ≤ (state.accept url).visited.length := by
  unfold CrawlState.accept
  split
  · simp
  · exact Nat.le_refl _

variable {cap : Nat} {β : Type}

/-- A change of the counters and the trace alone that counts so many locations. -/
structure Counts (count : Nat) (change : CrawlState → CrawlState) : Prop where
  visited_eq : ∀ state, (change state).visited = state.visited
  enqueued_eq : ∀ state, (change state).enqueued = state.enqueued
  cap_eq : ∀ state, (change state).cap = state.cap
  fetched_eq : ∀ state, (change state).fetched = state.fetched
  counted_eq : ∀ state, (change state).indexed + (change state).skipped + (change state).failed =
    state.indexed + state.skipped + state.failed + count

theorem counts_note (url : Url) {stage : Stage} (h : stage ≠ .fetching) :
    Counts 0 (·.note url stage) :=
  ⟨fun _ => rfl, fun _ => rfl, fun _ => rfl, fun _ => CrawlState.fetched_note_of_ne h, fun _ => rfl⟩

theorem counts_absorb (index : Index) : Counts 0 (·.absorb index) :=
  ⟨fun _ => rfl, fun _ => rfl, fun _ => rfl, fun _ => rfl, fun _ => rfl⟩

theorem counts_addIndexed : Counts 1 CrawlState.addIndexed :=
  ⟨fun _ => rfl, fun _ => rfl, fun _ => rfl, fun _ => rfl,
    fun _ => by simp only [CrawlState.addIndexed]; omega⟩

theorem counts_addSkipped : Counts 1 CrawlState.addSkipped :=
  ⟨fun _ => rfl, fun _ => rfl, fun _ => rfl, fun _ => rfl,
    fun _ => by simp only [CrawlState.addSkipped]; omega⟩

theorem counts_addFailed : Counts 1 CrawlState.addFailed :=
  ⟨fun _ => rfl, fun _ => rfl, fun _ => rfl, fun _ => rfl,
    fun _ => by simp only [CrawlState.addFailed]; omega⟩

/-- A thread that counts locations answers for the others as before. -/
theorem modify_keeps_balance {count : Nat} {change : CrawlState → CrawlState}
    (h : Counts count change) {post : Unit → Stake → Prop} {stake stake' : Stake}
    (hstake : stake' = (0, 0, count) + stake) (hpost : post () stake) :
    (Job.modify change).Keeps (balance cap) post stake' := by
  refine Job.keeps_modify (permits_of_le fun state => ?_) (fun ledger others hbooks => ?_) hpost
  · rw [h.visited_eq]
  have hbalances : Balances cap ledger (stake + others).1 (stake + others).2.1
      ((stake + others).2.2 + count) := by
    simpa [hstake, balance, add_assoc, add_comm, add_left_comm] using hbooks
  refine hbalances.of_eq (h.visited_eq _) (h.enqueued_eq _) (h.cap_eq _) ?_ ?_
  · rw [h.fetched_eq]
  · rw [h.counted_eq]
    omega

theorem note_keeps_balance {url : Url} {stage : Stage} (h : stage ≠ .fetching)
    {post : Unit → Stake → Prop} {stake : Stake} (hpost : post () stake) :
    (Job.modify fun state : CrawlState => state.note url stage).Keeps (balance cap) post stake :=
  modify_keeps_balance (counts_note url h) (zero_add stake).symm hpost

theorem holds_balance_inHand {ledger : Ledger Url CrawlState} {url : Url} {stake others : Stake} :
    (balance cap).holds ledger (({url}, 0, 0) + stake + others) ↔
      Balances cap ledger ({url} + (stake + others).1) (stake + others).2.1 (stake + others).2.2 := by
  simp [balance, add_assoc]

/-- A thread submits a location that it has in hand. If it is refused, it gives the location back and
counts it. -/
theorem submit_keeps_balance {url : Url} {post : Bool → Stake → Prop} {stake : Stake}
    (hpost : ∀ taken, post taken stake) :
    (do
      if ← Job.offer url then return true
      Job.modify (·.release url)
      Job.modify (·.addFailed)
      return false : Job Url CrawlState Bool).Keeps (balance cap) post (({url}, 0, 0) + stake) := by
  constructor
  · -- the pool accepts it, and the task answers for it from then on
    intro ledger others hopen h
    have hsubmitted := (holds_balance_inHand.mp h).submitted hopen
    refine ⟨stake, ?_, hpost true⟩
    simpa [balance, add_assoc, add_comm, add_left_comm] using hsubmitted
  · -- the pool refuses it, and it is still in the hand of the thread
    intro ledger others hclosed h
    have hrefused := (holds_balance_inHand.mp h).refused hclosed
    refine ⟨({url}, 0, 0) + ((0, 0, 1) + stake), ?_, ?_, fun ledger others h => ?_⟩
    · simpa [balance, add_assoc, add_comm, add_left_comm] using hrefused
    · intro other heq
      rw [release_injective heq]
      simp
    · have hreleased := (holds_balance_inHand.mp h).release
      have hcounted : (do
          Job.modify (·.addFailed)
          return false : Job Url CrawlState Bool).Keeps (balance cap) post ((0, 0, 1) + stake) :=
        Job.Keeps.bind (modify_keeps_balance counts_addFailed rfl (hpost false))
      exact ⟨(0, 0, 1) + stake, hreleased, hcounted⟩

/-- Offering a location, a thread answers for it until it is accepted or given back. -/
theorem offer_keeps_balance {url : Url} (hurl : url.fragment = none)
    {post : Bool → Stake → Prop} {stake : Stake} (hpost : ∀ taken, post taken stake) :
    (offer url).Keeps (balance cap) post stake := by
  refine ⟨permits_of_le fun state => length_visited_accept state url, fun ledger others h => ?_⟩
  dsimp only
  split
  case isFalse hfull =>
    -- it was visited before, or there is no room for it
    refine ⟨stake, ?_, hpost false⟩
    rw [CrawlState.accept, if_neg hfull]
    exact h
  case isTrue haccepts =>
    refine ⟨({url}, 0, 0) + stake, holds_balance_inHand.mpr (h.accept hurl haccepts), ?_⟩
    exact Job.Keeps.bind (note_keeps_balance (by simp) (submit_keeps_balance hpost))

theorem readPage_keeps_balance (url : Url) (text : String) :
    (readPage url text).Keeps (balance cap) Spent (0, 0, 1) := by
  refine Job.Keeps.bind (note_keeps_balance (by simp) ?_)
  have hoffer : ∀ link ∈ pageLinks url text, ∀ (_ : List Url) (post : Bool → Stake → Prop),
      (∀ taken, post taken (0, 0, 1)) → (offer link).Keeps (balance cap) post (0, 0, 1) :=
    fun link hlink _ _ => offer_keeps_balance (fragment_of_mem_pageLinks hlink)
  refine Job.Keeps.bind (offerAll_keeps hoffer fun taken => ?_)
  refine Job.Keeps.bind (note_keeps_balance (stageAfter_ne_fetching taken) ?_)
  refine Job.Keeps.bind (modify_keeps_balance (counts_absorb _) (zero_add _).symm ?_)
  exact modify_keeps_balance counts_addIndexed (add_zero _).symm rfl

theorem receive_keeps_balance (url : Url) (response : Response) :
    (receive url response).Keeps (balance cap) Spent (0, 0, 1) := by
  cases response with
  | page text => exact readPage_keeps_balance url text
  | other => exact modify_keeps_balance counts_addSkipped (add_zero _).symm rfl
  | broken => exact modify_keeps_balance counts_addFailed (add_zero _).symm rfl

/-- A task answers for its location until it is fetched, and until it is counted. -/
theorem visit_keeps_balance (web : Web) (url : Url) :
    (visit web url).Keeps (balance cap) Spent ((balance cap).share url) := by
  refine ⟨permits_of_le fun _ => Nat.le_refl _, fun ledger others h =>
    ⟨(0, 0, 1), ?_, receive_keeps_balance url (web url)⟩⟩
  have hbalances : Balances cap ledger others.1 ({url} + others.2.1) (1 + others.2.2) := by
    simpa [balance] using h
  -- the location is fetched with the first step of its task
  have hfetched : Balances cap { ledger with memory := ledger.memory.note url .fetching } others.1
      others.2.1 (1 + others.2.2) := by
    refine hbalances.of_eq rfl rfl rfl ?_ rfl
    rw [CrawlState.fetched_note_fetching, ← Multiset.coe_add, Multiset.coe_singleton, ← add_assoc,
      add_comm, ← add_assoc]
  simpa [balance] using hfetched

/-- A crawl answers for nothing when it waits. -/
theorem crawl_keeps_balance (seed : Url) : (crawl seed).Keeps (balance cap) Spent 0 :=
  crawl_keeps (permits_of_le fun _ => Nat.le_refl _) fun _ =>
    offer_keeps_balance seed.fragment_withoutFragment

end Crawl

end Concordance
