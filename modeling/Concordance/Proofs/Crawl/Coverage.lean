import Concordance.Proofs.Crawl.Jobs
import Concordance.Proofs.Crawl.Reachability
import Concordance.Proofs.Index.Merging
import Mathlib.Algebra.Group.Prod
import Mathlib.Algebra.Order.Group.Multiset

/-!
# The coverage of a crawl

While a pool is not shut down, a crawl loses no link: whatever is linked from a visited location was
visited itself, still waits to be offered by some thread, or came when there was no more room. Each
accepted location waits to be counted and to be added to the index, and nothing else is.

## Main definitions

* `Crawl.pageOccurrences`: what a page adds to the index
* `Crawl.Covers`: what a crawl has covered, when threads have some locations to offer, to count, and to
  add to the index
* `Crawl.coverage`: the agreement that all threads of a crawl keep

## Main results

* `visit_keeps_coverage`, `crawl_keeps_coverage`: tasks and crawls keep the coverage
-/

namespace Concordance

/-- Whether a page was fetched. -/
def Response.isPage : Response → Bool
  | .page _ => true
  | .other | .broken => false

namespace Crawl

/-- What the page of a location adds to the index: the terms of its text, at consecutive positions from
one on. -/
def pageOccurrences (web : Web) (url : Url) : List Occurrence :=
  match web url with
  | .page text => ((Text.terms (Markup.textOfPage text)).zipIdx 1).map fun (term, position) =>
    ⟨term, url.text, position⟩
  | _ => []

variable {web : Web} {seed url : Url} {index : Index}

theorem mem_ofText_iff_mem_pageOccurrences {text : String} (h : web url = .page text)
    {occurrence : Occurrence} :
    occurrence ∈ Index.ofText url.text (Markup.textOfPage text) ↔
      occurrence ∈ pageOccurrences web url := by
  rw [Index.mem_ofText, pageOccurrences, h]
  rw [List.mem_map]
  constructor
  · rintro ⟨i, term, hterm, rfl⟩
    exact ⟨(term, 1 + i), List.mk_add_mem_zipIdx_iff_getElem?.mpr hterm, rfl⟩
  · rintro ⟨⟨term, position⟩, hterm, rfl⟩
    obtain ⟨hle, hterm⟩ := List.mk_mem_zipIdx_iff_le_and_getElem?_sub.mp hterm
    exact ⟨position - 1, term, hterm, by rw [Nat.add_sub_cancel' hle]⟩

/-! ## What is counted -/

/-- Counts a location by what was fetched. -/
def tally : Response → CrawlState → CrawlState
  | .page _ => CrawlState.addIndexed
  | .other => CrawlState.addSkipped
  | .broken => CrawlState.addFailed

/-- The counters of a crawl that has counted some locations. -/
structure IsTally (web : Web) (state : CrawlState) (counted : Multiset Url) : Prop where
  indexed_eq : state.indexed = counted.countP fun url => (web url).isPage
  skipped_eq : state.skipped = counted.countP fun url => web url = .other
  failed_eq : state.failed = counted.countP fun url => web url = .broken

theorem IsTally.tally {state : CrawlState} {counted : Multiset Url} (h : IsTally web state counted)
    (url : Url) : IsTally web (tally (web url) state) ({url} + counted) := by
  rw [Multiset.singleton_add]
  cases hweb : web url with
  | page | other | broken =>
    constructor <;> rw [Multiset.countP_cons] <;>
      simp [Crawl.tally, hweb, Response.isPage, CrawlState.addIndexed, CrawlState.addSkipped,
        CrawlState.addFailed, h.indexed_eq, h.skipped_eq, h.failed_eq]

/-! ## Coverage -/

/-- What a crawl has covered, when threads have some locations to offer, to count, and to add to the
index. -/
structure Covers (web : Web) (seed : Url) (index : Index) (ledger : Ledger Url CrawlState)
    (unoffered uncounted unabsorbed : Multiset Url) : Prop where
  isShutdown_eq : ledger.isShutdown = false
  trail : Trail web seed ledger.memory.visited
  isLinked : ∀ url ∈ unoffered, IsLinked web seed ledger.memory.visited url
  covered : ∀ url, IsLinked web seed ledger.memory.visited url →
    url ∈ ledger.memory.visited ∨ url ∈ unoffered ∨ ledger.memory.cap ≤ ledger.memory.enqueued
  counted : ∃ counted, (ledger.accepted : Multiset Url) = uncounted + counted ∧
    IsTally web ledger.memory counted
  absorbed : ∃ absorbed, (ledger.accepted : Multiset Url) = unabsorbed + absorbed ∧
    ∀ occurrence, occurrence ∈ ledger.memory.index ↔
      occurrence ∈ index ∨ ∃ url ∈ absorbed, occurrence ∈ pageOccurrences web url
  reachable : ledger.memory.index.Reachable

namespace Covers

variable {ledger : Ledger Url CrawlState} {unoffered uncounted unabsorbed : Multiset Url}

theorem start (hindex : index.Reachable) (cap : Nat) :
    Covers web seed index ⟨.start index cap, [], [], false⟩ {seed.withoutFragment} 0 0 where
  isShutdown_eq := rfl
  trail := .nil
  isLinked url hurl := .inl (Multiset.mem_singleton.mp hurl)
  covered url hurl := by
    obtain rfl | ⟨page, hpage, -⟩ := hurl
    · exact .inr (.inl (Multiset.mem_singleton_self _))
    · cases hpage
  counted := ⟨0, rfl, rfl, rfl, rfl⟩
  absorbed := ⟨0, rfl, fun occurrence => by simp [CrawlState.start]⟩
  reachable := hindex

/-- A location is taken up, and so its links are to be offered. -/
theorem accept (h : Covers web seed index ledger ({url} + unoffered) uncounted unabsorbed)
    (haccepts : ledger.memory.accepts url = true) :
    Covers web seed index { ledger with memory := ledger.memory.accept url }
      (linksOf web url + unoffered) uncounted unabsorbed := by
  obtain ⟨hroom, hnew⟩ := CrawlState.accepts_iff.mp haccepts
  have hlinked := h.isLinked url (by simp)
  rw [CrawlState.accept, if_pos haccepts]
  refine { h with trail := h.trail.snoc hnew hlinked, isLinked := ?_, covered := ?_, counted := ?_ }
  · intro other hother
    refine isLinked_append_singleton.mpr ?_
    rcases Multiset.mem_add.mp hother with hother | hother
    · exact .inr hother
    · exact .inl (h.isLinked other (Multiset.mem_add.mpr (.inr hother)))
  · intro other hother
    -- what is linked was so before, or is linked from the location that is taken up
    rcases isLinked_append_singleton.mp hother with hother | hother
    · obtain hvisited | hunoffered | hfull := h.covered other hother
      · exact .inl (List.mem_append_left _ hvisited)
      · rcases Multiset.mem_add.mp hunoffered with hurl | hunoffered
        · exact .inl (List.mem_append_right _ (by simpa using hurl))
        · exact .inr (.inl (Multiset.mem_add.mpr (.inr hunoffered)))
      · exact .inr (.inr (Nat.le_succ_of_le hfull))
    · exact .inr (.inl (Multiset.mem_add.mpr (.inl hother)))
  · obtain ⟨counted, haccepted, htally⟩ := h.counted
    exact ⟨counted, haccepted, htally.indexed_eq, htally.skipped_eq, htally.failed_eq⟩

/-- A location that is not taken up was visited before, or there is no room for it. -/
theorem pass (h : Covers web seed index ledger ({url} + unoffered) uncounted unabsorbed)
    (hrejects : ¬ledger.memory.accepts url = true) :
    Covers web seed index ledger unoffered uncounted unabsorbed := by
  refine { h with isLinked := ?_, covered := ?_ }
  · exact fun other hother => h.isLinked other (Multiset.mem_add.mpr (.inr hother))
  · intro other hother
    obtain hvisited | hunoffered | hfull := h.covered other hother
    · exact .inl hvisited
    · rcases Multiset.mem_add.mp hunoffered with hurl | hunoffered
      · rw [Multiset.mem_singleton.mp hurl]
        by_cases hvisited : url ∈ ledger.memory.visited
        · exact .inl hvisited
        · -- it is new, so there is no room for it
          refine .inr (.inr (Nat.le_of_not_lt fun hroom => hrejects ?_))
          exact CrawlState.accepts_iff.mpr ⟨hroom, hvisited⟩
      · exact .inr (.inl hunoffered)
    · exact .inr (.inr hfull)

/-- An accepted location is to be counted, and to be added to the index. -/
theorem submitted (h : Covers web seed index ledger unoffered uncounted unabsorbed) (url : Url) :
    Covers web seed index { ledger with accepted := ledger.accepted ++ [url] } unoffered
      ({url} + uncounted) ({url} + unabsorbed) := by
  have haccepted : ((ledger.accepted ++ [url] : List Url) : Multiset Url) =
      {url} + ledger.accepted := by
    rw [← Multiset.coe_add, Multiset.coe_singleton, add_comm]
  obtain ⟨counted, hcounted, htally⟩ := h.counted
  obtain ⟨absorbed, habsorbed, hmem⟩ := h.absorbed
  exact { h with
    counted := ⟨counted, by rw [haccepted, hcounted, add_assoc], htally⟩
    absorbed := ⟨absorbed, by rw [haccepted, habsorbed, add_assoc], hmem⟩ }

/-- What is noted is neither here nor there. -/
theorem note (h : Covers web seed index ledger unoffered uncounted unabsorbed) (url : Url)
    (stage : Stage) :
    Covers web seed index { ledger with memory := ledger.memory.note url stage } unoffered uncounted
      unabsorbed := by
  obtain ⟨counted, hcounted, htally⟩ := h.counted
  exact { h with
    counted := ⟨counted, hcounted, htally.indexed_eq, htally.skipped_eq, htally.failed_eq⟩ }

/-- A location is counted. -/
theorem tally (h : Covers web seed index ledger unoffered ({url} + uncounted) unabsorbed) :
    Covers web seed index { ledger with memory := Crawl.tally (web url) ledger.memory } unoffered
      uncounted unabsorbed := by
  obtain ⟨counted, hcounted, htally⟩ := h.counted
  have hcounted' : (ledger.accepted : Multiset Url) = uncounted + ({url} + counted) := by
    rw [hcounted, add_assoc, add_left_comm]
  have htally' := htally.tally url
  cases hweb : web url with
  | page | other | broken =>
    rw [hweb] at htally'
    exact { h with counted := ⟨{url} + counted, hcounted', htally'⟩ }

/-- A page is added to the index. -/
theorem absorb (h : Covers web seed index ledger unoffered uncounted ({url} + unabsorbed))
    {part : Index} (hpart : part.Reachable)
    (hmempart : ∀ occurrence, occurrence ∈ part ↔ occurrence ∈ pageOccurrences web url) :
    Covers web seed index { ledger with memory := ledger.memory.absorb part } unoffered uncounted
      unabsorbed := by
  obtain ⟨counted, hcounted, htally⟩ := h.counted
  obtain ⟨absorbed, habsorbed, hmem⟩ := h.absorbed
  refine { h with
    counted := ⟨counted, hcounted, htally.indexed_eq, htally.skipped_eq, htally.failed_eq⟩
    absorbed := ⟨{url} + absorbed, ?_, fun occurrence => ?_⟩
    reachable := h.reachable.absorb hpart }
  · dsimp only
    rw [habsorbed, add_assoc, add_left_comm]
  · change occurrence ∈ ledger.memory.index.absorb _ ↔ _
    rw [Index.mem_absorb, hmem, hmempart]
    simp only [Multiset.mem_add, Multiset.mem_singleton, or_and_right, exists_or, exists_eq_left]
    rw [or_assoc, or_comm (a := occurrence ∈ pageOccurrences web url)]

/-- What is no page adds nothing to the index. -/
theorem drop (h : Covers web seed index ledger unoffered uncounted ({url} + unabsorbed))
    (hweb : (web url).isPage = false) :
    Covers web seed index ledger unoffered uncounted unabsorbed := by
  obtain ⟨absorbed, habsorbed, hmem⟩ := h.absorbed
  have hnone : pageOccurrences web url = [] := by
    unfold pageOccurrences
    cases hpage : web url with
    | page => rw [hpage] at hweb; cases hweb
    | _ => rfl
  refine { h with absorbed := ⟨{url} + absorbed, ?_, fun occurrence => ?_⟩ }
  · rw [habsorbed, add_assoc, add_left_comm]
  · rw [hmem]
    simp [hnone]

end Covers

/-! ## The agreement -/

/-- What a thread has to do: the locations that it has to offer, to count, and to add to the index. -/
abbrev Duty := Multiset Url × Multiset Url × Multiset Url

/-- The agreement that all threads of a crawl keep while the pool is not shut down. -/
def coverage (web : Web) (seed : Url) (index : Index) : Agreement Url CrawlState Duty where
  holds ledger duty := Covers web seed index ledger duty.1 duty.2.1 duty.2.2
  share url := (linksOf web url, {url}, {url})

variable {β : Type}

/-- Having to offer some locations. -/
def offering (urls : List Url) : Duty :=
  (urls, 0, 0)

theorem offering_cons (url : Url) (rest : List Url) :
    offering (url :: rest) = offering [url] + offering rest := by
  simp [offering, ← Multiset.cons_coe]

theorem holds_coverage_offering {ledger : Ledger Url CrawlState} {urls : List Url}
    {duty others : Duty} :
    (coverage web seed index).holds ledger (offering urls + duty + others) ↔
      Covers web seed index ledger (urls + (duty + others).1) (duty + others).2.1
        (duty + others).2.2 := by
  simp [coverage, offering, add_assoc]

theorem note_keeps_coverage {url : Url} {stage : Stage} {duty : Duty} {post : Unit → Duty → Prop}
    (hpost : post () duty) :
    (Job.modify fun state : CrawlState => state.note url stage).Keeps (coverage web seed index) post
      duty :=
  Job.keeps_modify trivial (fun _ _ h => Covers.note h url stage) hpost

/-- Offering a location, a thread has done with it what it had to. -/
theorem offer_keeps_coverage {url : Url} {duty : Duty} {post : Bool → Duty → Prop}
    (hpost : ∀ taken, post taken duty) :
    (offer url).Keeps (coverage web seed index) post (offering [url] + duty) := by
  refine ⟨trivial, fun ledger others h => ?_⟩
  dsimp only
  split
  case isFalse hrejects =>
    -- it was visited before, or there is no room for it
    refine ⟨duty, ?_, hpost false⟩
    rw [CrawlState.accept, if_neg hrejects]
    exact (holds_coverage_offering.mp h).pass hrejects
  case isTrue haccepts =>
    -- its links are left to the task, once the pool has accepted it
    refine ⟨offering (linksOf web url) + duty,
      holds_coverage_offering.mpr ((holds_coverage_offering.mp h).accept haccepts),
      Job.Keeps.bind (note_keeps_coverage ⟨?_, ?_⟩)⟩
    · -- the pool accepts it
      intro ledger others _ h
      have hsubmitted := (holds_coverage_offering.mp h).submitted url
      refine ⟨duty, ?_, hpost true⟩
      simpa [coverage, add_assoc, add_left_comm] using hsubmitted
    · -- the pool refuses nothing
      intro ledger others hclosed h
      rw [h.isShutdown_eq] at hclosed
      cases hclosed

/-- Offering locations one after the other, a thread has done with them what it had to. -/
theorem offerAll_keeps_coverage {urls : List Url} {duty : Duty} {post : Nat → Duty → Prop}
    (hpost : ∀ taken, post taken duty) :
    (offerAll urls).Keeps (coverage web seed index) post (offering urls + duty) := by
  have hoffer : ∀ url ∈ urls, ∀ rest (post : Bool → Duty → Prop),
      (∀ taken, post taken (offering rest + duty)) →
        (offer url).Keeps (coverage web seed index) post (offering (url :: rest) + duty) := by
    intro url _ rest post hpost
    rw [offering_cons, add_assoc]
    exact offer_keeps_coverage hpost
  have hnil : ∀ taken, post taken (offering [] + duty) := by
    intro taken
    -- having nothing to offer, only the rest of the duty is left
    rw [show offering [] = 0 from rfl, zero_add]
    exact hpost taken
  exact offerAll_keeps hoffer hnil

/-- A location is counted at the end of its task. -/
theorem tally_keeps_coverage (url : Url) :
    (Job.modify (tally (web url))).Keeps (coverage web seed index) Spent (0, {url}, 0) := by
  refine ⟨trivial, fun ledger others h => ⟨0, ?_, rfl⟩⟩
  have hcovers : Covers web seed index ledger others.1 ({url} + others.2.1) others.2.2 := by
    simpa [coverage] using h
  simpa [coverage] using hcovers.tally

/-- What is no page has no links, and nothing to add to the index. -/
theorem tally_keeps_coverage_of_not_page {url : Url} (hweb : (web url).isPage = false) :
    (Job.modify (tally (web url))).Keeps (coverage web seed index) Spent
      ((coverage web seed index).share url) := by
  have hlinks : linksOf web url = [] := by
    unfold linksOf
    cases hpage : web url with
    | page => rw [hpage] at hweb; cases hweb
    | _ => rfl
  refine ⟨trivial, fun ledger others h => ⟨0, ?_, rfl⟩⟩
  have hcovers : Covers web seed index ledger others.1 ({url} + others.2.1)
      ({url} + others.2.2) := by
    simpa [coverage, hlinks] using h
  simpa [coverage] using (hcovers.drop hweb).tally

theorem readPage_keeps_coverage {url : Url} {text : String} (hweb : web url = .page text) :
    (readPage url text).Keeps (coverage web seed index) Spent
      ((coverage web seed index).share url) := by
  have hlinks : linksOf web url = pageLinks url text := by rw [linksOf, hweb]
  have hshare : (coverage web seed index).share url =
      offering (pageLinks url text) + (0, {url}, {url}) := by
    simp [coverage, offering, hlinks]
  have htally : (Job.modify (tally (web url))).Keeps (coverage web seed index) Spent (0, {url}, 0) :=
    tally_keeps_coverage url
  rw [hweb] at htally
  rw [hshare]
  refine Job.Keeps.bind (note_keeps_coverage ?_)
  -- once the links are offered, the page is left to be indexed and counted
  refine Job.Keeps.bind (offerAll_keeps_coverage fun taken => ?_)
  refine Job.Keeps.bind (note_keeps_coverage ?_)
  refine Job.Keeps.bind ⟨trivial, fun ledger others h => ⟨(0, {url}, 0), ?_, htally⟩⟩
  have hcovers : Covers web seed index ledger others.1 ({url} + others.2.1)
      ({url} + others.2.2) := by
    simpa [coverage] using h
  have habsorbed := hcovers.absorb (Index.reachable_ofText _ _) fun _ =>
    mem_ofText_iff_mem_pageOccurrences hweb
  simpa [coverage] using habsorbed

/-- A task offers the links of its location, counts it, and adds it to the index. -/
theorem visit_keeps_coverage (url : Url) :
    (visit web url).Keeps (coverage web seed index) Spent ((coverage web seed index).share url) := by
  refine Job.Keeps.bind (note_keeps_coverage ?_)
  show (receive url (web url)).Keeps _ _ _
  cases hweb : web url with
  | page text => exact readPage_keeps_coverage hweb
  | other | broken =>
    have htally : (Job.modify (tally (web url))).Keeps (coverage web seed index) Spent
        ((coverage web seed index).share url) :=
      tally_keeps_coverage_of_not_page (by rw [hweb]; rfl)
    rw [hweb] at htally
    exact htally

/-- A crawl offers its seed. -/
theorem crawl_keeps_coverage :
    (crawl seed).Keeps (coverage web seed index) Spent (offering [seed.withoutFragment]) := by
  refine crawl_keeps trivial fun post hpost => ?_
  have hkeeps : (offer seed.withoutFragment).Keeps (coverage web seed index) post
      (offering [seed.withoutFragment] + 0) := offer_keeps_coverage hpost
  rwa [add_zero] at hkeeps

end Crawl

end Concordance
