import Concordance.Proofs.Crawl.Phases
import Concordance.Proofs.Crawl.Reachability
import Mathlib.Order.ConditionallyCompleteLattice.Basic

/-!
# Breadth-first traversal

A traversal by one hand keeps the locations that it has admitted and the queue of those that it has still
to look at. It admits a link if it is new and there is room. The locations are admitted in the order of
their distance from the seed, in the whole web, also where the cap cuts the traversal short.

## Main definitions

* `Crawl.Traversal`: how far a traversal has come
* `Traversal.offer`, `Traversal.look`, `Traversal.finish`: its steps, and the rest of it
* `Crawl.traverse`: the whole traversal from a seed
* `Crawl.ReachesIn`, `Crawl.distance`: how many links a location is away from the seed
* `Crawl.BreadthFirst`: a location is admitted only after all links of the pages before its page were

## Main results

* `Traversal.finish_of_nil`, `Traversal.finish_of_cons`: what the rest of a traversal does
* `BreadthFirst.pairwise_distance`: locations that are admitted so come in the order of their distance
* `breadthFirst_traverse`: a traversal admits them so
-/

namespace Concordance.Crawl

variable {web : Web} {seed url : Url} {cap : Nat}

/-! ## Traversals -/

/-- How far a traversal has come. -/
structure Traversal where
  /-- The locations that were admitted and not looked at, in order. -/
  queue : List Url
  /-- The locations that were admitted, in order. -/
  admitted : List Url
  index : Index
  indexed : Nat
  skipped : Nat
  failed : Nat

namespace Traversal

/-- Offers a location, which is admitted if it is new and there is room. -/
def offer (cap : Nat) (t : Traversal) (url : Url) : Traversal :=
  if url ∉ t.admitted ∧ t.admitted.length < cap then
    { t with queue := t.queue ++ [url], admitted := t.admitted ++ [url] }
  else t

/-- Adds the index of a page. -/
def addPage (t : Traversal) (page : Index) : Traversal :=
  { t with index := t.index.merge page, indexed := t.indexed + 1 }

/-- Looks at a location: the links of a page are offered in order, and then the page is indexed. -/
def look (web : Web) (cap : Nat) (t : Traversal) (url : Url) : Traversal :=
  match web url with
  | .page text => ((pageLinks url text).foldl (offer cap) t).addPage (pageIndex url text)
  | .other => { t with skipped := t.skipped + 1 }
  | .broken => { t with failed := t.failed + 1 }

/-- How many locations a traversal can look at before it is at its end. -/
def room (cap : Nat) (t : Traversal) : Nat :=
  cap - t.admitted.length + t.queue.length

theorem room_offer (t : Traversal) (url : Url) : (t.offer cap url).room cap = t.room cap := by
  unfold offer
  split
  · next h =>
    simp only [room, List.length_append, List.length_singleton]
    omega
  · rfl

theorem room_foldl (links : List Url) (t : Traversal) :
    (links.foldl (offer cap) t).room cap = t.room cap := by
  induction links generalizing t with
  | nil => rfl
  | cons link links ih => rw [List.foldl_cons, ih, room_offer]

theorem room_addPage (t : Traversal) (page : Index) : (t.addPage page).room cap = t.room cap := rfl

theorem room_look (t : Traversal) (url : Url) : (t.look web cap url).room cap = t.room cap := by
  unfold look
  split
  · rw [room_addPage, room_foldl]
  · rfl
  · rfl

/-- The rest of a traversal: it looks at the locations in its queue one after the other. -/
def finish (web : Web) (cap : Nat) (t : Traversal) : Traversal :=
  match _ : t.queue with
  | [] => t
  | url :: rest => finish web cap (look web cap { t with queue := rest } url)
termination_by t.room cap
decreasing_by
  next hqueue =>
  -- what the links take up of the room they add to the queue
  rw [room_look]
  simp only [room, hqueue, List.length_cons]
  omega

theorem finish_of_nil {t : Traversal} (h : t.queue = []) : t.finish web cap = t := by
  rw [finish]
  split
  · rfl
  · next hqueue =>
    rw [h] at hqueue
    cases hqueue

theorem finish_of_cons {t : Traversal} {rest : List Url} (h : t.queue = url :: rest) :
    t.finish web cap = (look web cap { t with queue := rest } url).finish web cap := by
  rw [finish]
  split
  · next hqueue =>
    rw [h] at hqueue
    cases hqueue
  · next hqueue =>
    rw [h] at hqueue
    cases hqueue
    rfl

/-- What looking at a location keeps, the rest of a traversal keeps. -/
theorem finish_keeps {p : Traversal → Prop}
    (hlook : ∀ t url rest, t.queue = url :: rest → p t → p (look web cap { t with queue := rest } url))
    {t : Traversal} (h : p t) : p (t.finish web cap) ∧ (t.finish web cap).queue = [] := by
  induction t using finish.induct web cap with
  | case1 t hqueue =>
    rw [finish_of_nil hqueue]
    exact ⟨h, hqueue⟩
  | case2 t url rest hqueue ih =>
    rw [finish_of_cons hqueue]
    exact ih (hlook t url rest hqueue h)

/-- The outcome so far. -/
def report (t : Traversal) : CrawlReport :=
  ⟨t.admitted.length, t.indexed, t.skipped, t.failed⟩

end Traversal

/-- The traversal from a seed that has still to look at its first location. -/
def Traversal.start (cap : Nat) (index : Index) (seed : Url) : Traversal :=
  .offer cap ⟨[], [], index, 0, 0, 0⟩ seed.withoutFragment

/-- The whole traversal from a seed. -/
def traverse (web : Web) (cap : Nat) (index : Index) (seed : Url) : Traversal :=
  (Traversal.start cap index seed).finish web cap

/-! ## Distances -/

/-- A location can be reached from a seed by so many links, one after the other. -/
inductive ReachesIn (web : Web) (seed : Url) : Nat → Url → Prop
  | seed : ReachesIn web seed 0 seed.withoutFragment
  | link {n : Nat} {page url : Url} (h : ReachesIn web seed n page) (hlink : url ∈ linksOf web page) :
    ReachesIn web seed (n + 1) url

/-- How many links a location is away from a seed that it can be reached from. -/
noncomputable def distance (web : Web) (seed url : Url) : Nat :=
  sInf {n | ReachesIn web seed n url}

theorem Reaches.exists_reachesIn (h : Reaches web seed url) : ∃ n, ReachesIn web seed n url := by
  induction h with
  | seed => exact ⟨0, .seed⟩
  | link _ hlink ih =>
    obtain ⟨n, hpage⟩ := ih
    exact ⟨n + 1, hpage.link hlink⟩

/-- A location is no further away than another if it can be reached whenever that one can. -/
theorem distance_le_distance {other : Url} (hother : Reaches web seed other)
    (h : ∀ n, ReachesIn web seed n other → ∃ m ≤ n, ReachesIn web seed m url) :
    distance web seed url ≤ distance web seed other := by
  -- the least number is one of them
  have hmem : distance web seed other ∈ {n | ReachesIn web seed n other} :=
    Nat.sInf_mem hother.exists_reachesIn
  obtain ⟨m, hle, hurl⟩ := h _ hmem
  exact (Nat.sInf_le hurl).trans hle

/-- On the way to a location that was not admitted there is a page that was, with a link that was not. -/
theorem ReachesIn.exists_mem {admitted : List Url} (hseed : seed.withoutFragment ∈ admitted) {n : Nat}
    (h : ReachesIn web seed n url) (hurl : url ∉ admitted) :
    ∃ m < n, ∃ page ∈ admitted, ReachesIn web seed m page ∧ ¬ linksOf web page ⊆ admitted := by
  induction h with
  | seed => exact absurd hseed hurl
  | @link n page url hpage hlink ih =>
    -- either its own page was admitted, or there is such a page on the way to that one
    by_cases hmem : page ∈ admitted
    · exact ⟨n, Nat.lt_succ_self n, page, hmem, hpage, fun hsubset => hurl (hsubset hlink)⟩
    · obtain ⟨m, hlt, found⟩ := ih hmem
      exact ⟨m, Nat.lt_succ_of_lt hlt, found⟩

/-! ## Admitting in breadth-first order -/

/-- Locations are admitted in breadth-first order: the seed comes first, and a link of a page only after
all links of the pages before it. -/
inductive BreadthFirst (web : Web) (seed : Url) : List Url → Prop
  | nil : BreadthFirst web seed []
  | seed : BreadthFirst web seed [seed.withoutFragment]
  | link {before after : List Url} {page url : Url} (h : BreadthFirst web seed (before ++ page :: after))
    (hlink : url ∈ linksOf web page) (hnew : url ∉ before ++ page :: after)
    (hbefore : ∀ other ∈ before, linksOf web other ⊆ before ++ page :: after) :
    BreadthFirst web seed (before ++ page :: after ++ [url])

namespace BreadthFirst

variable {admitted : List Url}

theorem trail (h : BreadthFirst web seed admitted) : Trail web seed admitted := by
  induction h with
  | nil => exact .nil
  | seed => exact .snoc .nil List.not_mem_nil (.inl rfl)
  | @link before after page url _ hlink hnew _ ih =>
    exact .snoc ih hnew (.inr ⟨page, List.mem_append_right _ List.mem_cons_self, hlink⟩)

theorem seed_mem (h : BreadthFirst web seed admitted) (hne : admitted ≠ []) :
    seed.withoutFragment ∈ admitted := by
  induction h with
  | nil => exact absurd rfl hne
  | seed => exact List.mem_singleton_self _
  | link _ _ _ _ ih => exact List.mem_append_left _ (ih (by simp))

/-- A location can be reached by as few links as any that was not admitted before it. -/
theorem exists_reachesIn (h : BreadthFirst web seed admitted) {before after : List Url} {url : Url}
    (hadmitted : admitted = before ++ url :: after) {other : Url} (hother : other ∉ before) {n : Nat}
    (hreaches : ReachesIn web seed n other) : ∃ m ≤ n, ReachesIn web seed m url := by
  induction h generalizing before after url other n with
  | nil => simp at hadmitted
  | seed =>
    obtain ⟨rfl, rfl, rfl⟩ : before = [] ∧ seed.withoutFragment = url ∧ after = [] := by
      cases before with
      | nil => simpa using hadmitted
      | cons => simp at hadmitted
    exact ⟨0, Nat.zero_le n, .seed⟩
  | @link first last page link hbreadth hlink hnew hfirst ih =>
    rcases List.eq_nil_or_concat after with rfl | ⟨rest, final, rfl⟩
    · -- the last one: on the way to the other there is a page that is no earlier than its own
      obtain ⟨rfl, rfl⟩ : first ++ page :: last = before ∧ link = url := by
        simpa using List.append_inj' hadmitted rfl
      obtain ⟨m, hlt, source, hsource, hreachesSource, hopen⟩ :=
        hreaches.exists_mem (hbreadth.seed_mem (by simp)) hother
      have hlate : source ∉ first := fun hmem => hopen (hfirst source hmem)
      obtain ⟨k, hle, hpage⟩ := ih rfl hlate hreachesSource
      exact ⟨k + 1, Nat.lt_of_le_of_lt hle hlt, hpage.link hlink⟩
    · -- one before: what comes after it does not matter
      have hinit : first ++ page :: last = before ++ url :: rest := by
        have hall : first ++ page :: last ++ [link] = before ++ url :: rest ++ [final] := by
          simpa using hadmitted
        exact (List.append_inj' hall rfl).1
      exact ih hinit hother hreaches

/-- **Locations that are admitted in breadth-first order come in the order of their distance.** -/
theorem pairwise_distance (h : BreadthFirst web seed admitted) :
    admitted.Pairwise fun first second => distance web seed first ≤ distance web seed second := by
  induction h with
  | nil => exact .nil
  | seed => exact List.pairwise_singleton _ _
  | @link before after page url h hlink hnew hbefore ih =>
    refine List.pairwise_append.mpr ⟨ih, List.pairwise_singleton _ _, fun first hmem last hlast => ?_⟩
    obtain rfl : last = url := List.mem_singleton.mp hlast
    -- the last one was not admitted before any of the others, so it is no nearer
    have hreaches : Reaches web seed last :=
      .link (h.trail.reaches (List.mem_append_right _ List.mem_cons_self)) hlink
    obtain ⟨front, back, hsplit⟩ := List.append_of_mem hmem
    refine distance_le_distance hreaches fun n => h.exists_reachesIn hsplit fun hfront => hnew ?_
    rw [hsplit]
    exact List.mem_append_left _ hfront

end BreadthFirst

/-! ## What a traversal has admitted -/

namespace Traversal

/-- What a traversal has admitted that is through with some locations, and has others ahead of it. -/
structure Explores (web : Web) (seed : Url) (cap : Nat) (done ahead admitted : List Url) : Prop where
  admitted_eq : admitted = done ++ ahead
  breadthFirst : BreadthFirst web seed admitted
  /-- While there is room, all links were admitted of the locations that it is through with. -/
  covered : admitted.length < cap → ∀ page ∈ done, linksOf web page ⊆ admitted

variable {done rest : List Url} {page : Url} {t : Traversal}

theorem admitted_offer (t : Traversal) (url : Url) : t.admitted <+: (t.offer cap url).admitted := by
  unfold offer
  split
  · exact List.prefix_append _ _
  · exact List.prefix_rfl

theorem admitted_foldl (cap : Nat) (links : List Url) (t : Traversal) :
    t.admitted <+: (links.foldl (offer cap) t).admitted := by
  induction links generalizing t with
  | nil => exact List.prefix_rfl
  | cons link links ih => exact (t.admitted_offer link).trans (ih _)

/-- A link of the page that comes next is offered. -/
theorem Explores.offer (h : Explores web seed cap done (page :: t.queue) t.admitted) {link : Url}
    (hlink : link ∈ linksOf web page) :
    Explores web seed cap done (page :: (t.offer cap link).queue) (t.offer cap link).admitted ∧
      ((t.offer cap link).admitted.length < cap → link ∈ (t.offer cap link).admitted) := by
  obtain ⟨hadmitted, hbreadth, hcovered⟩ := h
  unfold Traversal.offer
  split
  · next hadmits =>
    obtain ⟨hnew, hroom⟩ := hadmits
    -- there is room, so all links of the pages before were admitted
    have hbefore := hcovered hroom
    refine ⟨⟨?_, ?_, fun _ other hother => ?_⟩, fun _ => by simp⟩
    · simp [hadmitted]
    · rw [hadmitted] at hbreadth hnew hbefore ⊢
      exact hbreadth.link hlink hnew hbefore
    · exact List.Subset.trans (hbefore other hother) (List.subset_append_left _ _)
  · next hrefuses =>
    -- it is refused while there is room only because it was admitted before
    refine ⟨⟨hadmitted, hbreadth, hcovered⟩, fun hroom => ?_⟩
    by_contra hnew
    exact hrefuses ⟨hnew, hroom⟩

/-- The links of the page that comes next are offered. -/
theorem Explores.foldl_offer (h : Explores web seed cap done (page :: t.queue) t.admitted)
    {links : List Url} (hlinks : links ⊆ linksOf web page) :
    Explores web seed cap done (page :: (links.foldl (Traversal.offer cap) t).queue)
        (links.foldl (Traversal.offer cap) t).admitted ∧
      ((links.foldl (Traversal.offer cap) t).admitted.length < cap →
        links ⊆ (links.foldl (Traversal.offer cap) t).admitted) := by
  induction links generalizing t with
  | nil => exact ⟨h, fun _ => List.nil_subset _⟩
  | cons link links ih =>
    obtain ⟨hnext, hlink⟩ := h.offer (hlinks List.mem_cons_self)
    obtain ⟨hlast, hrest⟩ := ih hnext fun other hother => hlinks (.tail _ hother)
    refine ⟨hlast, fun hroom => List.cons_subset.mpr ⟨?_, hrest hroom⟩⟩
    -- there was room before if there is any left
    have hmore := admitted_foldl cap links (t.offer cap link)
    exact hmore.subset (hlink (Nat.lt_of_le_of_lt hmore.length_le hroom))

theorem admitted_addPage (t : Traversal) (page : Index) : (t.addPage page).admitted = t.admitted := rfl

theorem queue_addPage (t : Traversal) (page : Index) : (t.addPage page).queue = t.queue := rfl

/-- A traversal is through with the page that comes next if all of its links were admitted, or there is no
room left. -/
theorem Explores.through (h : Explores web seed cap done (page :: t.queue) t.admitted)
    (hlinks : t.admitted.length < cap → linksOf web page ⊆ t.admitted) :
    Explores web seed cap (done ++ [page]) t.queue t.admitted where
  admitted_eq := by rw [h.admitted_eq, List.append_assoc, List.singleton_append]
  breadthFirst := h.breadthFirst
  covered hroom other hother := by
    rcases List.mem_append.mp hother with hother | hother
    · exact h.covered hroom other hother
    · rw [List.mem_singleton.mp hother]
      exact hlinks hroom

/-- A traversal is through with the location that it has looked at. -/
theorem Explores.look (h : Explores web seed cap done (page :: t.queue) t.admitted) :
    Explores web seed cap (done ++ [page]) (t.look web cap page).queue (t.look web cap page).admitted := by
  unfold Traversal.look
  split
  · next text hweb =>
    rw [queue_addPage, admitted_addPage]
    have hlinks : linksOf web page = pageLinks page text := by rw [linksOf, hweb]
    obtain ⟨hnext, hoffered⟩ := h.foldl_offer (List.Subset.refl (linksOf web page))
    rw [hlinks] at hnext hoffered
    exact hnext.through (by rw [hlinks]; exact hoffered)
  · next hweb =>
    have hlinks : linksOf web page = [] := by rw [linksOf, hweb]
    exact h.through fun _ => hlinks ▸ List.nil_subset _
  · next hweb =>
    have hlinks : linksOf web page = [] := by rw [linksOf, hweb]
    exact h.through fun _ => hlinks ▸ List.nil_subset _

theorem admitted_look (web : Web) (cap : Nat) (t : Traversal) (url : Url) :
    t.admitted <+: (t.look web cap url).admitted := by
  unfold look
  split
  · rw [admitted_addPage]
    exact admitted_foldl cap _ t
  · exact List.prefix_rfl
  · exact List.prefix_rfl

/-- The rest of a traversal admits more locations, and looks at all. -/
theorem admitted_finish (web : Web) (cap : Nat) (t : Traversal) :
    t.admitted <+: (t.finish web cap).admitted :=
  (finish_keeps (p := fun last => t.admitted <+: last.admitted)
    (fun last url rest _ h => h.trans (admitted_look web cap { last with queue := rest } url))
    List.prefix_rfl).1

/-- At its end, a traversal is through with all that it has admitted. -/
theorem Explores.finish (h : Explores web seed cap done t.queue t.admitted) :
    Explores web seed cap (t.finish web cap).admitted [] (t.finish web cap).admitted := by
  -- it is through with one location more each time
  have hlook : ∀ (t : Traversal) url rest, t.queue = url :: rest →
      (∃ done, Explores web seed cap done t.queue t.admitted) →
      ∃ done, Explores web seed cap done (Traversal.look web cap { t with queue := rest } url).queue
        (Traversal.look web cap { t with queue := rest } url).admitted := by
    rintro t url rest hqueue ⟨done, h⟩
    rw [hqueue] at h
    exact ⟨_, Explores.look (t := { t with queue := rest }) h⟩
  obtain ⟨⟨done, hlast⟩, hqueue⟩ := finish_keeps
    (p := fun t => ∃ done, Explores web seed cap done t.queue t.admitted) hlook ⟨done, h⟩
  rw [hqueue] at hlast
  have hdone : done = (t.finish web cap).admitted := by rw [hlast.admitted_eq, List.append_nil]
  exact hdone ▸ hlast

end Traversal

/-- **A traversal admits locations in breadth-first order.** -/
theorem breadthFirst_traverse (web : Web) (cap : Nat) (index : Index) (seed : Url) :
    BreadthFirst web seed (traverse web cap index seed).admitted := by
  have hstart : Traversal.Explores web seed cap [] (Traversal.start cap index seed).queue
      (Traversal.start cap index seed).admitted := by
    unfold Traversal.start Traversal.offer
    split
    · exact ⟨rfl, .seed, fun _ _ hpage => absurd hpage List.not_mem_nil⟩
    · exact ⟨rfl, .nil, fun _ _ hpage => absurd hpage List.not_mem_nil⟩
  exact hstart.finish.breadthFirst

end Concordance.Crawl
