import Concordance.Crawl.Visit
import Concordance.Proofs.Pool.Return

/-!
# The jobs of a crawl

What can be said of the jobs of a crawl whatever its threads agree on: what they offer has no fragment,
they keep an agreement if offering a location does, and a crawl reads its report only after it has seen
the pool idle.

## Main results

* `offerAll_keeps`, `crawl_keeps`: offering locations and crawling keep what offering one location keeps
* `crawl_readsWhenIdle`: a crawl reads its report when the pool is idle
-/

namespace Concordance

theorem Url.fragment_withoutFragment (url : Url) : url.withoutFragment.fragment = none := by
  unfold Url.withoutFragment
  split <;> rfl

namespace Crawl

theorem fragment_of_mem_pageLinks {page : Url} {text : String} {url : Url}
    (h : url ∈ pageLinks page text) : url.fragment = none := by
  unfold pageLinks at h
  rw [List.mem_eraseDups, List.mem_filterMap] at h
  obtain ⟨target, -, htarget⟩ := h
  unfold resolveTarget at htarget
  split at htarget
  · next joined _ =>
    split at htarget
    · cases htarget
      exact joined.fragment_withoutFragment
    · cases htarget
  · cases htarget

theorem stageAfter_ne_fetching (accepted : Nat) : stageAfter accepted ≠ .fetching := by
  unfold stageAfter
  split <;> simp

/-! ## Agreements -/

section Agreement

variable {M : Type} [AddCommMonoid M] {agreement : Agreement Url CrawlState M}

/-- Offering locations one after the other keeps an agreement if offering each one does, with the share
that the others need left over. -/
theorem offerAll_keeps {share : List Url → M} {urls : List Url} {post : Nat → M → Prop}
    (hoffer : ∀ url ∈ urls, ∀ rest (post : Bool → M → Prop), (∀ taken, post taken (share rest)) →
      (offer url).Keeps agreement post (share (url :: rest)))
    (hpost : ∀ taken, post taken (share [])) :
    (offerAll urls).Keeps agreement post (share urls) := by
  induction urls generalizing post with
  | nil => exact hpost 0
  | cons url rest ih =>
    refine Job.Keeps.bind (hoffer url List.mem_cons_self rest _ fun taken => Job.Keeps.bind ?_)
    exact ih (fun other hother => hoffer other (List.mem_cons_of_mem url hother)) fun more => hpost _

theorem readReport_keeps (hpermits : agreement.permits id 0) :
    readReport.Keeps agreement Spent 0 := by
  refine Job.Keeps.bind (Job.keeps_look hpermits fun enqueued => ?_)
  refine Job.Keeps.bind (Job.keeps_look hpermits fun indexed => ?_)
  refine Job.Keeps.bind (Job.keeps_look hpermits fun skipped => ?_)
  exact Job.Keeps.bind (Job.keeps_look hpermits fun failed => rfl)

/-- A crawl keeps an agreement if offering its seed does, and leaves nothing to do. -/
theorem crawl_keeps {seed : Url} {g : M} (hpermits : agreement.permits id 0)
    (hoffer : ∀ post : Bool → M → Prop, (∀ taken, post taken 0) →
      (offer seed.withoutFragment).Keeps agreement post g) :
    (crawl seed).Keeps agreement Spent g :=
  Job.Keeps.bind (hoffer _ fun _ => ⟨rfl, readReport_keeps hpermits⟩)

end Agreement

/-! ## The report -/

/-- A crawl waits until the pool is idle, and then reads its report. -/
theorem crawl_readsWhenIdle (seed : Url) : (crawl seed).ReadsWhenIdle CrawlState.report := by
  intro state
  dsimp only
  split
  · intro _ accepted
    cases accepted with
    | true => exact fun memory => ⟨rfl, rfl, rfl, rfl, rfl⟩
    | false => exact fun _ _ memory => ⟨rfl, rfl, rfl, rfl, rfl⟩
  · exact fun memory => ⟨rfl, rfl, rfl, rfl, rfl⟩

end Crawl

end Concordance
