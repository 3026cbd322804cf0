import Concordance.Crawl.Visit
import Mathlib.Data.ENat.Lattice
import Mathlib.Data.Set.Card

/-!
# What can be reached from a seed

The locations that a crawl is to visit are the seed and whatever pages link to that are to be visited.
There may be infinitely many. A crawl leaves a trail: it visits one location after the other, each new
and linked from one before. A trail that has followed all links, or is as long as it may be, has
visited as many locations as it could.

## Main definitions

* `Crawl.linksOf`: the links of a location
* `Crawl.Reaches`: a location can be reached from a seed
* `Crawl.Trail`: the locations that were visited, in order

## Main results

* `Trail.length_eq`: how many locations a trail has visited that goes no further
* `Trail.mem_iff`: which ones, if all that can be reached have room
* `Trail.subset_within`: a trail of bounded length stays in a finite list
-/

namespace Concordance.Crawl

variable {web : Web} {seed url : Url} {visited : List Url}

/-- The links of a location, if it has a page. -/
def linksOf (web : Web) (url : Url) : List Url :=
  match web url with
  | .page text => pageLinks url text
  | _ => []

/-- A location can be reached from a seed by links on pages. -/
inductive Reaches (web : Web) (seed : Url) : Url → Prop
  | seed : Reaches web seed seed.withoutFragment
  | link {page url : Url} (h : Reaches web seed page) (hlink : url ∈ linksOf web page) :
    Reaches web seed url

/-- The locations that can be reached from a seed. -/
def reachable (web : Web) (seed : Url) : Set Url :=
  {url | Reaches web seed url}

/-- A location is the seed, or linked from one that was visited. -/
def IsLinked (web : Web) (seed : Url) (visited : List Url) (url : Url) : Prop :=
  url = seed.withoutFragment ∨ ∃ page ∈ visited, url ∈ linksOf web page

/-- The locations that were visited, in order: each is new, and the seed or linked from one before. -/
inductive Trail (web : Web) (seed : Url) : List Url → Prop
  | nil : Trail web seed []
  | snoc {visited : List Url} {url : Url} (h : Trail web seed visited) (hnew : url ∉ visited)
    (hlinked : IsLinked web seed visited url) : Trail web seed (visited ++ [url])

theorem IsLinked.append (h : IsLinked web seed visited url) (more : List Url) :
    IsLinked web seed (visited ++ more) url :=
  h.imp_right fun ⟨page, hpage, hlink⟩ => ⟨page, List.mem_append_left more hpage, hlink⟩

theorem isLinked_append_singleton {last : Url} :
    IsLinked web seed (visited ++ [last]) url ↔
      IsLinked web seed visited url ∨ url ∈ linksOf web last := by
  simp [IsLinked, or_and_right, exists_or, or_assoc]

namespace Trail

theorem nodup (h : Trail web seed visited) : visited.Nodup := by
  induction h with
  | nil => exact List.nodup_nil
  | @snoc visited url _ hnew _ ih =>
    refine List.nodup_append.mpr ⟨ih, List.nodup_singleton url, ?_⟩
    rintro other hother _ hurl rfl
    exact hnew (List.mem_singleton.mp hurl ▸ hother)

/-- What was visited was linked from what was visited. -/
theorem isLinked (h : Trail web seed visited) (hurl : url ∈ visited) :
    IsLinked web seed visited url := by
  induction h with
  | nil => cases hurl
  | snoc _ _ hlinked ih =>
    rcases List.mem_append.mp hurl with hurl | hurl
    · exact (ih hurl).append _
    · rw [List.mem_singleton.mp hurl]
      exact hlinked.append _

/-- What was visited can be reached. -/
theorem reaches (h : Trail web seed visited) (hurl : url ∈ visited) : Reaches web seed url := by
  induction h generalizing url with
  | nil => cases hurl
  | snoc _ _ hlinked ih =>
    rcases List.mem_append.mp hurl with hurl | hurl
    · exact ih hurl
    · rw [List.mem_singleton.mp hurl]
      obtain rfl | ⟨page, hpage, hlink⟩ := hlinked
      · exact .seed
      · exact .link (ih hpage) hlink

/-- A trail that has followed all links has visited all that can be reached. -/
theorem mem_of_reaches (hclosed : ∀ url, IsLinked web seed visited url → url ∈ visited)
    (hurl : Reaches web seed url) : url ∈ visited := by
  induction hurl with
  | seed => exact hclosed _ (.inl rfl)
  | link _ hlink ih => exact hclosed _ (.inr ⟨_, ih, hlink⟩)

theorem encard_eq (h : Trail web seed visited) :
    {url | url ∈ visited}.encard = visited.length := by
  rw [← List.coe_toFinset, Set.encard_coe_eq_coe_finsetCard, List.toFinset_card_of_nodup h.nodup]

/-- A trail visits no more than can be reached. -/
theorem length_le (h : Trail web seed visited) :
    (visited.length : ℕ∞) ≤ (reachable web seed).encard := by
  rw [← h.encard_eq]
  exact Set.encard_le_encard fun url hurl => h.reaches hurl

variable {cap : Nat}

/-- **How many locations a trail has visited that goes no further**: it has followed all links, or is
as long as it may be. -/
theorem length_eq (h : Trail web seed visited) (hle : visited.length ≤ cap)
    (hcovered : ∀ url, IsLinked web seed visited url → url ∈ visited ∨ cap ≤ visited.length) :
    (visited.length : ℕ∞) = min (cap : ℕ∞) (reachable web seed).encard := by
  by_cases hfull : cap ≤ visited.length
  · -- it is as long as it may be
    obtain rfl : visited.length = cap := Nat.le_antisymm hle hfull
    exact (min_eq_left h.length_le).symm
  · -- it has followed all links, and so visited all that can be reached
    have hclosed : ∀ url, IsLinked web seed visited url → url ∈ visited := fun url hurl =>
      (hcovered url hurl).resolve_right hfull
    have hall : reachable web seed = {url | url ∈ visited} :=
      Set.ext fun url => ⟨mem_of_reaches hclosed, h.reaches⟩
    rw [hall, h.encard_eq]
    exact (min_eq_right (by exact_mod_cast hle)).symm

/-- **Which locations a trail has visited that goes no further**, if all that can be reached have
room. -/
theorem mem_iff (h : Trail web seed visited)
    (hcovered : ∀ url, IsLinked web seed visited url → url ∈ visited ∨ cap ≤ visited.length)
    (hroom : (reachable web seed).encard ≤ cap) : url ∈ visited ↔ Reaches web seed url := by
  refine ⟨h.reaches, fun hurl => ?_⟩
  by_cases hfull : cap ≤ visited.length
  · -- it has visited as many locations as can be reached, so all of them
    have hsame : {url | url ∈ visited} = reachable web seed := by
      refine (Set.finite_of_encard_le_coe hroom).eq_of_subset_of_encard_le' (fun url => h.reaches) ?_
      rw [h.encard_eq]
      exact hroom.trans (by exact_mod_cast hfull)
    exact hsame.symm.subset hurl
  · exact mem_of_reaches (fun url hlinked => (hcovered url hlinked).resolve_right hfull) hurl

end Trail

/-! ## Bounds -/

/-- What can be reached by so many steps at most. -/
def within (web : Web) (seed : Url) : Nat → List Url
  | 0 => []
  | n + 1 => within web seed n ++ seed.withoutFragment :: (within web seed n).flatMap (linksOf web)

theorem within_subset {m n : Nat} (h : m ≤ n) : within web seed m ⊆ within web seed n := by
  induction h with
  | refl => exact List.Subset.refl _
  | step _ ih => exact fun url hurl => List.mem_append_left _ (ih hurl)

/-- A trail of bounded length stays in a finite list. -/
theorem Trail.subset_within (h : Trail web seed visited) :
    visited ⊆ within web seed visited.length := by
  induction h with
  | nil => exact List.nil_subset _
  | @snoc visited url _ _ hlinked ih =>
    -- the last location takes one step more than those before it
    rw [List.length_append, List.length_singleton, within]
    intro other hother
    rcases List.mem_append.mp hother with hother | hother
    · exact List.mem_append_left _ (ih hother)
    · rw [List.mem_singleton.mp hother]
      refine List.mem_append_right _ ?_
      obtain rfl | ⟨page, hpage, hlink⟩ := hlinked
      · exact List.mem_cons_self
      · exact List.mem_cons_of_mem _ (List.mem_flatMap.mpr ⟨page, ih hpage, hlink⟩)

end Concordance.Crawl
