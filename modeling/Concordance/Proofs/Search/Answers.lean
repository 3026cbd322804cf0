import Concordance.Proofs.Search.Matching
import Mathlib.Algebra.Order.BigOperators.Group.List

/-!
# The answer to a search

In an index that was made by adding and merging, a search finds every location at which a matching term
has a posting, as words are counted wherever anything is. What it lists is told by the postings alone:
neither the order in which the terms of the query were looked up, nor that in which what was found is
gone through, makes a difference.

## Main definitions

* `Index.expectedCount`: how often a query should match at a location
* `Index.Answers`: results are the answer to a query

## Main results

* `matchCount_eq_expectedCount`: adding up by terms of the query or by terms of the index is the same
* `IsConsistent.matchCount_ne_zero_iff`: a query matches where a matching term has a posting
* `search_answers`: a search in a reachable index gives the answer
-/

namespace Concordance.Index

variable {index : Index} {query : TermSet} {mode : SearchMode} {location : String}

/-- How often a query should match at a location: for exact matches as often as its terms are there, for
partial matches as often as indexed terms are, each counted once for each term of the query that it starts
with. -/
def expectedCount (index : Index) (query : TermSet) (location : String) : SearchMode → Nat
  | .exact => (query.toList.map fun wanted => index.frequency wanted location).sum
  | .partialMatch =>
    (index.terms.map fun term =>
      index.frequency term location * query.toList.countP fun wanted => startsWith wanted term).sum

theorem matchCount_eq_expectedCount (index : Index) (query : TermSet) (mode : SearchMode)
    (location : String) :
    index.matchCount query mode location = index.expectedCount query location mode := by
  cases mode with
  | exact => simp only [matchCount, hits_exact, expectedCount]
  | partialMatch => exact index.matchCount_eq_sum_terms query .partialMatch location

/-! ## Where a query matches -/

theorem sum_map_ne_zero_iff {α : Type} {f : α → Nat} {list : List α} :
    (list.map f).sum ≠ 0 ↔ ∃ a ∈ list, f a ≠ 0 := by
  rw [Ne, List.sum_eq_zero_iff, List.forall_mem_map]
  simp only [not_forall, exists_prop, Ne]

theorem hits_ne_zero_iff {wanted : String} :
    index.hits mode wanted location ≠ 0 ↔
      ∃ term, mode.accepts wanted term = true ∧ index.frequency term location ≠ 0 := by
  rw [hits, sum_map_ne_zero_iff]
  refine exists_congr fun term => ?_
  rw [List.mem_filter, and_assoc]
  refine and_iff_right_of_imp fun hterm => ?_
  by_contra hnot
  exact hterm.2 (frequency_of_not_mem_terms hnot location)

/-- **A query matches where a matching term has a posting.** -/
theorem IsConsistent.matchCount_ne_zero_iff (h : index.IsConsistent) :
    index.matchCount query mode location ≠ 0 ↔
      ∃ wanted ∈ query, ∃ term, mode.accepts wanted term = true ∧
        index.hasLocation term location = true := by
  rw [matchCount, sum_map_ne_zero_iff]
  simp only [Std.ExtTreeSet.mem_toList, hits_ne_zero_iff, h.frequency_ne_zero_iff]

/-- Words are counted wherever a query matches, so no match is without a score. -/
theorem IsConsistent.wordCount_ne_zero (h : index.IsConsistent)
    (hmatch : index.matchCount query mode location ≠ 0) : index.wordCount location ≠ 0 := by
  obtain ⟨_, _, term, _, hlocation⟩ := h.matchCount_ne_zero_iff.mp hmatch
  rw [h.wordCount_eq, recount_ne_zero_iff]
  exact ⟨term, h.frequency_ne_zero_iff.mpr hlocation⟩

/-- A search has a result for each location at which the query matches. -/
theorem IsConsistent.exists_mem_search (h : index.IsConsistent)
    (hcount : index.matchCount query mode location ≠ 0) :
    ∃ result ∈ index.search query mode,
      result.location = location ∧ result.count = index.matchCount query mode location := by
  obtain ⟨result, hmatch, hlocation⟩ := exists_isMatch hcount (h.wordCount_ne_zero hcount)
  refine ⟨result, h.mem_search.mpr hmatch, hlocation, ?_⟩
  rw [hmatch.count_eq, hlocation]

theorem IsConsistent.mem_locations_iff (h : index.IsConsistent) :
    location ∈ (index.search query mode).map SearchResult.location ↔
      index.matchCount query mode location ≠ 0 := by
  rw [List.mem_map]
  constructor
  · rintro ⟨result, hresult, rfl⟩
    have hmatch := h.mem_search.mp hresult
    rw [← hmatch.count_eq]
    exact hmatch.count_ne_zero
  · intro hcount
    obtain ⟨result, hresult, hlocation, -⟩ := h.exists_mem_search hcount
    exact ⟨result, hresult, hlocation⟩

/-! ## The answer -/

/-- Results are the answer to a query: they are for the locations at which a matching term has a posting,
with one result for each; its count is the expected one, and its score the share of the words of the
location that this is. They come in a strictly ascending order, and ranking what was found gives them
whatever the order in which it is gone through. -/
structure Answers (index : Index) (query : TermSet) (mode : SearchMode)
    (results : List SearchResult) : Prop where
  nodup_locations : (results.map SearchResult.location).Nodup
  mem_locations : ∀ location, location ∈ results.map SearchResult.location ↔
    ∃ wanted ∈ query, ∃ term, mode.accepts wanted term = true ∧
      index.hasLocation term location = true
  count_eq : ∀ result ∈ results, result.count = index.expectedCount query result.location mode
  score_eq : ∀ result ∈ results,
    termFrequency result.count (index.wordCount result.location) = some result.score
  ascending : results.Pairwise fun a b => a.compareRank b = .lt
  rank_eq : ∀ entries : List (String × Nat), entries.Perm (index.accumulated query mode).toList →
    rank entries index.wordCount = results

theorem rank_eq_of_perm {found entries : List (String × Nat)} (h : entries.Perm found)
    (words : String → Nat) : rank entries words = rank found words :=
  sortResults_eq_of_perm (h.filterMap _)

theorem pairwise_search (index : Index) (query : TermSet) (mode : SearchMode) :
    (index.search query mode).Pairwise fun a b => a.compareRank b = .lt := by
  have hnodup := (index.nodup_locations query mode).of_map
  rw [search_eq_rank, rank] at hnodup ⊢
  exact pairwise_sortResults ((sortResults_perm _).nodup_iff.mp hnodup)

/-- **A search in a reachable index gives the answer.** -/
theorem search_answers (h : index.Reachable) (query : TermSet) (mode : SearchMode) :
    index.Answers query mode (index.search query mode) where
  nodup_locations := index.nodup_locations query mode
  mem_locations location :=
    h.isConsistent.mem_locations_iff.trans h.isConsistent.matchCount_ne_zero_iff
  count_eq result hresult := by
    rw [(h.isConsistent.mem_search.mp hresult).count_eq, matchCount_eq_expectedCount]
  score_eq result hresult := (h.isConsistent.mem_search.mp hresult).score_eq
  ascending := index.pairwise_search query mode
  rank_eq entries hentries := by
    rw [search_eq_rank, rank_eq_of_perm hentries]

/-- Two indexes that overlap, merged, and a partial match with two terms of which one starts with the
other. -/
theorem search_answers_overlapping :
    let index := (build [⟨"cat", "x", 1⟩, ⟨"car", "x", 2⟩, ⟨"dog", "x", 3⟩]).merge
      (build [⟨"cat", "x", 1⟩, ⟨"cat", "y", 1⟩, ⟨"dog", "z", 1⟩])
    let query : TermSet := Std.ExtTreeSet.ofList ["ca", "cat"]
    index.Reachable ∧ index.Answers query .partialMatch (index.search query .partialMatch) ∧
      index.wordCount "x" = 3 ∧
      ∃ result ∈ index.search query .partialMatch, result.location = "x" ∧ result.count = 3 := by
  intro index query
  have hreachable : index.Reachable := (reachable_build _).merge (reachable_build _)
  have hanswers := search_answers hreachable query .partialMatch
  have hfound : "x" ∈ (index.search query .partialMatch).map SearchResult.location :=
    (hanswers.mem_locations "x").mpr ⟨"ca", by decide, "car", by decide, by decide +kernel⟩
  obtain ⟨result, hresult, hlocation⟩ := List.mem_map.mp hfound
  refine ⟨hreachable, hanswers, by decide +kernel, result, hresult, hlocation, ?_⟩
  rw [hanswers.count_eq result hresult, hlocation]
  decide +kernel

end Concordance.Index
