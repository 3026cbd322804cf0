import Concordance.Proofs.Search.Merging
import Mathlib.Algebra.BigOperators.Ring.Finset

/-!
# Matches and words

A query matches at a location no more often than there are words, each taken once for every term of the
query that it matches. For exact matches that is once at most, and for partial matches it is so too unless
a term of the query starts with another one. The words of a location are counted as they are added, so that
these bounds rest on the counts of the index being right.

## Main definitions

* `TermSet.IsPrefixFree`: no term of a query starts with another one

## Main results

* `IsConsistent.matchCount_le_mul_wordCount`: matches are bounded by the words and the terms of the query
* `IsConsistent.matchCount_eq_wordCount_iff`: when every word of a location is matched
* `count_bounds`: the bounds of the results of a search
-/

namespace Concordance

/-- No term of a query starts with another one. -/
def TermSet.IsPrefixFree (query : TermSet) : Prop :=
  ∀ wanted ∈ query, ∀ other ∈ query, startsWith wanted other = true → wanted = other

/-- Of terms none of which starts with another one, a term starts with one at most. -/
theorem TermSet.IsPrefixFree.countP_accepts_le_one {query : TermSet} (h : query.IsPrefixFree)
    (term : String) : query.toList.countP (SearchMode.partialMatch.accepts · term) ≤ 1 := by
  have hnodup : (query.toList.filter (SearchMode.partialMatch.accepts · term)).Nodup :=
    (nodup_toList query).filter _
  rw [List.countP_eq_length_filter, ← List.toFinset_card_of_nodup hnodup, Finset.card_le_one]
  intro wanted hwanted other hother
  simp only [List.mem_toFinset, List.mem_filter, Std.ExtTreeSet.mem_toList, SearchMode.accepts,
    startsWith_iff] at hwanted hother
  -- of two beginnings of a term, one is a beginning of the other
  rcases List.prefix_or_prefix_of_prefix hwanted.2 hother.2 with hprefix | hprefix
  · exact h wanted hwanted.1 other hother.1 (startsWith_iff.mpr hprefix)
  · exact (h other hother.1 wanted hwanted.1 (startsWith_iff.mpr hprefix)).symm

theorem countP_accepts_exact_le_one (query : TermSet) (term : String) :
    query.toList.countP (SearchMode.exact.accepts · term) ≤ 1 := by
  rw [countP_accepts_exact]
  split <;> omega

theorem countP_accepts_le_size (query : TermSet) (mode : SearchMode) (term : String) :
    query.toList.countP (mode.accepts · term) ≤ query.size := by
  rw [← Std.ExtTreeSet.length_toList]
  exact List.countP_le_length

namespace Index

variable {index : Index} {query : TermSet} {mode : SearchMode} {location : String}

/-- **Matches are bounded by the words of the location**, each taken as often as terms of the query can
match it. -/
theorem IsConsistent.matchCount_le_mul_wordCount (h : index.IsConsistent) {bound : Nat}
    (hbound : ∀ term, query.toList.countP (mode.accepts · term) ≤ bound) (location : String) :
    index.matchCount query mode location ≤ bound * index.wordCount location := by
  rw [index.matchCount_eq_sum query mode location fun term => List.mem_toFinset.mpr, h.wordCount_eq,
    recount_eq_sum index.terms.toFinset fun term => List.mem_toFinset.mpr, Finset.mul_sum]
  apply Finset.sum_le_sum
  intro term _
  rw [Nat.mul_comm]
  exact Nat.mul_le_mul_right _ (hbound term)

/-- **Every word of a location is matched** exactly if all terms there are in the query. -/
theorem IsConsistent.matchCount_eq_wordCount_iff (h : index.IsConsistent) :
    index.matchCount query .exact location = index.wordCount location ↔
      ∀ term, index.hasLocation term location = true → term ∈ query := by
  rw [index.matchCount_eq_sum query .exact location fun term => List.mem_toFinset.mpr, h.wordCount_eq,
    recount_eq_sum index.terms.toFinset fun term => List.mem_toFinset.mpr]
  -- no term has more matches than words, so the sums agree where all terms do
  have hle : ∀ term ∈ index.terms.toFinset, index.frequency term location *
      query.toList.countP (SearchMode.exact.accepts · term) ≤ index.frequency term location := by
    intro term _
    simpa using Nat.mul_le_mul_left _ (countP_accepts_exact_le_one query term)
  rw [Finset.sum_eq_sum_iff_of_le hle]
  simp only [countP_accepts_exact, Std.ExtTreeSet.contains_iff_mem, List.mem_toFinset]
  constructor
  · intro hall term hlocation
    have hfrequency : index.frequency term location ≠ 0 := h.frequency_ne_zero_iff.mpr hlocation
    have hterm : term ∈ index.terms := by
      by_contra hnot
      exact hfrequency (frequency_of_not_mem_terms hnot location)
    have heq := hall term hterm
    by_contra hquery
    rw [if_neg hquery, Nat.mul_zero] at heq
    exact hfrequency heq.symm
  · intro hall term _
    by_cases hfrequency : index.frequency term location = 0
    · rw [hfrequency, Nat.zero_mul]
    · rw [if_pos (hall term (h.frequency_ne_zero_iff.mp hfrequency)), Nat.mul_one]

/-- **The bounds of the results of a search.** An exact match counts at least one and at most all words of
its location, and all of them exactly if every term there is in the query. A partial match counts at least
one, and at most all words of its location once for each term of the query; if no term of the query starts
with another one, at most once. -/
theorem count_bounds (h : index.Reachable) (query : TermSet) :
    (∀ result ∈ index.search query .exact,
      1 ≤ result.count ∧ result.count ≤ index.wordCount result.location ∧
      (result.count = index.wordCount result.location ↔
        ∀ term, index.hasLocation term result.location = true → term ∈ query)) ∧
    ∀ result ∈ index.search query .partialMatch,
      1 ≤ result.count ∧ result.count ≤ query.size * index.wordCount result.location ∧
      (query.IsPrefixFree → result.count ≤ index.wordCount result.location) := by
  have hindex : index.IsConsistent := h.isConsistent
  constructor
  · intro result hresult
    have hmatch := hindex.mem_search.mp hresult
    have hle := hindex.matchCount_le_mul_wordCount (countP_accepts_exact_le_one query) result.location
    rw [← hmatch.count_eq, Nat.one_mul] at hle
    refine ⟨Nat.one_le_iff_ne_zero.mpr hmatch.count_ne_zero, hle, ?_⟩
    rw [hmatch.count_eq]
    exact hindex.matchCount_eq_wordCount_iff
  · intro result hresult
    have hmatch := hindex.mem_search.mp hresult
    refine ⟨Nat.one_le_iff_ne_zero.mpr hmatch.count_ne_zero, ?_, fun hfree => ?_⟩
    · rw [hmatch.count_eq]
      exact hindex.matchCount_le_mul_wordCount (countP_accepts_le_size query .partialMatch) _
    · have hle := hindex.matchCount_le_mul_wordCount hfree.countP_accepts_le_one result.location
      rwa [← hmatch.count_eq, Nat.one_mul] at hle

/-- Two indexes that overlap, merged, with three words at a location. Two exact terms match all of them; as
partial terms they match no more, as neither starts with the other; two terms of which one starts with the
other match five times. -/
theorem count_bounds_overlapping :
    let index := (build [⟨"cat", "x", 1⟩, ⟨"car", "x", 2⟩]).merge
      (build [⟨"cat", "x", 1⟩, ⟨"cat", "x", 3⟩, ⟨"dog", "y", 1⟩])
    let query : TermSet := Std.ExtTreeSet.ofList ["car", "cat"]
    let nested : TermSet := Std.ExtTreeSet.ofList ["ca", "cat"]
    index.Reachable ∧ index.wordCount "x" = 3 ∧ query.IsPrefixFree ∧
      (∃ result ∈ index.search query .exact, result.location = "x" ∧
        result.count = index.wordCount result.location ∧
        ∀ term, index.hasLocation term result.location = true → term ∈ query) ∧
      (∃ result ∈ index.search query .partialMatch, result.location = "x" ∧
        result.count ≤ index.wordCount result.location) ∧
      ∃ result ∈ index.search nested .partialMatch, result.location = "x" ∧ result.count = 5 ∧
        result.count ≤ nested.size * index.wordCount result.location := by
  intro index query nested
  have h : index.Reachable := (reachable_build _).merge (reachable_build _)
  have hfree : query.IsPrefixFree := by
    have hlist : ∀ wanted ∈ query.toList, ∀ other ∈ query.toList,
        startsWith wanted other = true → wanted = other := by decide +kernel
    intro wanted hwanted other hother
    exact hlist wanted (Std.ExtTreeSet.mem_toList.mpr hwanted) other
      (Std.ExtTreeSet.mem_toList.mpr hother)
  have hfound : ∀ (terms : TermSet) (mode : SearchMode), index.matchCount terms mode "x" ≠ 0 →
      ∃ result ∈ index.search terms mode, result.location = "x" ∧
        result.count = index.matchCount terms mode "x" :=
    fun _ _ hne => h.isConsistent.exists_mem_search hne
  obtain ⟨whole, hwhole, hat, hcount⟩ := hfound query .exact (by decide +kernel)
  obtain ⟨single, hsingle, hsame, -⟩ := hfound query .partialMatch (by decide +kernel)
  obtain ⟨double, hdouble, hthere, hfive⟩ := hfound nested .partialMatch (by decide +kernel)
  have hall : whole.count = index.wordCount whole.location := by
    rw [hcount, hat]
    decide +kernel
  obtain ⟨-, -, hiff⟩ := (count_bounds h query).1 whole hwhole
  obtain ⟨-, -, hone⟩ := (count_bounds h query).2 single hsingle
  obtain ⟨-, htwo, -⟩ := (count_bounds h nested).2 double hdouble
  refine ⟨h, by decide +kernel, hfree, ⟨whole, hwhole, hat, hall, hiff.mp hall⟩,
    ⟨single, hsingle, hsame, hone hfree⟩, double, hdouble, hthere, ?_, htwo⟩
  rw [hfive]
  decide +kernel

end Index

end Concordance
