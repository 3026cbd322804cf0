import Concordance.Proofs.Index.Merging
import Concordance.Proofs.Search.Answers
import Concordance.Proofs.Search.Scanning
import Mathlib.Algebra.Order.BigOperators.Group.Finset

/-!
# Searching merged indexes

How often a query matches at a location depends on what the index has at that location and on nothing
else, and it only grows with what the index has there, with the terms of the query, and with the terms
that these match. So merging takes no match away, and at a location that is only in one of two indexes
the merged index has the matches of that one.

## Main definitions

* `Index.IsWithinAt`: what an index has at a location, another one has there too
* `Index.IsApartFrom`: two indexes have no location in common

## Main results

* `matchCount_eq_sum`: a match is counted over any set of terms that has those of the index
* `IsWithinAt.matchCount_le`: where there is more to match, a query matches more often
* `search_merge_monotone`: a search for more, in more, finds no less
* `search_merge_of_isApartFrom`: the results from indexes apart are those from each of them
-/

namespace Concordance

/-! ## Terms of a query that match a term -/

section Accepts

variable {query larger : TermSet} {mode wider : SearchMode}

/-- What matches exactly, matches partially. -/
theorem SearchMode.accepts_of_accepts (hmode : mode = wider ∨ mode = .exact ∧ wider = .partialMatch)
    {wanted term : String} (h : mode.accepts wanted term = true) :
    wider.accepts wanted term = true := by
  rcases hmode with rfl | ⟨rfl, rfl⟩
  · exact h
  · have heq : term = wanted := of_decide_eq_true h
    rw [heq]
    exact startsWith_iff.mpr (List.prefix_refl _)

/-- A term is matched by at least as many terms of a larger query in a wider mode. -/
theorem countP_accepts_le (hquery : ∀ term ∈ query, term ∈ larger)
    (hmode : ∀ wanted term, mode.accepts wanted term = true → wider.accepts wanted term = true)
    (term : String) :
    query.toList.countP (mode.accepts · term) ≤ larger.toList.countP (wider.accepts · term) := by
  have hsubset : query.toList ⊆ larger.toList := fun wanted hwanted =>
    Std.ExtTreeSet.mem_toList.mpr (hquery wanted (Std.ExtTreeSet.mem_toList.mp hwanted))
  calc query.toList.countP (mode.accepts · term)
      ≤ query.toList.countP (wider.accepts · term) :=
        List.countP_mono_left fun wanted _ => hmode wanted term
    _ ≤ larger.toList.countP (wider.accepts · term) :=
        ((nodup_toList query).subperm hsubset).countP_le _

end Accepts

namespace Index

variable {index other a b : Index} {query larger : TermSet} {mode wider : SearchMode}
  {location : String} {result : SearchResult}

/-- A match is counted over any set of terms that has all terms of the index. -/
theorem matchCount_eq_sum (index : Index) (query : TermSet) (mode : SearchMode) (location : String)
    {terms : Finset String} (h : ∀ term ∈ index.terms, term ∈ terms) :
    index.matchCount query mode location =
      ∑ term ∈ terms, index.frequency term location * query.toList.countP (mode.accepts · term) := by
  rw [matchCount_eq_sum_terms, ← List.sum_toFinset _ index.nodup_terms]
  apply Finset.sum_subset
  · exact fun term hterm => h term (List.mem_toFinset.mp hterm)
  · -- terms that the index does not have are nowhere
    intro term _ hterm
    rw [List.mem_toFinset] at hterm
    rw [frequency_of_not_mem_terms hterm, Nat.zero_mul]

/-! ## More at a location -/

/-- What an index has at a location, another one has there too. -/
def IsWithinAt (index other : Index) (location : String) : Prop :=
  ∀ occurrence ∈ index, occurrence.location = location → occurrence ∈ other

theorem isWithinAt_merge (index other : Index) (location : String) :
    index.IsWithinAt (index.merge other) location :=
  fun _ h _ => mem_merge.mpr (Or.inl h)

namespace IsWithinAt

theorem frequency_le (h : index.IsWithinAt other location) (term : String) :
    index.frequency term location ≤ other.frequency term location := by
  rw [frequency_eq_size, frequency_eq_size, ← Std.ExtTreeSet.length_toList,
    ← Std.ExtTreeSet.length_toList]
  apply List.Subperm.length_le
  apply (nodup_toList _).subperm
  intro position hposition
  rw [Std.ExtTreeSet.mem_toList] at hposition ⊢
  have hmem : ⟨term, location, position⟩ ∈ index := mem_iff.mpr hposition
  exact mem_iff.mp (h _ hmem rfl)

/-- **Where there is more to match, a query matches more often**: with more occurrences in the index,
with more terms in the query, or in the wider mode. -/
theorem matchCount_le (h : index.IsWithinAt other location)
    (hquery : ∀ term ∈ query, term ∈ larger)
    (hmode : mode = wider ∨ mode = .exact ∧ wider = .partialMatch) :
    index.matchCount query mode location ≤ other.matchCount larger wider location := by
  have hleft : ∀ term ∈ index.terms, term ∈ index.terms.toFinset ∪ other.terms.toFinset := by
    simp +contextual
  have hright : ∀ term ∈ other.terms, term ∈ index.terms.toFinset ∪ other.terms.toFinset := by
    simp +contextual
  rw [matchCount_eq_sum index query mode location hleft,
    matchCount_eq_sum other larger wider location hright]
  apply Finset.sum_le_sum
  intro term _
  apply Nat.mul_le_mul (h.frequency_le term)
  exact countP_accepts_le hquery (fun _ _ => SearchMode.accepts_of_accepts hmode) term

theorem recount_le (h : index.IsWithinAt other location) :
    index.recount location ≤ other.recount location := by
  rw [recount_eq_sum (index.terms.toFinset ∪ other.terms.toFinset) (by simp +contextual),
    recount_eq_sum (index.terms.toFinset ∪ other.terms.toFinset) (by simp +contextual)]
  exact Finset.sum_le_sum fun term _ => h.frequency_le term

theorem isMatch (h : index.IsWithinAt other result.location)
    (hback : other.IsWithinAt index result.location) (hindex : index.IsConsistent)
    (hother : other.IsConsistent) (hmatch : index.IsMatch query mode result) :
    other.IsMatch query mode result := by
  have hcount : index.matchCount query mode result.location =
      other.matchCount query mode result.location :=
    Nat.le_antisymm (h.matchCount_le (fun _ => id) (Or.inl rfl))
      (hback.matchCount_le (fun _ => id) (Or.inl rfl))
  have hwords : index.wordCount result.location = other.wordCount result.location := by
    rw [hindex.wordCount_eq, hother.wordCount_eq]
    exact Nat.le_antisymm h.recount_le hback.recount_le
  refine ⟨?_, hmatch.count_ne_zero, ?_⟩
  · rw [hmatch.count_eq, hcount]
  · rw [← hwords, hmatch.score_eq]

end IsWithinAt

/-- **A search for more, in more, finds no less.** When another index is merged in, terms are added to
the query or exact matches are widened to partial ones, each location that was found is found again, at
least as often. -/
theorem search_merge_monotone (ha : a.Reachable) (hb : b.Reachable)
    (hquery : ∀ term ∈ query, term ∈ larger)
    (hmode : mode = wider ∨ mode = .exact ∧ wider = .partialMatch) :
    ∀ result ∈ a.search query mode, ∃ more ∈ (a.merge b).search larger wider,
      more.location = result.location ∧ result.count ≤ more.count := by
  intro result hresult
  have hmerge : (a.merge b).IsConsistent := (ha.merge hb).isConsistent
  have hmatch : a.IsMatch query mode result := ha.isConsistent.mem_search.mp hresult
  have hle : result.count ≤ (a.merge b).matchCount larger wider result.location := by
    rw [hmatch.count_eq]
    exact (isWithinAt_merge a b result.location).matchCount_le hquery hmode
  have hne : (a.merge b).matchCount larger wider result.location ≠ 0 := by
    have hpos := hmatch.count_ne_zero
    omega
  obtain ⟨more, hmore, hlocation, hcount⟩ := hmerge.exists_mem_search hne
  exact ⟨more, hmore, hlocation, hcount ▸ hle⟩

/-- A merge that overlaps, a query with one more term, and a wider mode: the location that was found twice
over is found four times over. -/
theorem search_merge_monotone_overlapping :
    let a := build [⟨"cat", "x", 1⟩, ⟨"cat", "x", 2⟩, ⟨"dog", "y", 1⟩]
    let b := build [⟨"cat", "x", 2⟩, ⟨"cats", "x", 3⟩, ⟨"car", "x", 4⟩]
    let query : TermSet := Std.ExtTreeSet.ofList ["cat"]
    let larger : TermSet := Std.ExtTreeSet.ofList ["car", "cat"]
    a.Reachable ∧ b.Reachable ∧ (∀ term ∈ query, term ∈ larger) ∧
      ∃ result ∈ a.search query .exact, result.location = "x" ∧ result.count = 2 ∧
        ∃ more ∈ (a.merge b).search larger .partialMatch,
          more.location = result.location ∧ result.count ≤ more.count ∧ more.count = 4 := by
  intro a b query larger
  have ha : a.Reachable := reachable_build _
  have hb : b.Reachable := reachable_build _
  have hquery : ∀ term ∈ query, term ∈ larger := by
    intro term hterm
    simp only [query, larger, Std.ExtTreeSet.mem_ofList] at hterm ⊢
    simp_all
  have hmode : SearchMode.exact = .partialMatch ∨
      SearchMode.exact = .exact ∧ SearchMode.partialMatch = .partialMatch := Or.inr ⟨rfl, rfl⟩
  obtain ⟨result, hresult, hlocation, hcount⟩ : ∃ result ∈ a.search query .exact,
      result.location = "x" ∧ result.count = a.matchCount query .exact "x" :=
    ha.isConsistent.exists_mem_search (by decide +kernel)
  obtain ⟨more, hmore, hsame, hle⟩ := search_merge_monotone ha hb hquery hmode result hresult
  refine ⟨ha, hb, hquery, result, hresult, hlocation, ?_, more, hmore, hsame, hle, ?_⟩
  · rw [hcount]
    decide +kernel
  · rw [((ha.merge hb).isConsistent.mem_search.mp hmore).count_eq, hsame, hlocation]
    decide +kernel

/-! ## Indexes apart -/

/-- Two indexes have no location in common. -/
def IsApartFrom (a b : Index) : Prop :=
  ∀ occurrence ∈ a, ∀ other ∈ b, occurrence.location ≠ other.location

theorem isApartFrom_iff :
    a.IsApartFrom b ↔ ∀ occurrence ∈ a.occurrences, ∀ other ∈ b.occurrences,
      occurrence.location ≠ other.location := by
  simp only [IsApartFrom, mem_occurrences]

instance (a b : Index) : Decidable (a.IsApartFrom b) :=
  decidable_of_iff _ isApartFrom_iff.symm

/-- Where an index has nothing, no query matches. -/
theorem not_isMatch (h : ∀ occurrence ∈ index, occurrence.location ≠ result.location) :
    ¬ index.IsMatch query mode result := by
  intro hmatch
  have hwithin : index.IsWithinAt empty result.location := fun occurrence hmem heq =>
    absurd heq (h occurrence hmem)
  have hle : index.matchCount query mode result.location ≤
      empty.matchCount query mode result.location :=
    hwithin.matchCount_le (fun _ => id) (Or.inl rfl)
  have hempty : ∀ term ∈ empty.terms, term ∈ (∅ : Finset String) := by simp [mem_terms]
  rw [matchCount_eq_sum empty query mode _ hempty, Finset.sum_empty, ← hmatch.count_eq] at hle
  exact hmatch.count_ne_zero (Nat.le_zero.mp hle)

/-- At a location at which the other index has nothing, merging changes no match. -/
theorem isMatch_merge_iff (ha : a.Reachable) (hb : b.Reachable)
    (h : ∀ occurrence ∈ b, occurrence.location ≠ result.location) :
    (a.merge b).IsMatch query mode result ↔ a.IsMatch query mode result := by
  have hwithin : a.IsWithinAt (a.merge b) result.location := isWithinAt_merge a b result.location
  have hback : (a.merge b).IsWithinAt a result.location := by
    intro occurrence hmem heq
    rcases mem_merge.mp hmem with hmem | hmem
    · exact hmem
    · exact absurd heq (h occurrence hmem)
  have hmerge := (ha.merge hb).isConsistent
  exact ⟨hback.isMatch hwithin hmerge ha.isConsistent, hwithin.isMatch hback ha.isConsistent hmerge⟩

namespace IsApartFrom

variable (h : a.IsApartFrom b)

include h

/-- One of two indexes apart has nothing at a location. -/
theorem forall_ne_or_forall_ne (location : String) :
    (∀ occurrence ∈ a, occurrence.location ≠ location) ∨
      ∀ occurrence ∈ b, occurrence.location ≠ location := by
  by_contra hboth
  simp only [not_or, not_forall, ne_eq, not_not] at hboth
  obtain ⟨⟨occurrence, hoccurrence, rfl⟩, other, hother, heq⟩ := hboth
  exact h occurrence hoccurrence other hother heq.symm

theorem isMatch_merge_iff_or (ha : a.Reachable) (hb : b.Reachable) :
    (a.merge b).IsMatch query mode result ↔
      a.IsMatch query mode result ∨ b.IsMatch query mode result := by
  rcases h.forall_ne_or_forall_ne result.location with hnone | hnone
  · rw [merge_comm ha hb, isMatch_merge_iff hb ha hnone, or_iff_right (not_isMatch hnone)]
  · rw [isMatch_merge_iff ha hb hnone, or_iff_left (not_isMatch hnone)]

theorem nodup_append (ha : a.Reachable) (hb : b.Reachable) :
    (a.search query mode ++ b.search query mode).Nodup := by
  apply List.Nodup.append
  · exact (a.nodup_locations query mode).of_map _
  · exact (b.nodup_locations query mode).of_map _
  · intro result hleft hright
    rw [ha.isConsistent.mem_search] at hleft
    rw [hb.isConsistent.mem_search] at hright
    rcases h.forall_ne_or_forall_ne result.location with hnone | hnone
    · exact not_isMatch hnone hleft
    · exact not_isMatch hnone hright

end IsApartFrom

/-- **The results from indexes apart are those from each of them.** A search in two indexes that have no
location in common, merged, gives the results from both in their common order, each with the count and the
score that it has without the other index. -/
theorem search_merge_of_isApartFrom (ha : a.Reachable) (hb : b.Reachable) (h : a.IsApartFrom b)
    (query : TermSet) (mode : SearchMode) :
    (a.merge b).search query mode = sortResults (a.search query mode ++ b.search query mode) ∧
      ∀ result, result ∈ (a.merge b).search query mode ↔
        result ∈ a.search query mode ∨ result ∈ b.search query mode := by
  have hmem : ∀ result, result ∈ a.search query mode ++ b.search query mode ↔
      (a.merge b).IsMatch query mode result := by
    intro result
    rw [List.mem_append, ha.isConsistent.mem_search, hb.isConsistent.mem_search,
      h.isMatch_merge_iff_or ha hb]
  refine ⟨(ha.merge hb).isConsistent.search_eq_sortResults (h.nodup_append ha hb) hmem, ?_⟩
  intro result
  rw [(ha.merge hb).isConsistent.mem_search, ← hmem, List.mem_append]

/-- Two indexes apart that share terms, and a partial match with two terms of which one starts with the
other. -/
theorem search_merge_of_isApartFrom_overlapping :
    let a := build [⟨"cat", "x", 1⟩, ⟨"car", "x", 2⟩, ⟨"dog", "z", 1⟩]
    let b := build [⟨"cat", "y", 1⟩, ⟨"cats", "y", 2⟩, ⟨"dog", "y", 3⟩]
    let query : TermSet := Std.ExtTreeSet.ofList ["ca", "cat"]
    a.Reachable ∧ b.Reachable ∧ a.IsApartFrom b ∧
      (a.merge b).search query .partialMatch =
        sortResults (a.search query .partialMatch ++ b.search query .partialMatch) ∧
      ∃ result ∈ (a.merge b).search query .partialMatch,
        result ∈ b.search query .partialMatch ∧ result.location = "y" ∧ result.count = 4 := by
  intro a b query
  have ha : a.Reachable := reachable_build _
  have hb : b.Reachable := reachable_build _
  have hapart : a.IsApartFrom b := by decide +kernel
  obtain ⟨hsearch, hmem⟩ := search_merge_of_isApartFrom ha hb hapart query .partialMatch
  obtain ⟨result, hresult, hlocation, hcount⟩ : ∃ result ∈ b.search query .partialMatch,
      result.location = "y" ∧ result.count = b.matchCount query .partialMatch "y" :=
    hb.isConsistent.exists_mem_search (by decide +kernel)
  refine ⟨ha, hb, hapart, hsearch, result, (hmem result).mpr (Or.inr hresult), hresult, hlocation, ?_⟩
  rw [hcount]
  decide +kernel

end Index

end Concordance
