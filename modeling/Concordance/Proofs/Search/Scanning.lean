import Concordance.Index.Documents
import Concordance.Proofs.Search.Matching
import Mathlib.Algebra.BigOperators.Group.Finset.Basic

/-!
# Searching and scanning

A search in the index of documents gives what going through the documents one by one gives: each
document in which the query matches, with how often it does, in the order of results.

## Main definitions

* `SearchMode.countIn`: how often a query matches in a list of terms
* `scan`: the results of a query, from the documents themselves
* `Index.HoldsTerms`: what an index has at a location are the terms of a list, in their order

## Main results

* `sum_count_filter`: counting the members of a list one value after the other
* `matchCount_eq_countIn`: how often a query matches at a location whose terms are known
* `search_ofDocuments`: searching the index of documents is scanning them
-/

namespace Concordance

/-- How often a query matches in a list of terms: for exact matches the places of the list whose term
is in the query, for partial matches at each place the terms of the query that its term starts with. -/
def SearchMode.countIn (query : TermSet) (terms : List String) : SearchMode → Nat
  | .exact => terms.countP fun term => query.contains term
  | .partialMatch =>
    (terms.map fun term => query.toList.countP fun wanted => startsWith wanted term).sum

/-- The result of a query in one document, if it matches there. -/
def scanDocument (query : TermSet) (mode : SearchMode) (document : String × String) :
    Option SearchResult :=
  let terms := Text.terms document.2
  let count := mode.countIn query terms
  if count = 0 then none
  else (termFrequency count terms.length).map fun score => ⟨count, score, document.1⟩

/-- The results of a query, found by going through the documents. -/
def scan (documents : List (String × String)) (query : TermSet) (mode : SearchMode) :
    List SearchResult :=
  documents.filterMap (scanDocument query mode)

/-! ## Counting -/

section Count

variable {α β : Type}

theorem countP_eq_sum (p : α → Bool) (as : List α) :
    as.countP p = (as.map fun a => if p a then 1 else 0).sum := by
  induction as with
  | nil => rfl
  | cons a as ih => rw [List.countP_cons, List.map_cons, List.sum_cons, ih, Nat.add_comm]

/-- The pairs of a relation can be counted from either side. -/
theorem sum_countP_comm (r : α → β → Bool) (as : List α) (bs : List β) :
    (as.map fun a => bs.countP (r a)).sum = (bs.map fun b => as.countP fun a => r a b).sum := by
  simpa [List.countP_eq_length_filter] using sum_filter_comm r (fun _ => 1) as bs

/-- Counting the members of a list one value after the other, each value once, counts those that have
one of the values. -/
theorem sum_count_filter [DecidableEq α] {values list : List α} (hvalues : values.Nodup)
    (hlist : ∀ a ∈ list, a ∈ values) (p : α → Bool) :
    ((values.filter p).map fun a => list.count a).sum = list.countP p := by
  rw [← List.sum_toFinset _ (hvalues.filter p)]
  symm
  trans ∑ a ∈ list.toFinset with p a, list.count a
  · simp [Finset.sum_filter_count_eq_countP]
  · -- values that the list does not have add nothing
    apply Finset.sum_subset
    · intro a ha
      simp only [Finset.mem_filter, List.mem_toFinset, List.mem_filter] at ha ⊢
      exact ⟨hlist a ha.1, ha.2⟩
    · intro a ha hnot
      simp only [Finset.mem_filter, List.mem_toFinset, List.mem_filter] at ha hnot
      exact List.count_eq_zero.mpr fun hmem => hnot ⟨hmem, ha.2⟩

theorem nodup_toList [Ord α] [Std.TransOrd α] (set : Std.ExtTreeSet α) : set.toList.Nodup :=
  Std.ExtTreeSet.distinct_toList.imp fun hne heq => hne (by simp [heq])

/-- A term equals one term of a query or none. -/
theorem countP_accepts_exact (query : TermSet) (term : String) :
    query.toList.countP (SearchMode.exact.accepts · term) = if query.contains term then 1 else 0 := by
  have hcount : query.toList.countP (SearchMode.exact.accepts · term) = query.toList.count term :=
    List.countP_congr fun wanted _ => by
      rw [SearchMode.accepts, decide_eq_true_eq, beq_iff_eq, eq_comm]
  rw [hcount, (nodup_toList query).count]
  simp [Std.ExtTreeSet.mem_toList]

end Count

/-! ## Locations whose terms are known -/

namespace Index

/-- What an index has at a location are the terms of a list, each at its place in the list, counted
from one. -/
def HoldsTerms (index : Index) (location : String) (terms : List String) : Prop :=
  ∀ term position,
    ⟨term, location, position⟩ ∈ index ↔ ∃ i : Nat, terms[i]? = some term ∧ position = 1 + i

namespace HoldsTerms

variable {index : Index} {location : String} {terms : List String}

theorem frequency_eq (h : index.HoldsTerms location terms) (term : String) :
    index.frequency term location = terms.count term := by
  have hperm : (index.positionsAt term location).toList.Perm (terms.findIdxs (· == term) 1) := by
    refine (List.perm_ext_iff_of_nodup (nodup_toList _) List.nodup_findIdxs).mpr fun position => ?_
    have hmem : position ∈ (index.positionsAt term location).toList ↔
        ⟨term, location, position⟩ ∈ index := by
      rw [mem_iff, Std.ExtTreeSet.mem_toList]
    rw [hmem, h, List.mem_findIdxs_iff_getElem_sub_pos]
    constructor
    · rintro ⟨i, hi, rfl⟩
      obtain ⟨hlt, heq⟩ := List.getElem?_eq_some_iff.mp hi
      exact ⟨by omega, by omega, by simpa using heq⟩
    · rintro ⟨hle, hlt, heq⟩
      refine ⟨position - 1, ?_, by omega⟩
      rw [List.getElem?_eq_some_iff]
      exact ⟨hlt, by simpa using heq⟩
  rw [frequency_eq_size, ← Std.ExtTreeSet.length_toList, hperm.length_eq,
    List.length_findIdxs]
  rfl

theorem mem_terms (h : index.HoldsTerms location terms) {term : String} (hterm : term ∈ terms) :
    term ∈ index.terms := by
  by_contra hnot
  have hcount := h.frequency_eq term
  rw [frequency_of_not_mem_terms hnot, eq_comm, List.count_eq_zero] at hcount
  exact hcount hterm

/-- The frequencies of some terms of the index add up to how often they are in the list. -/
theorem sum_frequency (h : index.HoldsTerms location terms) (p : String → Bool) :
    ((index.terms.filter p).map (index.frequency · location)).sum = terms.countP p := by
  simp only [h.frequency_eq]
  exact sum_count_filter index.nodup_terms (fun term => h.mem_terms) p

theorem wordCount_eq (h : index.HoldsTerms location terms) (hindex : index.IsConsistent) :
    index.wordCount location = terms.length := by
  rw [hindex.wordCount_eq, recount_eq_sum index.terms.toFinset fun term => List.mem_toFinset.mpr,
    List.sum_toFinset _ index.nodup_terms]
  have hall := h.sum_frequency fun _ => true
  rwa [List.filter_true, List.countP_true] at hall

/-- **How often a query matches at a location whose terms are known.** -/
theorem matchCount_eq_countIn (h : index.HoldsTerms location terms) (query : TermSet)
    (mode : SearchMode) : index.matchCount query mode location = mode.countIn query terms := by
  simp only [matchCount, hits, h.sum_frequency]
  rw [sum_countP_comm mode.accepts]
  cases mode with
  | partialMatch => rfl
  | exact =>
    simp only [countP_accepts_exact, SearchMode.countIn]
    rw [← countP_eq_sum]

end HoldsTerms

/-! ## The index of documents -/

theorem reachable_ofDocuments (documents : List (String × String)) :
    (ofDocuments documents).Reachable :=
  List.foldlRecOn documents _ Reachable.empty fun _ h document _ => h.addTerms document.1 1 _

theorem mem_ofDocuments {documents : List (String × String)} {occurrence : Occurrence} :
    occurrence ∈ ofDocuments documents ↔
      ∃ document ∈ documents, ∃ i term,
        (Text.terms document.2)[i]? = some term ∧ occurrence = ⟨term, document.1, 1 + i⟩ := by
  have hfold : ∀ index : Index,
      occurrence ∈ documents.foldl (fun index document => index.addText document.1 1 document.2) index ↔
        occurrence ∈ index ∨ ∃ document ∈ documents, ∃ i term,
          (Text.terms document.2)[i]? = some term ∧ occurrence = ⟨term, document.1, 1 + i⟩ := by
    induction documents with
    | nil => simp
    | cons document rest ih =>
      intro index
      rw [List.foldl_cons, ih, addText, mem_addTerms, List.exists_mem_cons_iff, or_assoc]
  exact (hfold empty).trans (or_iff_right (not_mem_empty occurrence))

variable {documents : List (String × String)} {document : String × String}

/-- At the location of a document the index has the terms of its text, as no other document is
there. -/
theorem holdsTerms_ofDocuments (hlocations : (documents.map Prod.fst).Nodup)
    (hdocument : document ∈ documents) :
    (ofDocuments documents).HoldsTerms document.1 (Text.terms document.2) := by
  intro term position
  rw [mem_ofDocuments]
  constructor
  · rintro ⟨other, hother, i, t, hterm, heq⟩
    obtain ⟨rfl, hlocation, rfl⟩ := Occurrence.mk.inj heq
    have hsame : document = other := List.inj_on_of_nodup_map hlocations hdocument hother hlocation
    exact ⟨i, hsame ▸ hterm, rfl⟩
  · rintro ⟨i, hterm, rfl⟩
    exact ⟨document, hdocument, i, term, hterm, rfl⟩

/-- Elsewhere it has nothing. -/
theorem holdsTerms_nil {location : String} (h : ∀ document ∈ documents, document.1 ≠ location) :
    (ofDocuments documents).HoldsTerms location [] := by
  intro term position
  rw [mem_ofDocuments]
  constructor
  · rintro ⟨document, hdocument, i, t, -, heq⟩
    cases heq
    exact absurd rfl (h document hdocument)
  · rintro ⟨i, hnone, -⟩
    cases hnone

end Index

/-! ## Scanning -/

section Scan

variable {documents : List (String × String)} {query : TermSet} {mode : SearchMode}
  {result : SearchResult}

theorem countIn_nil (query : TermSet) (mode : SearchMode) : mode.countIn query [] = 0 := by
  cases mode <;> rfl

theorem scanDocument_eq_some_iff {document : String × String} :
    scanDocument query mode document = some result ↔
      result.location = document.1 ∧ result.count = mode.countIn query (Text.terms document.2) ∧
        result.count ≠ 0 ∧ termFrequency result.count (Text.terms document.2).length = some result.score := by
  obtain ⟨count, score, location⟩ := result
  simp only [scanDocument]
  split
  · next hzero => simp_all
  · next hne =>
    rw [Option.map_eq_some_iff]
    constructor
    · rintro ⟨_, hscore, heq⟩
      cases heq
      exact ⟨rfl, rfl, hne, hscore⟩
    · rintro ⟨rfl, rfl, -, hscore⟩
      exact ⟨score, hscore, rfl⟩

theorem mem_scan_iff (hlocations : (documents.map Prod.fst).Nodup) :
    result ∈ scan documents query mode ↔ (Index.ofDocuments documents).IsMatch query mode result := by
  have hindex := (Index.reachable_ofDocuments documents).isConsistent
  rw [scan, List.mem_filterMap]
  simp only [scanDocument_eq_some_iff]
  constructor
  · rintro ⟨document, hdocument, hlocation, hcount, hne, hscore⟩
    have hterms := Index.holdsTerms_ofDocuments hlocations hdocument
    rw [← hlocation] at hterms
    refine ⟨?_, hne, ?_⟩
    · rw [hterms.matchCount_eq_countIn, hcount]
    · rw [hterms.wordCount_eq hindex, hscore]
  · rintro ⟨hcount, hne, hscore⟩
    by_cases hat : ∃ document ∈ documents, document.1 = result.location
    · obtain ⟨document, hdocument, hlocation⟩ := hat
      have hterms := Index.holdsTerms_ofDocuments hlocations hdocument
      rw [hlocation] at hterms
      rw [hterms.matchCount_eq_countIn] at hcount
      rw [hterms.wordCount_eq hindex] at hscore
      exact ⟨document, hdocument, hlocation.symm, hcount, hne, hscore⟩
    · -- where no document is, nothing matches
      have hterms := Index.holdsTerms_nil fun document hdocument heq => hat ⟨document, hdocument, heq⟩
      rw [hterms.matchCount_eq_countIn, countIn_nil] at hcount
      exact absurd hcount hne

theorem nodup_scan (hlocations : (documents.map Prod.fst).Nodup) :
    (scan documents query mode).Nodup := by
  apply List.Nodup.of_map SearchResult.location
  refine List.Nodup.sublist (sublist_map_filterMap ?_ documents) hlocations
  exact fun document result h => (scanDocument_eq_some_iff.mp h).1

/-- Every document in which the query matches has a result. -/
theorem length_scan (documents : List (String × String)) (query : TermSet) (mode : SearchMode) :
    (scan documents query mode).length =
      documents.countP fun document => mode.countIn query (Text.terms document.2) ≠ 0 := by
  rw [scan, List.length_filterMap_eq_countP]
  refine List.countP_congr fun document _ => ?_
  rw [Option.isSome_iff_exists, decide_eq_true_eq]
  constructor
  · rintro ⟨result, hresult⟩
    obtain ⟨-, hcount, hne, -⟩ := scanDocument_eq_some_iff.mp hresult
    rwa [← hcount]
  · intro hne
    have hwords : (Text.terms document.2).length ≠ 0 := by
      intro hzero
      rw [List.length_eq_zero_iff.mp hzero, countIn_nil] at hne
      exact hne rfl
    simp [scanDocument, hne, termFrequency, hwords]

/-- **Searching the index of documents is scanning them.** Where no two documents share a location, a
search gives a result for each document in which the query matches, with how often it does and the share
of its terms that this is. These results come in a strictly ascending order of ranks, whatever the order
of the documents. -/
theorem search_ofDocuments (documents : List (String × String))
    (hlocations : (documents.map Prod.fst).Nodup) (query : TermSet) (mode : SearchMode) :
    (Index.ofDocuments documents).search query mode = sortResults (scan documents query mode) ∧
    ((Index.ofDocuments documents).search query mode).length =
      documents.countP (fun document => mode.countIn query (Text.terms document.2) ≠ 0) ∧
    ((Index.ofDocuments documents).search query mode).Pairwise fun a b => a.compareRank b = .lt := by
  have hindex := (Index.reachable_ofDocuments documents).isConsistent
  have hsearch : (Index.ofDocuments documents).search query mode =
      sortResults (scan documents query mode) :=
    hindex.search_eq_sortResults (nodup_scan hlocations) fun _ => mem_scan_iff hlocations
  refine ⟨hsearch, ?_, ?_⟩
  · rw [hsearch, (sortResults_perm _).length_eq, length_scan]
  · rw [hsearch]
    exact pairwise_sortResults (nodup_scan hlocations)

/-- A partial match with two terms of which one starts with the other, in documents that do not stand in
the order of their ranks. -/
theorem search_ofDocuments_overlapping :
    let documents := [("b", "Cats, a cat and the cat's car"), ("c", "dogs"), ("a", "car cat")]
    let query : TermSet := Std.ExtTreeSet.ofList ["ca", "cat"]
    (documents.map Prod.fst).Nodup ∧
      (Index.ofDocuments documents).search query .partialMatch =
        sortResults (scan documents query .partialMatch) ∧
      ((Index.ofDocuments documents).search query .partialMatch).length = 2 ∧
      (scan documents query .partialMatch).map (fun result => (result.count, result.location)) =
        [(7, "b"), (3, "a")] := by
  intro documents query
  have hlocations : (documents.map Prod.fst).Nodup := by decide
  obtain ⟨hscan, hlength, -⟩ := search_ofDocuments documents hlocations query .partialMatch
  refine ⟨hlocations, hscan, ?_, by decide +kernel⟩
  rw [hlength]
  decide +kernel

end Scan

end Concordance
