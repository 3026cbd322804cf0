import Concordance.Index.Search
import Concordance.Proofs.Index.Consistency
import Concordance.Proofs.Search.Ranking
import Mathlib.Data.String.Basic

/-!
# What a search finds

A search goes through the terms of the index that match its query, one term of the query after the
other, and adds up their positions at each location. In a consistent index it finds the locations
where these positions are any, with their number.

## Main definitions

* `SearchMode.accepts`: whether a term of a query matches an indexed term
* `Index.hits`: how many positions at a location match a term of a query
* `Index.matchCount`: how often a query matches at a location
* `Index.accumulated`: what a search ranks
* `Index.IsMatch`: a result that a search should have

## Main results

* `entriesStartingWith_eq_filter`: one scan finds all terms that start with a text
* `matchCount_eq_sum_terms`: a match can be counted by the terms of the index as well
* `mem_search`: the results of a search
* `search_eq_sortResults`: a search gives these results in their order
-/

namespace Concordance

/-- Whether a term of a query matches an indexed term. -/
def SearchMode.accepts : SearchMode → String → String → Bool
  | .exact, wanted, term => term = wanted
  | .partialMatch, wanted, term => startsWith wanted term

/-! ## Terms that start with a text -/

section Prefix

theorem startsWith_iff {beginning text : String} :
    startsWith beginning text = true ↔ beginning.toList <+: text.toList := by
  rw [startsWith, List.isPrefixOf_iff_prefix]

/-- What starts with a text does not come before it. -/
theorem not_lt_of_prefix {beginning text : List Char} (h : beginning <+: text) :
    ¬ text < beginning := by
  induction beginning generalizing text with
  | nil => exact List.not_lt_nil text
  | cons c beginning ih =>
    obtain ⟨rest, rfl⟩ := h
    rw [List.cons_append, List.cons_lt_cons_iff]
    rintro (hlt | ⟨-, hlt⟩)
    · exact Char.lt_irrefl c hlt
    · exact ih (List.prefix_append beginning rest) hlt

/-- Between a text and what starts with it there is nothing that does not. -/
theorem prefix_of_lt {beginning text later : List Char} (hle : ¬ text < beginning)
    (hlt : text < later) (h : beginning <+: later) : beginning <+: text := by
  -- induction on the beginning: all three texts start with its first character
  induction beginning generalizing text later with
  | nil => exact List.nil_prefix
  | cons c beginning ih =>
    obtain ⟨rest, rfl⟩ := h
    cases text with
    | nil => exact absurd (List.nil_lt_cons c beginning) hle
    | cons d text =>
      rw [List.cons_lt_cons_iff, not_or] at hle
      rw [List.cons_append, List.cons_lt_cons_iff] at hlt
      rcases hlt with hlt | ⟨rfl, hlt⟩
      · exact absurd hlt hle.1
      · rw [List.cons_prefix_cons]
        refine ⟨rfl, ih (fun hbefore => hle.2 ⟨rfl, hbefore⟩) hlt ?_⟩
        exact List.prefix_append beginning rest

variable {α : Type} {p : α → Bool} {l : List α}

/-- A property that no member has after one without it, the first members have. -/
theorem takeWhile_eq_filter_of_pairwise (h : l.Pairwise fun x y => p y = true → p x = true) :
    l.takeWhile p = l.filter p := by
  induction l with
  | nil => rfl
  | cons x l ih =>
    rw [List.pairwise_cons] at h
    by_cases hx : p x = true
    · rw [List.takeWhile_cons_of_pos hx, List.filter_cons_of_pos hx, ih h.2]
    · rw [List.takeWhile_cons_of_neg hx, List.filter_cons_of_neg hx, eq_comm, List.filter_eq_nil_iff]
      exact fun y hy hpy => hx (h.1 y hy hpy)

theorem dropWhile_eq_filter_of_pairwise (h : l.Pairwise fun x y => p y = true → p x = true) :
    l.dropWhile p = l.filter fun x => !p x := by
  induction l with
  | nil => rfl
  | cons x l ih =>
    rw [List.pairwise_cons] at h
    by_cases hx : p x = true
    · rw [List.dropWhile_cons_of_pos hx, List.filter_cons_of_neg (by simp [hx]), ih h.2]
    · rw [List.dropWhile_cons_of_neg hx, eq_comm, List.filter_eq_self]
      intro y hy
      rcases List.mem_cons.mp hy with rfl | hy
      · simp [hx]
      · simpa using fun hpy => hx (h.1 y hy hpy)

end Prefix

/-! ## Sums over a relation -/

section Sums

variable {α β : Type}

theorem sum_map_filter (p : β → Bool) (f : β → Nat) (bs : List β) :
    ((bs.filter p).map f).sum = (bs.map fun b => if p b then f b else 0).sum := by
  induction bs with
  | nil => rfl
  | cons b bs ih => by_cases hb : p b = true <;> simp [hb, ih]

/-- A sum over the pairs of a relation can be taken from either side. -/
theorem sum_filter_comm (r : α → β → Bool) (f : β → Nat) (as : List α) (bs : List β) :
    (as.map fun a => ((bs.filter (r a)).map f).sum).sum =
      (bs.map fun b => f b * as.countP fun a => r a b).sum := by
  induction as with
  | nil => simp
  | cons a as ih =>
    rw [List.map_cons, List.sum_cons, ih, sum_map_filter, ← List.sum_map_add]
    refine congrArg List.sum (List.map_congr_left fun b _ => ?_)
    rw [List.countP_cons, Nat.mul_add, Nat.add_comm]
    split <;> simp

end Sums

namespace Index

theorem pairwise_entries (index : Index) : index.entries.toList.Pairwise fun a b => a.1 < b.1 :=
  Std.ExtTreeMap.ordered_keys_toList.imp fun h => compare_lt_iff_lt.mp h

/-- **One scan finds all terms that start with a text.** -/
theorem entriesStartingWith_eq_filter (index : Index) (beginning : String) :
    index.entriesStartingWith beginning =
      index.entries.toList.filter fun entry => startsWith beginning entry.1 := by
  have hsorted := index.pairwise_entries
  have hdrop : (index.entries.toList.dropWhile fun entry => entry.1 < beginning) =
      index.entries.toList.filter fun entry => !decide (entry.1 < beginning) := by
    apply dropWhile_eq_filter_of_pairwise
    apply hsorted.imp
    intro a b hab hb
    rw [decide_eq_true_eq] at hb ⊢
    exact String.lt_trans hab hb
  -- from the first term on that does not come before it, those that start with the text stand first
  have htake : (index.entries.toList.filter fun entry => !decide (entry.1 < beginning)).Pairwise
      fun a b => startsWith beginning b.1 = true → startsWith beginning a.1 = true := by
    apply (hsorted.filter _).imp_of_mem
    intro a b ha _ hab hb
    rw [startsWith_iff] at hb ⊢
    refine prefix_of_lt ?_ (String.lt_iff_toList_lt.mp hab) hb
    rw [← String.lt_iff_toList_lt]
    simpa using (List.mem_filter.mp ha).2
  rw [entriesStartingWith, hdrop, takeWhile_eq_filter_of_pairwise htake, List.filter_filter]
  apply List.filter_congr
  intro entry _
  cases hstarts : startsWith beginning entry.1 with
  | false => rfl
  | true =>
    have hnot := not_lt_of_prefix (startsWith_iff.mp hstarts)
    rw [← String.lt_iff_toList_lt] at hnot
    simpa using hnot

/-! ## Adding up -/

/-- How many positions at a location match a term of a query. -/
def hits (index : Index) (mode : SearchMode) (wanted location : String) : Nat :=
  ((index.terms.filter (mode.accepts wanted)).map (index.frequency · location)).sum

/-- How often a query matches at a location. A position counts once for each term of the query that it
matches. -/
def matchCount (index : Index) (query : TermSet) (mode : SearchMode) (location : String) : Nat :=
  (query.toList.map (index.hits mode · location)).sum

/-- The frequency of an indexed term counts once for each term of the query that it matches. -/
theorem matchCount_eq_sum_terms (index : Index) (query : TermSet) (mode : SearchMode)
    (location : String) :
    index.matchCount query mode location =
      (index.terms.map fun term =>
        index.frequency term location * query.toList.countP (mode.accepts · term)).sum :=
  sum_filter_comm mode.accepts (index.frequency · location) query.toList index.terms

theorem hits_exact (index : Index) (wanted location : String) :
    index.hits .exact wanted location = index.frequency wanted location := by
  have hfilter : index.terms.filter (SearchMode.exact.accepts wanted) =
      List.replicate (index.terms.count wanted) wanted := by
    rw [← List.filter_eq]
    rfl
  rw [hits, hfilter, List.map_replicate, List.sum_replicate_nat]
  by_cases hmem : wanted ∈ index.terms
  · rw [List.count_eq_one_of_mem index.nodup_terms hmem, Nat.one_mul]
  · -- a term that is not there has no positions either
    rw [frequency_of_not_mem_terms hmem, Nat.mul_zero]

end Index

namespace Matches

/-- What was found so far: at each location its number of hits, and nothing where there are none. -/
structure Counts (found : Matches) (hits : String → Nat) : Prop where
  getD_eq : ∀ location, found.getD location 0 = hits location
  ne_zero : ∀ location : String, found[location]? ≠ some 0

variable {found : Matches} {hits : String → Nat} {index : Index} {query : TermSet}
  {mode : SearchMode}

theorem counts_empty : Counts (∅ : Matches) fun _ => 0 :=
  ⟨fun _ => Std.ExtTreeMap.getD_empty, fun location => by simp⟩

namespace Counts

theorem getElem?_eq_some_iff (h : found.Counts hits) {location : String} {count : Nat} :
    found[location]? = some count ↔ count = hits location ∧ count ≠ 0 := by
  have hcount := h.getD_eq location
  have hzero := h.ne_zero location
  rw [Std.ExtTreeMap.getD_eq_getD_getElem?] at hcount
  cases hfound : found[location]? with
  | none => simp_all
  | some n =>
    rw [hfound] at hcount hzero
    constructor
    · rintro ⟨⟩
      exact ⟨hcount, fun hn => hzero (congrArg some hn)⟩
    · rintro ⟨rfl, -⟩
      exact congrArg some hcount

/-- The postings of a term add its positions at each location. -/
theorem accumulate (h : found.Counts hits) (hindex : index.IsConsistent) {term : String}
    {postings : Postings} (hterm : index.postings? term = some postings) :
    (found.accumulate postings).Counts fun location =>
      hits location + index.frequency term location where
  getD_eq location := by
    rw [Matches.accumulate, Index.getD_foldl_raiseCount, h.getD_eq, Index.frequency_eq_size,
      Index.positionsAt_eq_getD hterm]
  ne_zero := by
    apply foldl_invariant (p := fun found : Matches => ∀ location : String, found[location]? ≠ some 0)
      h.ne_zero
    intro state key positions hkey hstate
    apply Index.getElem?_raiseCount_ne_zero hstate
    apply Index.ne_empty_iff_size_pos.mp
    exact hindex.positions_ne term key positions (by rw [Index.positions?, hterm]; exact hkey)

theorem accumulateExact (h : found.Counts hits) (hindex : index.IsConsistent) (wanted : String) :
    (index.accumulateExact found wanted).Counts fun location =>
      hits location + index.hits .exact wanted location := by
  simp only [Index.hits_exact]
  unfold Index.accumulateExact
  cases hterm : index.postings? wanted with
  | some postings => exact h.accumulate hindex hterm
  | none =>
    simp only [Index.frequency_of_postings?_eq_none hterm, Nat.add_zero]
    exact h

/-- Entries of the index add the positions of their terms. -/
theorem foldl_accumulate (h : found.Counts hits) (hindex : index.IsConsistent)
    (entries : List (String × Postings))
    (hentries : ∀ entry ∈ entries, index.postings? entry.1 = some entry.2) :
    Counts (entries.foldl (fun found entry => found.accumulate entry.2) found) fun location =>
      hits location + (entries.map fun entry => index.frequency entry.1 location).sum := by
  induction entries generalizing found hits with
  | nil => exact h
  | cons entry rest ih =>
    have hfirst := h.accumulate hindex (hentries entry List.mem_cons_self)
    have hrest := ih hfirst fun e he => hentries e (List.mem_cons_of_mem entry he)
    simpa only [List.foldl_cons, List.map_cons, List.sum_cons, Nat.add_assoc] using hrest

theorem accumulatePartial (h : found.Counts hits) (hindex : index.IsConsistent) (wanted : String) :
    (index.accumulatePartial found wanted).Counts fun location =>
      hits location + index.hits .partialMatch wanted location := by
  unfold Index.accumulatePartial
  rw [Index.entriesStartingWith_eq_filter]
  have hadded := h.foldl_accumulate hindex
    (index.entries.toList.filter fun entry => startsWith wanted entry.1) (by
      intro entry hentry
      exact Std.ExtTreeMap.mem_toList_iff_getElem?_eq_some.mp (List.mem_filter.mp hentry).1)
  -- the terms of these entries are the terms that start with the wanted one
  have hterms : index.terms.filter (SearchMode.partialMatch.accepts wanted) =
      (index.entries.toList.filter fun entry => startsWith wanted entry.1).map Prod.fst := by
    rw [Index.terms, ← Std.ExtTreeMap.map_fst_toList_eq_keys, List.filter_map]
    rfl
  simp only [Index.hits, hterms, List.map_map]
  exact hadded

/-- The terms of a query add their hits, one after the other. -/
theorem foldl {add : Matches → String → Matches} {ofTerm : String → String → Nat}
    (hadd : ∀ (found : Matches) (hits : String → Nat) (wanted : String), found.Counts hits →
      (add found wanted).Counts fun location => hits location + ofTerm wanted location)
    (query : TermSet) :
    Counts (query.foldl add ∅) fun location => (query.toList.map (ofTerm · location)).sum := by
  have hlist : ∀ (terms : List String) (found : Matches) (hits : String → Nat), found.Counts hits →
      Counts (terms.foldl add found) fun location =>
        hits location + (terms.map (ofTerm · location)).sum := by
    intro terms
    induction terms with
    | nil => exact fun _ _ h => h
    | cons wanted rest ih =>
      intro found hits h
      have hrest := ih _ _ (hadd found hits wanted h)
      simpa only [List.foldl_cons, List.map_cons, List.sum_cons, Nat.add_assoc] using hrest
  rw [Std.ExtTreeSet.foldl_eq_foldl_toList]
  simpa only [Nat.zero_add] using hlist query.toList ∅ _ counts_empty

end Counts

end Matches

/-! ## Results -/

/-- What is made of some members of a list, each under the key of its member, keeps their keys in
order. -/
theorem sublist_map_filterMap {α β γ : Type} {f : α → Option β} {key : α → γ} {keyOf : β → γ}
    (h : ∀ a b, f a = some b → keyOf b = key a) (l : List α) :
    ((l.filterMap f).map keyOf).Sublist (l.map key) := by
  induction l with
  | nil => exact .slnil
  | cons a rest ih =>
    cases hb : f a with
    | none => simpa [hb] using ih.cons (key a)
    | some b => simpa [hb, h a b hb] using ih

namespace Index

variable {index : Index} {query : TermSet} {mode : SearchMode} {result : SearchResult}

/-- A result that a search should have: its location with how often the query matches there, which is
at least once, and the score for that. -/
structure IsMatch (index : Index) (query : TermSet) (mode : SearchMode) (result : SearchResult) :
    Prop where
  count_eq : result.count = index.matchCount query mode result.location
  count_ne_zero : result.count ≠ 0
  score_eq : termFrequency result.count (index.wordCount result.location) = some result.score

/-- A search has a result for each location at which the query matches and words are counted. -/
theorem exists_isMatch {location : String} (hcount : index.matchCount query mode location ≠ 0)
    (hwords : index.wordCount location ≠ 0) :
    ∃ result, index.IsMatch query mode result ∧ result.location = location := by
  obtain ⟨score, hscore⟩ : ∃ score,
      termFrequency (index.matchCount query mode location) (index.wordCount location) = some score := by
    rw [termFrequency, if_neg hwords]
    exact ⟨_, rfl⟩
  exact ⟨⟨_, score, location⟩, ⟨rfl, hcount, hscore⟩, rfl⟩

/-- What a search has found when it comes to rank it. -/
def accumulated (index : Index) (query : TermSet) : SearchMode → Matches
  | .exact => query.foldl index.accumulateExact ∅
  | .partialMatch => query.foldl index.accumulatePartial ∅

theorem search_eq_rank (index : Index) (query : TermSet) (mode : SearchMode) :
    index.search query mode = rank (index.accumulated query mode).toList index.wordCount := by
  cases mode <;> rfl

/-- What a search has found is how often the query matches. -/
theorem IsConsistent.counts_accumulated (h : index.IsConsistent) (query : TermSet)
    (mode : SearchMode) : (index.accumulated query mode).Counts (index.matchCount query mode) := by
  cases mode with
  | exact => exact .foldl (fun _ _ wanted hfound => hfound.accumulateExact h wanted) query
  | partialMatch => exact .foldl (fun _ _ wanted hfound => hfound.accumulatePartial h wanted) query

/-- **The results of a search** in a consistent index. -/
theorem IsConsistent.mem_search (h : index.IsConsistent) :
    result ∈ index.search query mode ↔ index.IsMatch query mode result := by
  have hfound := h.counts_accumulated query mode
  rw [search_eq_rank, rank, (sortResults_perm _).mem_iff, List.mem_filterMap]
  constructor
  · rintro ⟨⟨location, count⟩, hentry, hresult⟩
    obtain ⟨score, hscore, rfl⟩ := Option.map_eq_some_iff.mp hresult
    have hcount := Std.ExtTreeMap.mem_toList_iff_getElem?_eq_some.mp hentry
    obtain ⟨heq, hne⟩ := hfound.getElem?_eq_some_iff.mp hcount
    exact ⟨heq, hne, hscore⟩
  · intro hmatch
    refine ⟨(result.location, result.count), ?_, ?_⟩
    · apply Std.ExtTreeMap.mem_toList_iff_getElem?_eq_some.mpr
      exact hfound.getElem?_eq_some_iff.mpr ⟨hmatch.count_eq, hmatch.count_ne_zero⟩
    · dsimp only
      rw [hmatch.score_eq]
      rfl

/-- A search finds no location twice. -/
theorem nodup_locations (index : Index) (query : TermSet) (mode : SearchMode) :
    ((index.search query mode).map SearchResult.location).Nodup := by
  rw [search_eq_rank, rank, ((sortResults_perm _).map _).nodup_iff]
  have hkeys : ((index.accumulated query mode).toList.map Prod.fst).Nodup := by
    rw [Std.ExtTreeMap.map_fst_toList_eq_keys]
    exact Std.ExtTreeMap.nodup_keys
  refine List.Nodup.sublist (sublist_map_filterMap ?_ _) hkeys
  rintro ⟨location, count⟩ result hresult
  obtain ⟨score, -, rfl⟩ := Option.map_eq_some_iff.mp hresult
  rfl

/-- **A search gives these results in their order.** -/
theorem IsConsistent.search_eq_sortResults (h : index.IsConsistent) {results : List SearchResult}
    (hnodup : results.Nodup)
    (hmem : ∀ result, result ∈ results ↔ index.IsMatch query mode result) :
    index.search query mode = sortResults results := by
  have hresults : (index.search query mode).Perm results := by
    refine (List.perm_ext_iff_of_nodup ?_ hnodup).mpr fun result => ?_
    · exact (index.nodup_locations query mode).of_map _
    · rw [hmem, h.mem_search]
  rw [search_eq_rank, rank] at hresults ⊢
  exact sortResults_eq_of_perm ((sortResults_perm _).symm.trans hresults)

end Index

end Concordance
