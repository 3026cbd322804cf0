import Concordance.Proofs.Query.Transparency
import Concordance.Proofs.Search.Scanning
import Concordance.Proofs.Text.Chunks

/-!
# Documents are found by their own words

A chunk of a text becomes the same term in a document and in a query, whatever stands around it. So a
query that is made of chunks of a document has terms of the document only, and finds the document if it
has any. The whole text as a query matches at every word of the document.

## Main results

* `terms_subset_of_joins`: a text that is made of chunks of another one has terms of that one only
* `countIn_ne_zero`: a query matches where one of its terms is
* `finds_of_joins`: a document is found by its own words
-/

namespace Concordance

/-- A text that is made of chunks of another one has terms of that one only. -/
theorem Text.terms_subset_of_joins {pieces : List (List Char)} {line text : String}
    (hline : Joins pieces line.toList) (hpieces : pieces ⊆ chunks text.toList) :
    terms line ⊆ terms text := by
  have hwords : wordChars line.toList ⊆ wordChars text.toList := by
    rw [hline.wordChars_eq, (joins_chunks text.toList).wordChars_eq]
    intro word hword
    obtain ⟨piece, hpiece, hword⟩ := List.mem_flatMap.mp hword
    exact List.mem_flatMap.mpr ⟨piece, hpieces hpiece, hword⟩
  exact List.map_subset _ (List.map_subset _ hwords)

theorem CanonicalQuery.mem_terms_ofLine {line term : String} :
    term ∈ (ofLine line).terms ↔ term ∈ Text.terms line := by
  simp [ofLine, ofTerms]

theorem CanonicalQuery.isEmpty_ofLine_iff {line : String} :
    (ofLine line).isEmpty = false ↔ ∃ term, term ∈ Text.terms line := by
  rw [isEmpty, ← Std.ExtTreeSet.isEmpty_toList, List.isEmpty_eq_false_iff_exists_mem]
  simp only [Std.ExtTreeSet.mem_toList, mem_terms_ofLine]

/-! ## Matches -/

variable {query : TermSet} {terms : List String} {term : String}

/-- A query matches where one of its terms is, in either mode. -/
theorem countIn_ne_zero (hquery : term ∈ query) (hterm : term ∈ terms) (mode : SearchMode) :
    mode.countIn query terms ≠ 0 := by
  cases mode with
  | exact =>
    rw [SearchMode.countIn, ne_eq, List.countP_eq_zero]
    intro hnone
    exact hnone term hterm hquery
  | partialMatch =>
    have hself : 0 < query.toList.countP fun wanted => startsWith wanted term := by
      rw [List.countP_pos_iff]
      exact ⟨term, Std.ExtTreeSet.mem_toList.mpr hquery, startsWith_iff.mpr (List.prefix_refl _)⟩
    rw [SearchMode.countIn, ne_eq, List.sum_eq_zero_iff]
    intro hzero
    exact hself.ne' (hzero _ (List.mem_map_of_mem hterm))

/-- A query that has all terms of a list matches at each of its places. -/
theorem countIn_exact_of_subset (h : ∀ term ∈ terms, term ∈ query) :
    SearchMode.exact.countIn query terms = terms.length :=
  List.countP_eq_length.mpr h

/-! ## Finding documents -/

namespace QueryEngine

/-- **A document is found by its own words.** Of documents at different locations, let one be indexed with
others, and let a line have any terms. If it is made of chunks of the document, then the engine has one
result for the document in either mode, whatever it was asked for before. If it is the whole text, then
this result counts every word of the document. -/
theorem finds_of_joins {documents : List (String × String)}
    (hlocations : (documents.map Prod.fst).Nodup) {document : String × String}
    (hdocument : document ∈ documents) {line : String}
    (hterms : (CanonicalQuery.ofLine line).isEmpty = false) (mode : SearchMode)
    (requests : List Request) :
    let index := Index.ofDocuments documents
    let results := ((requests.foldl serve (.new index.search mode)).runLine line).1
    (∀ pieces ⊆ Text.chunks document.2.toList, Text.Joins pieces line.toList →
        ∃! result, result ∈ results ∧ result.location = document.1) ∧
      (mode = .exact → line = document.2 →
        ∃ result ∈ results, result.location = document.1 ∧
          result.count = index.wordCount document.1) := by
  intro index results
  have hindex : index.IsConsistent := (Index.reachable_ofDocuments documents).isConsistent
  have hholds := Index.holdsTerms_ofDocuments hlocations hdocument
  -- the engine finds what the index has for the terms of the line
  have hrun := (hasRun_new index.search mode).foldl_serve requests
  have hresults : results = index.search (CanonicalQuery.ofLine line).terms mode :=
    hrun.runLine_fst_of_silent (index.search_empty mode) line
  have hcount : index.matchCount (CanonicalQuery.ofLine line).terms mode document.1 =
      mode.countIn (CanonicalQuery.ofLine line).terms (Text.terms document.2) :=
    hholds.matchCount_eq_countIn _ mode
  obtain ⟨term, hterm⟩ := CanonicalQuery.isEmpty_ofLine_iff.mp hterms
  have hfound (hsame : term ∈ Text.terms document.2) : ∃ result,
      index.IsMatch (CanonicalQuery.ofLine line).terms mode result ∧ result.location = document.1 := by
    have hne := countIn_ne_zero (CanonicalQuery.mem_terms_ofLine.mpr hterm) hsame mode
    have hwords : index.wordCount document.1 ≠ 0 := by
      rw [hholds.wordCount_eq hindex, ne_eq, List.length_eq_zero_iff]
      exact List.ne_nil_of_mem hsame
    exact Index.exists_isMatch (hcount ▸ hne) hwords
  constructor
  · intro pieces hpieces hline
    obtain ⟨result, hmatch, hlocation⟩ := hfound (Text.terms_subset_of_joins hline hpieces hterm)
    rw [hresults]
    refine ⟨result, ⟨hindex.mem_search.mpr hmatch, hlocation⟩, ?_⟩
    rintro other ⟨hother, hsame⟩
    exact List.inj_on_of_nodup_map (index.nodup_locations _ mode) hother
      (hindex.mem_search.mpr hmatch) (hsame.trans hlocation.symm)
  · rintro rfl rfl
    obtain ⟨result, hmatch, hlocation⟩ := hfound hterm
    have hall : ∀ term ∈ Text.terms document.2, term ∈ (CanonicalQuery.ofLine document.2).terms :=
      fun term hterm => CanonicalQuery.mem_terms_ofLine.mpr hterm
    refine ⟨result, hresults ▸ hindex.mem_search.mpr hmatch, hlocation, ?_⟩
    rw [hmatch.count_eq, hlocation, hcount, countIn_exact_of_subset hall, hholds.wordCount_eq hindex]

/-- A word whose last letter has another form in front of white space, and one with an accent, in an
order of their own; the engine has run the same terms before. -/
theorem finds_of_joins_final_sigma :
    let documents := [("b", "café"), ("a", "ΟΔΟΣ, 2 cafés ΟΔΟΣ2")]
    let pieces := ["cafés".toList, "ΟΔΟΣ,".toList]
    let line := "cafés\tΟΔΟΣ,"
    let index := Index.ofDocuments documents
    let results := (([Request.run "οδος CAFE"].foldl serve
      (.new index.search .partialMatch)).runLine line).1
    (documents.map Prod.fst).Nodup ∧ ("a", "ΟΔΟΣ, 2 cafés ΟΔΟΣ2") ∈ documents ∧
      Text.Joins pieces line.toList ∧ pieces ⊆ Text.chunks "ΟΔΟΣ, 2 cafés ΟΔΟΣ2".toList ∧
      (CanonicalQuery.ofLine line).isEmpty = false ∧
      ∃! result, result ∈ results ∧ result.location = "a" := by
  intro documents pieces line index results
  have hlocations : (documents.map Prod.fst).Nodup := by decide
  have hdocument : ("a", "ΟΔΟΣ, 2 cafés ΟΔΟΣ2") ∈ documents := by simp [documents]
  have hline : Text.Joins pieces line.toList := by
    have hparts : line.toList = "cafés".toList ++ '\t' :: "ΟΔΟΣ,".toList := by decide
    rw [hparts]
    exact .piece _ (by decide) (.last _)
  have hpieces : pieces ⊆ Text.chunks "ΟΔΟΣ, 2 cafés ΟΔΟΣ2".toList := by decide +kernel
  have hterms : (CanonicalQuery.ofLine line).isEmpty = false :=
    CanonicalQuery.isEmpty_ofLine_iff.mpr ⟨"cafe", by decide +kernel⟩
  obtain ⟨hfound, -⟩ := finds_of_joins hlocations hdocument hterms .partialMatch
    [Request.run "οδος CAFE"]
  exact ⟨hlocations, hdocument, hline, hpieces, hterms, hfound pieces hpieces hline⟩

end QueryEngine

end Concordance
