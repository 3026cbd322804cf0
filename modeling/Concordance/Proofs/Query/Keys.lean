import Concordance.Proofs.Text.Terms
import Concordance.Query.Canonical

/-!
# Keys of queries

A key is the terms of a query with a space between them. No term is empty and none has a space in it, so
the terms can be read off the key, and two lines with the same key have the same terms.

## Main results

* `intercalate_inj`: words can be read off the text that they make with spaces between them
* `ofLine_eq_of_key_eq`: lines with the same key are the same query
* `key_eq_empty_iff`: the key of a line is empty if the line has no terms
-/

namespace Concordance.CanonicalQuery

/-- A text that is not empty and has no space in it. -/
structure IsWord (text : String) : Prop where
  ne_empty : text ≠ ""
  space_not_mem : ' ' ∉ text.toList

theorem splitOn_toList_intercalate {words : List String} (h : ∀ word ∈ words, IsWord word)
    (hne : words ≠ []) :
    (" ".intercalate words).toList.splitOn ' ' = words.map String.toList := by
  rw [String.toList_intercalate]
  apply List.splitOn_intercalate ' '
  · intro letters hletters
    rcases List.mem_map.mp hletters with ⟨word, hword, rfl⟩
    exact (h word hword).space_not_mem
  · simpa using hne

theorem intercalate_eq_empty_iff {words : List String} (h : ∀ word ∈ words, IsWord word) :
    " ".intercalate words = "" ↔ words = [] := by
  constructor
  · intro hempty
    by_cases hne : words = []
    · exact hne
    exfalso
    have hsplit := splitOn_toList_intercalate h hne
    rw [hempty] at hsplit
    -- the empty text is one piece, which is no word
    rcases List.exists_mem_of_ne_nil words hne with ⟨word, hword⟩
    have hletters : word.toList ∈ words.map String.toList := List.mem_map_of_mem hword
    rw [← hsplit, String.toList_empty, List.splitOn_nil, List.mem_singleton] at hletters
    exact (h word hword).ne_empty (String.toList_eq_nil_iff.mp hletters)
  · rintro rfl
    exact String.intercalate_nil

/-- **Words can be read off the text that they make** with spaces between them. -/
theorem intercalate_inj {words more : List String} (h : ∀ word ∈ words, IsWord word)
    (hmore : ∀ word ∈ more, IsWord word) :
    " ".intercalate words = " ".intercalate more ↔ words = more := by
  constructor
  · intro heq
    by_cases hne : words = []
    · rw [hne] at heq ⊢
      exact ((intercalate_eq_empty_iff hmore).mp heq.symm).symm
    · have hne' : more ≠ [] := by
        rintro rfl
        exact hne ((intercalate_eq_empty_iff h).mp heq)
      have hletters : words.map String.toList = more.map String.toList := by
        rw [← splitOn_toList_intercalate h hne, ← splitOn_toList_intercalate hmore hne', heq]
      exact (List.map_inj_right fun _ _ => String.toList_inj.mp).mp hletters
  · rintro rfl
    rfl

variable {line other : String}

theorem isWord_of_mem_ofLine (line : String) :
    ∀ term ∈ (ofLine line).terms.toList, IsWord term := by
  intro term h
  have hterm : term ∈ Text.terms line := by
    rw [Std.ExtTreeSet.mem_toList] at h
    simpa [ofLine, ofTerms] using h
  refine ⟨Text.ne_empty_of_mem_terms hterm, fun hspace => ?_⟩
  have hwhite := Text.isWhiteSpace_of_mem_terms hterm ' ' hspace
  exact absurd hwhite (by decide)

theorem key_ofTerms (terms : TermSet) : (ofTerms terms).key = " ".intercalate terms.toList := rfl

theorem terms_ofTerms (terms : TermSet) : (ofTerms terms).terms = terms := rfl

theorem key_ofLine (line : String) :
    (ofLine line).key = " ".intercalate (ofLine line).terms.toList := by
  rw [ofLine, key_ofTerms, terms_ofTerms]

theorem ofTerms_terms_ofLine (line : String) : ofTerms (ofLine line).terms = ofLine line := by
  rw [ofLine, terms_ofTerms]

/-- **Lines with the same key are the same query.** -/
theorem ofLine_eq_of_key_eq (h : (ofLine line).key = (ofLine other).key) :
    ofLine line = ofLine other := by
  rw [key_ofLine, key_ofLine] at h
  have hterms := (intercalate_inj (isWord_of_mem_ofLine line) (isWord_of_mem_ofLine other)).mp h
  have hsame : (ofLine line).terms = (ofLine other).terms := by
    rw [← Std.ExtTreeSet.toList_inj, hterms]
  rw [← ofTerms_terms_ofLine line, hsame, ofTerms_terms_ofLine]

/-- **The key of a line is empty if the line has no terms**, and only then. -/
theorem key_eq_empty_iff : (ofLine line).key = "" ↔ (ofLine line).isEmpty = true := by
  rw [key_ofLine, intercalate_eq_empty_iff (isWord_of_mem_ofLine line), isEmpty,
    ← Std.ExtTreeSet.isEmpty_toList, List.isEmpty_iff]

end Concordance.CanonicalQuery
