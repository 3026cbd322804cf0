import Concordance.Proofs.Search.Matching
import Concordance.Proofs.Text.Bytes

/-!
# The terms with a beginning

The terms of an index stand in the order of their bytes. Those with the same beginning stand together,
and the first of them is the first term that does not come before that beginning. So a scan that starts
there, and stops at the first term without the beginning, misses none.

## Main results

* `entriesStartingWith_eq_scan`: the scan, on the bytes of the terms
* `entriesStartingWith_complete`: it finds the terms with the beginning, each once and with all its
  postings, in ascending order
-/

namespace Concordance

theorem startsWith_eq_isPrefixOf (beginning text : String) :
    startsWith beginning text = (Text.bytes beginning).isPrefixOf (Text.bytes text) := by
  rw [Bool.eq_iff_iff, startsWith_iff, List.isPrefixOf_iff_prefix, Text.bytes_prefix_bytes_iff]

namespace Index

variable (index : Index) (beginning : String)

/-- The scan goes by the bytes of the terms, from the first term that does not come before the
beginning to the first one without it. -/
theorem entriesStartingWith_eq_scan :
    index.entriesStartingWith beginning =
      (index.entries.toList.dropWhile fun entry => Text.bytes entry.1 < Text.bytes beginning).takeWhile
        fun entry => (Text.bytes beginning).isPrefixOf (Text.bytes entry.1) := by
  simp only [entriesStartingWith, startsWith_eq_isPrefixOf, Text.bytes_lt_bytes_iff]

theorem mem_entriesStartingWith {term : String} {postings : Postings} :
    (term, postings) ∈ index.entriesStartingWith beginning ↔
      index.postings? term = some postings ∧ Text.bytes beginning <+: Text.bytes term := by
  rw [entriesStartingWith_eq_filter, List.mem_filter, startsWith_eq_isPrefixOf,
    List.isPrefixOf_iff_prefix, Std.ExtTreeMap.mem_toList_iff_getElem?_eq_some]
  rfl

theorem pairwise_bytes_entriesStartingWith :
    (index.entriesStartingWith beginning).Pairwise fun a b => Text.bytes a.1 < Text.bytes b.1 := by
  rw [entriesStartingWith_eq_filter]
  exact (index.pairwise_entries.filter _).imp Text.bytes_lt_bytes_iff.mpr

/-- **The scan misses no term with the beginning.** From the first term on that does not come before the
beginning to the first one without it, it gives what going through all terms would give: each term whose
bytes start with those of the beginning, once and with all its postings, and nothing else, by ascending
bytes. -/
theorem entriesStartingWith_complete :
    index.entriesStartingWith beginning =
        ((index.entries.toList.dropWhile fun entry =>
          Text.bytes entry.1 < Text.bytes beginning).takeWhile fun entry =>
            (Text.bytes beginning).isPrefixOf (Text.bytes entry.1)) ∧
      index.entriesStartingWith beginning =
        (index.entries.toList.filter fun entry =>
          (Text.bytes beginning).isPrefixOf (Text.bytes entry.1)) ∧
      (∀ term postings, (term, postings) ∈ index.entriesStartingWith beginning ↔
        index.postings? term = some postings ∧ Text.bytes beginning <+: Text.bytes term) ∧
      (index.entriesStartingWith beginning).Pairwise fun a b => Text.bytes a.1 < Text.bytes b.1 := by
  refine ⟨entriesStartingWith_eq_scan index beginning, ?_,
    fun _ _ => mem_entriesStartingWith index beginning,
    pairwise_bytes_entriesStartingWith index beginning⟩
  simp only [entriesStartingWith_eq_filter, startsWith_eq_isPrefixOf]

end Index

end Concordance
