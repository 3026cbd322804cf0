import Concordance.Search.Ranking

/-!
# Ranks

The order of results is total, and only a result itself comes at the same place. So a list of results
has one order, which does not depend on how the results were found.

## Main results

* `sortResults_eq_of_perm`: lists with the same results have the same order
* `pairwise_sortResults`: results without repetition come in a strictly ascending order
-/

namespace Concordance

instance : Std.TransOrd Binary64 :=
  inferInstanceAs (Std.TransCmp (compareOn Binary64.orderKey))

instance : Std.LawfulEqOrd Binary64 where
  eq_of_compare h := Binary64.orderKey_inj.mp (Std.LawfulEqOrd.eq_of_compare h)

namespace SearchResult

/-- The order of two results is a chain of comparisons, each of which decides where those before it do
not. -/
theorem compareRank_eq_compareLex : compareRank = compareLex
    (compareLex
      (compareLex (fun a b => compareOn score b a) (fun a b => compareOn count b a))
      (compareOn fun result => foldCase result.location))
    (compareOn location) := rfl

instance : Std.TransCmp compareRank := by
  rw [compareRank_eq_compareLex]
  have hscore : Std.TransCmp fun a b : SearchResult => compareOn score b a := .opposite
  have hcount : Std.TransCmp fun a b : SearchResult => compareOn count b a := .opposite
  infer_instance

/-- Only a result itself comes at the same place. -/
instance : Std.LawfulEqCmp compareRank where
  eq_of_compare {a b} h := by
    simp only [compareRank, Ordering.then_eq_eq, Std.LawfulEqOrd.compare_eq_iff_eq] at h
    obtain ⟨⟨⟨hscore, hcount⟩, -⟩, hlocation⟩ := h
    obtain ⟨count, score, location⟩ := a
    cases hscore
    cases hcount
    cases hlocation
    rfl

theorem isLE_compareRank_total (a b : SearchResult) :
    ((a.compareRank b).isLE || (b.compareRank a).isLE) = true := by
  have hswap : b.compareRank a = (a.compareRank b).swap := Std.OrientedCmp.eq_swap
  rw [hswap]
  cases a.compareRank b <;> rfl

end SearchResult

theorem sortResults_perm (results : List SearchResult) : (sortResults results).Perm results :=
  List.mergeSort_perm results _

theorem pairwise_isLE_sortResults (results : List SearchResult) :
    (sortResults results).Pairwise fun a b => (a.compareRank b).isLE = true :=
  List.pairwise_mergeSort (fun _ _ _ => Std.TransCmp.isLE_trans) SearchResult.isLE_compareRank_total
    results

/-- **Lists with the same results have the same order.** -/
theorem sortResults_eq_of_perm {results more : List SearchResult} (h : results.Perm more) :
    sortResults results = sortResults more := by
  apply List.Perm.eq_of_pairwise
  case le => exact fun a b => (a.compareRank b).isLE = true
  · intro a b _ _ hab hba
    exact Std.LawfulEqCmp.eq_of_compare (Std.OrientedCmp.isLE_antisymm hab hba)
  · exact pairwise_isLE_sortResults results
  · exact pairwise_isLE_sortResults more
  · exact (sortResults_perm results).trans (h.trans (sortResults_perm more).symm)

/-- **Results without repetition come in a strictly ascending order.** -/
theorem pairwise_sortResults {results : List SearchResult} (h : results.Nodup) :
    (sortResults results).Pairwise fun a b => a.compareRank b = .lt := by
  have hnodup : (sortResults results).Nodup := (sortResults_perm results).nodup_iff.mpr h
  apply (pairwise_isLE_sortResults results).imp₂ _ hnodup
  intro a b hle hne
  cases hcompare : a.compareRank b with
  | lt => rfl
  | eq => exact absurd (Std.LawfulEqCmp.eq_of_compare hcompare) hne
  | gt =>
    rw [hcompare] at hle
    cases hle

end Concordance
