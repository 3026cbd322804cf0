import Concordance.Proofs.Number.TotalOrder
import Concordance.Proofs.Search.Ranking
import Concordance.Proofs.Text.Bytes

/-!
# Precedence

Which of two results comes first can be told from their keys alone: the bits of the scores as signed
numbers, the counts, the characters of the locations in lowercase, and the bytes of the locations. The
order that this gives is a strict total one, for whatever bits the scores have, so a list has one
sorted form.

## Main definitions

* `SearchResult.Precedes`: one result comes before another

## Main results

* `compareRank_eq_lt_iff`: the order of results is this precedence
* `compareRank_eq_eq_iff`: only results that agree in everything are at the same place
* `ranking_laws`: the order is strict and total, and sorting by it is canonical
-/

namespace Concordance

namespace Binary64

theorem compare_eq_lt_iff {x y : Binary64} : compare x y = .lt ↔ x.totalBits < y.totalBits := by
  rw [Int64.lt_iff_toInt_lt, toInt_totalBits, toInt_totalBits]
  exact compare_lt_iff_lt (a := x.orderKey) (b := y.orderKey)

end Binary64

namespace SearchResult

/-- One result comes before another: it has the higher score by the bits of the scores, or the same
score and the higher count, or the same of both and the location that comes first in lowercase, or the
same in lowercase and the location that comes first by its bytes. -/
def Precedes (a b : SearchResult) : Prop :=
  b.score.totalBits < a.score.totalBits ∨
    b.score = a.score ∧ (b.count < a.count ∨
      b.count = a.count ∧ (foldCase a.location < foldCase b.location ∨
        foldCase a.location = foldCase b.location ∧
          Text.bytes a.location < Text.bytes b.location))

variable {a b c : SearchResult}

/-- **The order of results is their precedence.** -/
theorem compareRank_eq_lt_iff : a.compareRank b = .lt ↔ a.Precedes b := by
  have hscore : compare b.score a.score = .lt ↔ b.score.totalBits < a.score.totalBits :=
    Binary64.compare_eq_lt_iff
  have hcount : compare b.count a.count = .lt ↔ b.count < a.count := compare_lt_iff_lt
  have hfolded : compare (foldCase a.location) (foldCase b.location) = .lt ↔
      foldCase a.location < foldCase b.location := Text.list_compare_eq_lt_iff
  have hlocation : compare a.location b.location = .lt ↔
      Text.bytes a.location < Text.bytes b.location := by
    rw [Text.bytes_lt_bytes_iff]
    exact compare_lt_iff_lt
  rw [compareRank, Ordering.then_assoc, Ordering.then_assoc, Ordering.then_eq_lt,
    Ordering.then_eq_lt, Ordering.then_eq_lt, hscore, hcount, hfolded, hlocation,
    Std.LawfulEqOrd.compare_eq_iff_eq, Std.LawfulEqOrd.compare_eq_iff_eq,
    Std.LawfulEqOrd.compare_eq_iff_eq, Precedes]

/-- **Only results that agree in everything are at the same place.** -/
theorem compareRank_eq_eq_iff :
    a.compareRank b = .eq ↔
      a.score.bits = b.score.bits ∧ a.count = b.count ∧ a.location = b.location := by
  have hsame : a.compareRank b = .eq ↔ a = b := Std.LawfulEqCmp.compare_eq_iff_eq
  rw [hsame, SearchResult.mk.injEq, Binary64.mk.injEq]
  exact and_left_comm

theorem compareRank_trans {order : Ordering} (hab : a.compareRank b = order)
    (hbc : b.compareRank c = order) : a.compareRank c = order := by
  cases order with
  | lt => exact Std.TransCmp.lt_trans hab hbc
  | eq => exact Std.TransCmp.eq_trans hab hbc
  | gt => exact Std.TransCmp.gt_trans hab hbc

end SearchResult

theorem pairwise_not_lt_sortResults (results : List SearchResult) :
    (sortResults results).Pairwise fun earlier later => later.compareRank earlier ≠ .lt := by
  apply (pairwise_isLE_sortResults results).imp
  intro earlier later hle hlt
  have hswap : earlier.compareRank later = (later.compareRank earlier).swap :=
    Std.OrientedCmp.eq_swap
  rw [hswap, hlt] at hle
  cases hle

/-- **The order of results is strict and total, and sorting by it is canonical.** It goes by score,
count, location in lowercase and location; turning two results around turns their order around; it is
transitive; and only results that agree in everything are at the same place. Sorting keeps all results
and puts none after one that it precedes. It gives the same list however the results stood before. -/
theorem ranking_laws :
    (∀ a b : SearchResult, a.compareRank b = .lt ↔ a.Precedes b) ∧
      (∀ a b : SearchResult, a.compareRank b = (b.compareRank a).swap) ∧
      (∀ (a b c : SearchResult) (order : Ordering), a.compareRank b = order →
        b.compareRank c = order → a.compareRank c = order) ∧
      (∀ a b : SearchResult, a.compareRank b = .eq ↔
        a.score.bits = b.score.bits ∧ a.count = b.count ∧ a.location = b.location) ∧
      (∀ results, (sortResults results).Perm results ∧
        (sortResults results).Pairwise fun earlier later => later.compareRank earlier ≠ .lt) ∧
      ∀ results more : List SearchResult, results.Perm more →
        sortResults results = sortResults more := by
  refine ⟨fun _ _ => SearchResult.compareRank_eq_lt_iff, fun _ _ => Std.OrientedCmp.eq_swap,
    fun _ _ _ _ => SearchResult.compareRank_trans,
    fun _ _ => SearchResult.compareRank_eq_eq_iff, fun results => ?_,
    fun _ _ => sortResults_eq_of_perm⟩
  exact ⟨sortResults_perm results, pairwise_not_lt_sortResults results⟩

/-- A score that is not a number, both zeros, and locations that only differ in case. -/
theorem ranking_laws_odd_scores :
    let unknown : SearchResult := ⟨1, ⟨0x7ff8000000000000⟩, "b"⟩
    let upper : SearchResult := ⟨1, ⟨0⟩, "ÄB"⟩
    let lower : SearchResult := ⟨1, ⟨0⟩, "äb"⟩
    let negative : SearchResult := ⟨1, ⟨0x8000000000000000⟩, "a"⟩
    unknown.Precedes upper ∧ upper.Precedes lower ∧ lower.Precedes negative ∧
      unknown.compareRank lower = .lt ∧ unknown.compareRank negative = .lt ∧
      sortResults [negative, lower, upper, unknown] =
        sortResults [unknown, upper, lower, negative] := by
  intro unknown upper lower negative
  obtain ⟨hprecedes, -, htrans, -, -, hsort⟩ := ranking_laws
  have hunknown : unknown.compareRank upper = .lt := by decide +kernel
  have hupper : upper.compareRank lower = .lt := by decide +kernel
  have hlower : lower.compareRank negative = .lt := by decide +kernel
  have hfolded := htrans unknown upper lower .lt hunknown hupper
  refine ⟨(hprecedes _ _).mp hunknown, (hprecedes _ _).mp hupper, (hprecedes _ _).mp hlower, hfolded,
    htrans unknown lower negative .lt hfolded hlower, hsort _ _ ?_⟩
  exact List.reverse_perm [unknown, upper, lower, negative]

end Concordance
