import Concordance.Index.Documents
import Concordance.Proofs.Index.Consistency

/-!
# An index is the set of its occurrences

Two reachable indexes with the same occurrences are equal, postings and counts alike. So merging is
the union of two sets, and adding occurrences one by one comes to the same index in every order.

## Main results

* `IsConsistent.ext`: consistent indexes with the same occurrences are equal
* `merge_build`: merging two built indexes is building one
* `merge_laws`: an index as a set, and merging as union
-/

namespace Concordance.Index

/-- Equal positions at a term and a location mean equal entries, as neither index keeps empty
ones. -/
theorem IsConsistent.positions?_eq {index other : Index} (h : index.IsConsistent)
    (hother : other.IsConsistent) {term location : String}
    (heq : index.positionsAt term location = other.positionsAt term location) :
    index.positions? term location = other.positions? term location := by
  unfold positionsAt at heq
  cases hleft : index.positions? term location with
  | none =>
    cases hright : other.positions? term location with
    | none => rfl
    | some positions =>
      rw [hleft, hright] at heq
      exact absurd heq.symm (hother.positions_ne term location positions hright)
  | some positions =>
    cases hright : other.positions? term location with
    | none =>
      rw [hleft, hright] at heq
      exact absurd heq (h.positions_ne term location positions hleft)
    | some positions' =>
      rw [hleft, hright] at heq
      exact congrArg some heq

theorem IsConsistent.postings?_eq {index other : Index} (h : index.IsConsistent)
    (hother : other.IsConsistent) {term : String}
    (heq : ∀ location, index.positions? term location = other.positions? term location) :
    index.postings? term = other.postings? term := by
  -- a term that one index lacks would have a location in the other
  have hnone : ∀ {i j : Index}, j.IsConsistent → i.postings? term = none →
      (∀ location, i.positions? term location = j.positions? term location) →
      j.postings? term = none := by
    intro i j hj hi hij
    by_contra hsome
    obtain ⟨postings, hpostings⟩ := Option.ne_none_iff_exists'.mp hsome
    obtain ⟨location, positions, hlocation⟩ :=
      exists_getElem?_of_ne_empty (hj.postings_ne term postings hpostings)
    have hleft := hij location
    simp [positions?, hi, hpostings, hlocation] at hleft
  cases hleft : index.postings? term with
  | none => exact (hnone hother hleft heq).symm
  | some postings =>
    cases hright : other.postings? term with
    | none => exact absurd (hnone h hright fun location => (heq location).symm) (by simp [hleft])
    | some postings' =>
      refine congrArg some (Std.ExtTreeMap.ext_getElem? fun location => ?_)
      simpa [positions?, hleft, hright] using heq location

theorem IsConsistent.counts_eq {index : Index} (h : index.IsConsistent) (location : String) :
    index.counts[location]? =
      if index.recount location = 0 then none else some (index.recount location) := by
  have hmem : location ∈ index.counts ↔ index.recount location ≠ 0 := h.mem_counts_iff
  have hcount := h.wordCount_eq location
  rw [wordCount, Std.ExtTreeMap.getD_eq_getD_getElem?] at hcount
  rw [Std.ExtTreeMap.mem_iff_isSome_getElem?] at hmem
  cases hsome : index.counts[location]? with
  | none => simp_all
  | some count => simp_all

/-- Consistent indexes with the same occurrences are equal. -/
theorem IsConsistent.ext {index other : Index} (h : index.IsConsistent)
    (hother : other.IsConsistent) (hmem : ∀ occurrence, occurrence ∈ index ↔ occurrence ∈ other) :
    index = other := by
  have hpositions : ∀ term location,
      index.positionsAt term location = other.positionsAt term location := fun term location =>
    Std.ExtTreeSet.ext_mem fun position => by
      simpa only [mem_iff] using hmem ⟨term, location, position⟩
  have hentries : index.entries = other.entries := Std.ExtTreeMap.ext_getElem? fun term =>
    h.postings?_eq hother fun location => h.positions?_eq hother (hpositions term location)
  -- the counts follow from the entries, as both indexes are consistent
  have hrecount : ∀ location, index.recount location = other.recount location := by
    intro location
    simp only [recount, terms, frequency, positions?, postings?, hentries]
  have hcounts : index.counts = other.counts := Std.ExtTreeMap.ext_getElem? fun location => by
    rw [h.counts_eq, hother.counts_eq, hrecount]
  obtain ⟨entries, counts⟩ := index
  obtain ⟨entries', counts'⟩ := other
  exact congrArg₂ Index.mk hentries hcounts

theorem Reachable.ext {index other : Index} (h : index.Reachable) (hother : other.Reachable)
    (hmem : ∀ occurrence, occurrence ∈ index ↔ occurrence ∈ other) : index = other :=
  h.isConsistent.ext hother.isConsistent hmem

/-! ## Building -/

theorem build_eq_build_iff {xs ys : List Occurrence} :
    build xs = build ys ↔ ∀ occurrence, occurrence ∈ xs ↔ occurrence ∈ ys := by
  constructor
  · intro h occurrence
    rw [← mem_build, h, mem_build]
  · intro h
    exact (reachable_build xs).ext (reachable_build ys) fun occurrence => by
      rw [mem_build, mem_build, h]

theorem merge_build (xs ys : List Occurrence) : (build xs).merge (build ys) = build (xs ++ ys) :=
  ((reachable_build xs).merge (reachable_build ys)).ext (reachable_build _) fun occurrence => by
    rw [mem_merge, mem_build, mem_build, mem_build, List.mem_append]

theorem build_append (xs ys : List Occurrence) : build (xs ++ ys) = ys.foldl add (build xs) :=
  List.foldl_append

theorem addTerms_eq_foldl_add (index : Index) (location : String) (start : Nat)
    (terms : List String) : ∃ occurrences : List Occurrence,
      index.addTerms location start terms = occurrences.foldl add index := by
  induction terms generalizing index start with
  | nil => exact ⟨[], rfl⟩
  | cons term rest ih =>
    obtain ⟨occurrences, h⟩ := ih (index.add ⟨term, location, start⟩) (start + 1)
    exact ⟨⟨term, location, start⟩ :: occurrences, h⟩

/-- Every reachable index is that of a list of occurrences. -/
theorem Reachable.exists_build {index : Index} (h : index.Reachable) :
    ∃ occurrences, index = build occurrences := by
  -- induction on how the index came about, with one list for each part
  induction h with
  | empty => exact ⟨[], rfl⟩
  | add _ occurrence ih =>
    obtain ⟨xs, rfl⟩ := ih
    exact ⟨xs ++ [occurrence], by rw [build_append]; rfl⟩
  | addTerms _ location start terms ih =>
    obtain ⟨xs, rfl⟩ := ih
    obtain ⟨ys, hys⟩ := addTerms_eq_foldl_add (build xs) location start terms
    exact ⟨xs ++ ys, by rw [hys, build_append]⟩
  | merge _ _ ih ihother =>
    obtain ⟨xs, rfl⟩ := ih
    obtain ⟨ys, rfl⟩ := ihother
    exact ⟨xs ++ ys, merge_build xs ys⟩

/-! ## Adding one occurrence -/

theorem record_fst_iff {index : Index} {occurrence : Occurrence} :
    (index.record occurrence).1 = true ↔ occurrence ∉ index := by
  rw [record_fst, mem_def, Bool.not_eq_true', Bool.not_eq_true]

theorem record_snd_of_fst_eq_false {index : Index} {occurrence : Occurrence}
    (h : (index.record occurrence).1 = false) : (index.record occurrence).2 = index := by
  refine add_of_mem (by_contra fun hmem => ?_)
  rw [record_fst_iff.mpr hmem] at h
  exact Bool.noConfusion h

/-! ## Merging -/

section Merge

variable {a b c : Index}

theorem merge_comm (ha : a.Reachable) (hb : b.Reachable) : a.merge b = b.merge a :=
  (ha.merge hb).ext (hb.merge ha) fun occurrence => by rw [mem_merge, mem_merge, or_comm]

theorem merge_assoc (ha : a.Reachable) (hb : b.Reachable) (hc : c.Reachable) :
    (a.merge b).merge c = a.merge (b.merge c) :=
  ((ha.merge hb).merge hc).ext (ha.merge (hb.merge hc)) fun occurrence => by
    simp only [mem_merge, or_assoc]

/-- Merging what an index has already changes nothing. -/
theorem merge_of_subset (ha : a.Reachable) (hb : b.Reachable)
    (h : ∀ occurrence, occurrence ∈ b → occurrence ∈ a) : a.merge b = a :=
  (ha.merge hb).ext ha fun occurrence => by
    rw [mem_merge]
    exact or_iff_left_of_imp (h occurrence)

theorem merge_self (ha : a.Reachable) : a.merge a = a :=
  merge_of_subset ha ha fun _ => id

theorem merge_empty (ha : a.Reachable) : a.merge empty = a :=
  merge_of_subset ha Reachable.empty fun occurrence h => absurd h (not_mem_empty occurrence)

theorem empty_merge (ha : a.Reachable) : empty.merge a = a :=
  (merge_comm Reachable.empty ha).trans (merge_empty ha)

/-- Nothing is left out where an empty index is not added. -/
theorem absorb_eq_merge (index other : Index) : index.absorb other = index.merge other := by
  unfold absorb
  split
  · next hempty =>
    have hentries : other.entries.toList = [] := by
      simp [Std.ExtTreeMap.isEmpty_iff.mp hempty]
    rw [merge, Std.ExtTreeMap.foldl_eq_foldl_toList, hentries, List.foldl_nil]
  · rfl

theorem mem_absorb {occurrence : Occurrence} :
    occurrence ∈ a.absorb b ↔ occurrence ∈ a ∨ occurrence ∈ b := by
  rw [absorb_eq_merge, mem_merge]

theorem Reachable.absorb (ha : a.Reachable) (hb : b.Reachable) : (a.absorb b).Reachable := by
  rw [absorb_eq_merge]
  exact ha.merge hb

end Merge

/-! ## Documents -/

theorem mem_ofText {location text : String} {occurrence : Occurrence} :
    occurrence ∈ ofText location text ↔
      ∃ i term, (Text.terms text)[i]? = some term ∧ occurrence = ⟨term, location, 1 + i⟩ := by
  rw [ofText, addText, mem_addTerms]
  exact or_iff_right (not_mem_empty occurrence)

theorem reachable_ofText (location text : String) : (ofText location text).Reachable :=
  Reachable.empty.addTerms location 1 _

/-- **An index is the set of its occurrences.** Building adds up lists and depends only on which
occurrences they have, adding says whether an occurrence was new and changes nothing if it was not,
every reachable index is built from a list, and merging is a union: it has the laws of one. -/
theorem merge_laws :
    (∀ xs ys : List Occurrence, (build xs).merge (build ys) = build (xs ++ ys)) ∧
    (∀ xs ys : List Occurrence,
      build xs = build ys ↔ ∀ occurrence, occurrence ∈ xs ↔ occurrence ∈ ys) ∧
    (∀ (index : Index) (occurrence : Occurrence),
      ((index.record occurrence).1 = true ↔ occurrence ∉ index) ∧
      ((index.record occurrence).1 = false → (index.record occurrence).2 = index)) ∧
    ∀ a : Index, a.Reachable →
      (∃ xs : List Occurrence, a = build xs) ∧ a.merge empty = a ∧ empty.merge a = a ∧
      a.merge a = a ∧
      ∀ b : Index, b.Reachable → a.merge b = b.merge a ∧
        ∀ c : Index, c.Reachable → (a.merge b).merge c = a.merge (b.merge c) :=
  ⟨merge_build, fun _ _ => build_eq_build_iff,
    fun _ _ => ⟨record_fst_iff, record_snd_of_fst_eq_false⟩,
    fun _ ha => ⟨ha.exists_build, merge_empty ha, empty_merge ha, merge_self ha,
      fun _ hb => ⟨merge_comm ha hb, fun _ hc => merge_assoc ha hb hc⟩⟩⟩

/-- An index of two occurrences at one location merged with one that shares an occurrence with it,
either way round, and with itself. -/
theorem merge_laws_overlapping :
    let a := build [⟨"a", "x", 1⟩, ⟨"b", "x", 2⟩]
    let b := build [⟨"a", "x", 1⟩, ⟨"a", "y", 1⟩]
    a.Reachable ∧ b.Reachable ∧ a.merge b = b.merge a ∧ a.merge a = a ∧ a.merge b ≠ a := by
  intro a b
  have ha : a.Reachable := reachable_build _
  have hb : b.Reachable := reachable_build _
  obtain ⟨-, -, -, hlaws⟩ := merge_laws
  obtain ⟨-, -, -, hself, hother⟩ := hlaws a ha
  exact ⟨ha, hb, (hother b hb).1, hself, by decide⟩

end Concordance.Index
