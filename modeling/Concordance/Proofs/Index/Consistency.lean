import Concordance.Proofs.Index.Membership
import Mathlib.Algebra.BigOperators.Group.Finset.Sigma
import Mathlib.Data.Set.Card

/-!
# The counts of an index

The count of a location grows with every occurrence that is new, in three places: when one is added,
when a term is taken over from another index, and when its postings are united. Whatever is done to
an index that starts empty, its counts are those that going through all terms gives.

## Main definitions

* `Index.IsConsistent`: the counts agree with the postings, and nothing empty is kept
* `Index.Reachable`: what adding and merging make of the empty index

## Main results

* `recount_add_frequency`: a change at one term changes a count by what changes there
* `IsConsistent.of_change`: a consistent index stays so if one term changes along with the counts
* `Reachable.isConsistent`: every reachable index is consistent
* `counts_of_reachable`: what the counts of a reachable index are
-/

namespace Concordance.Index

/-! ## Counting by terms -/

theorem frequency_of_postings?_eq_none {index : Index} {term : String}
    (h : index.postings? term = none) (location : String) : index.frequency term location = 0 := by
  simp [frequency, positions?, h]

theorem mem_terms {index : Index} {term : String} :
    term ∈ index.terms ↔ ∃ postings, index.postings? term = some postings := by
  rw [terms, Std.ExtTreeMap.mem_keys, Std.ExtTreeMap.mem_iff_isSome_getElem?,
    Option.isSome_iff_exists]
  rfl

theorem frequency_of_not_mem_terms {index : Index} {term : String} (h : term ∉ index.terms)
    (location : String) : index.frequency term location = 0 := by
  refine frequency_of_postings?_eq_none ?_ location
  by_contra hsome
  exact h (mem_terms.mpr (Option.ne_none_iff_exists'.mp hsome))

theorem nodup_terms (index : Index) : index.terms.Nodup :=
  Std.ExtTreeMap.distinct_keys.imp fun hne heq => hne (by simp [heq])

/-- A count is the sum over all terms. -/
theorem recount_eq_sum_map (index : Index) (location : String) :
    index.recount location = (index.terms.map fun term => index.frequency term location).sum := by
  have hfold : ∀ (list : List String) (count : Nat),
      list.foldl (fun count term => count + index.frequency term location) count
        = count + (list.map fun term => index.frequency term location).sum := by
    intro list
    induction list with
    | nil => simp
    | cons term rest ih =>
      intro count
      rw [List.foldl_cons, ih, List.map_cons, List.sum_cons, Nat.add_assoc]
  rw [recount, hfold, Nat.zero_add]

/-- A count is a sum over any set of terms that has all terms of the index. -/
theorem recount_eq_sum {index : Index} (terms : Finset String)
    (h : ∀ term ∈ index.terms, term ∈ terms) (location : String) :
    index.recount location = ∑ term ∈ terms, index.frequency term location := by
  rw [recount_eq_sum_map, ← List.sum_toFinset _ index.nodup_terms]
  -- terms that the index does not have add nothing
  refine Finset.sum_subset (fun term hterm => h term (List.mem_toFinset.mp hterm)) ?_
  intro term _ hterm
  refine frequency_of_postings?_eq_none ?_ location
  by_contra hsome
  exact hterm (List.mem_toFinset.mpr (mem_terms.mpr (Option.ne_none_iff_exists'.mp hsome)))

/-- A change at one term changes a count by what changes there. -/
theorem recount_add_frequency {index other : Index} {term : String}
    (h : ∀ t, t ≠ term → other.postings? t = index.postings? t) (location : String) :
    other.recount location + index.frequency term location =
      index.recount location + other.frequency term location := by
  have hsame : ∀ t ∈ (index.terms.toFinset ∪ other.terms.toFinset).erase term,
      other.frequency t location = index.frequency t location := by
    intro t ht
    simp [frequency, positions?, h t (Finset.ne_of_mem_erase ht)]
  -- both counts are sums over the terms of both indexes, of which one is split off
  have hsum : ∀ i : Index, (∀ t ∈ i.terms, t ∈ index.terms.toFinset ∪ other.terms.toFinset) →
      i.recount location = i.frequency term location +
        ∑ t ∈ (index.terms.toFinset ∪ other.terms.toFinset).erase term, i.frequency t location := by
    intro i hi
    rw [recount_eq_sum (insert term (index.terms.toFinset ∪ other.terms.toFinset))
      (fun t ht => Finset.mem_insert_of_mem (hi t ht)), ← Finset.insert_erase
      (Finset.mem_insert_self term _), Finset.sum_insert (Finset.notMem_erase _ _),
      Finset.erase_insert_eq_erase]
  rw [hsum other (by simp +contextual), hsum index (by simp +contextual),
    Finset.sum_congr rfl hsame]
  omega

/-! ## Consistency -/

/-- The counts of an index agree with its postings, and it keeps nothing that is empty. -/
structure IsConsistent (index : Index) : Prop where
  wordCount_eq : ∀ location, index.wordCount location = index.recount location
  count_ne_zero : ∀ location : String, index.counts[location]? ≠ some 0
  postings_ne : ∀ term postings, index.postings? term = some postings → postings ≠ ∅
  positions_ne : ∀ term location positions,
    index.positions? term location = some positions → positions ≠ ∅

theorem isConsistent_empty : IsConsistent empty where
  wordCount_eq location := by
    rw [recount_eq_sum ∅ fun term h => by simp [mem_terms] at h]
    simp [empty, wordCount]
  count_ne_zero location := by simp [empty]
  postings_ne term postings h := by simp at h
  positions_ne term location positions h := by simp [positions?] at h

/-- A consistent index stays so if one term changes, and the count of each location by as much. -/
theorem IsConsistent.of_change {index other : Index} (hindex : index.IsConsistent) (term : String)
    (postings : Postings) (hothers : ∀ t, t ≠ term → other.postings? t = index.postings? t)
    (hterm : other.postings? term = some postings) (hpostings : postings ≠ ∅)
    (hpositions : ∀ (location : String) positions,
      postings[location]? = some positions → positions ≠ ∅)
    (hcounts : ∀ location, other.wordCount location + index.frequency term location =
      index.wordCount location + other.frequency term location)
    (hzero : ∀ location : String, other.counts[location]? ≠ some 0) : other.IsConsistent where
  wordCount_eq location := by
    have hcount := hcounts location
    have hrecount := recount_add_frequency hothers location
    rw [hindex.wordCount_eq] at hcount
    omega
  count_ne_zero := hzero
  postings_ne t p h := by
    by_cases ht : t = term
    · subst ht
      rw [hterm] at h
      exact Option.some.inj h ▸ hpostings
    · exact hindex.postings_ne t p (hothers t ht ▸ h)
  positions_ne t location positions h := by
    by_cases ht : t = term
    · subst ht
      rw [positions?, hterm] at h
      exact hpositions location positions h
    · exact hindex.positions_ne t location positions (by rwa [positions?, ← hothers t ht])

/-- Raising a count by something leaves no count at zero. -/
theorem getElem?_raiseCount_ne_zero {counts : Std.ExtTreeMap String Nat}
    (h : ∀ location : String, counts[location]? ≠ some 0) {location : String} {amount : Nat}
    (hamount : 0 < amount) (other : String) :
    (raiseCount counts location amount)[other]? ≠ some 0 := by
  rw [raiseCount, Std.ExtTreeMap.getElem?_insert]
  split
  · simp; omega
  · exact h other

theorem exists_mem_of_ne_empty {positions : Positions} (h : positions ≠ ∅) :
    ∃ position, position ∈ positions := by
  by_contra hnone
  exact h (Std.ExtTreeSet.ext_mem fun position => by simpa using fun hmem => hnone ⟨position, hmem⟩)

theorem ne_empty_iff_size_pos {positions : Positions} : positions ≠ ∅ ↔ 0 < positions.size := by
  rw [Ne, Std.ExtTreeSet.eq_empty_iff_size_eq_zero]
  omega

/-! ## What keeps an index consistent -/

theorem IsConsistent.add {index : Index} (h : index.IsConsistent) (occurrence : Occurrence) :
    (index.add occurrence).IsConsistent := by
  by_cases hmem : occurrence ∈ index
  · rwa [add_of_mem hmem]
  obtain ⟨term, location, position⟩ := occurrence
  have hterm : (index.add ⟨term, location, position⟩).postings? term =
      some (((index.postings? term).getD ∅).insert location
        ((index.positionsAt term location).insert position)) := by
    simp [add_of_not_mem hmem, postings?]
  refine h.of_change term _ ?_ hterm ?_ ?_ ?_ ?_
  · intro t ht
    simp [add_of_not_mem hmem, postings?, Std.ExtTreeMap.getElem?_insert, Ne.symm ht]
  · simp
  · intro other positions hsome
    rw [Std.ExtTreeMap.getElem?_insert] at hsome
    split at hsome
    · exact Option.some.inj hsome ▸ (by simp)
    · cases hpostings : index.postings? term with
      | none => simp [hpostings] at hsome
      | some postings =>
        exact h.positions_ne term other positions (by simpa [positions?, hpostings] using hsome)
  · -- only at this location does the count rise, and by one position
    intro other
    rw [frequency_eq_size, frequency_eq_size, positionsAt_eq_getD hterm, add_of_not_mem hmem]
    simp only [wordCount, getD_raiseCount, Std.ExtTreeMap.getD_insert,
      Std.LawfulEqCmp.compare_eq_iff_eq, @eq_comm _ location other]
    split
    · next heq =>
      subst heq
      rw [mem_iff] at hmem
      rw [Std.ExtTreeSet.size_insert, if_neg (mt Std.ExtTreeSet.contains_iff_mem.mp hmem)]
      omega
    · rw [Nat.add_zero]
      unfold positionsAt positions?
      cases index.postings? term <;> simp [Std.ExtTreeMap.getD_eq_getD_getElem?]
  · rw [add_of_not_mem hmem]
    exact getElem?_raiseCount_ne_zero h.count_ne_zero Nat.one_pos

theorem IsConsistent.addTerms {index : Index} (h : index.IsConsistent) (location : String)
    (start : Nat) (terms : List String) : (index.addTerms location start terms).IsConsistent := by
  induction terms generalizing index start with
  | nil => exact h
  | cons term rest ih => exact ih (h.add _) (start + 1)

section Merge

variable {index : Index} {term : String} {existing incoming : Postings}

/-- Going through postings raises each count by the positions that they have there. -/
theorem getD_foldl_raiseCount (incoming : Postings) (counts : Std.ExtTreeMap String Nat)
    (location : String) :
    (incoming.foldl (fun counts location positions => raiseCount counts location positions.size)
      counts).getD location 0 = counts.getD location 0 + (incoming.getD location ∅).size := by
  refine (foldl_pointwise _ (fun location counts => counts.getD location 0)
    (fun count positions => count + positions.size) ?_ ?_ incoming counts location).trans ?_
  · intro counts key positions
    simp [getD_raiseCount]
  · intro counts key positions other hne
    simp [getD_raiseCount, hne]
  · rw [Std.ExtTreeMap.getD_eq_getD_getElem? (t := incoming)]
    cases incoming[location]? <;> simp

/-- Taking over postings raises each count by the positions that they have there. -/
theorem wordCount_adoptPostings (index : Index) (term : String) (incoming : Postings)
    (location : String) : (index.adoptPostings term incoming).wordCount location =
      index.wordCount location + (incoming.getD location ∅).size :=
  getD_foldl_raiseCount incoming index.counts location

theorem IsConsistent.adoptPostings (h : index.IsConsistent) (hterm : index.postings? term = none)
    (hincoming : incoming ≠ ∅)
    (hpositions : ∀ (location : String) positions,
      incoming[location]? = some positions → positions ≠ ∅) :
    (index.adoptPostings term incoming).IsConsistent := by
  have hself : (index.adoptPostings term incoming).postings? term = some incoming := by
    simp [Index.adoptPostings, postings?]
  refine h.of_change term incoming ?_ hself hincoming hpositions ?_ ?_
  · intro t ht
    simp [Index.adoptPostings, postings?, Std.ExtTreeMap.getElem?_insert, Ne.symm ht]
  · intro location
    rw [wordCount_adoptPostings, frequency_of_postings?_eq_none hterm, frequency_eq_size,
      positionsAt_eq_getD hself, Nat.add_zero]
  · unfold Index.adoptPostings
    refine foldl_invariant (p := fun counts : Std.ExtTreeMap String Nat =>
      ∀ location : String, counts[location]? ≠ some 0) h.count_ne_zero ?_
    intro counts key positions hkey hcounts
    exact getElem?_raiseCount_ne_zero hcounts
      (ne_empty_iff_size_pos.mp (hpositions key positions hkey))

theorem size_le_size_foldl_insert (incoming before : Positions) :
    before.size ≤
      (incoming.foldl (fun positions position => positions.insert position) before).size := by
  rw [Std.ExtTreeSet.foldl_eq_foldl_toList]
  exact List.foldlRecOn (motive := fun positions : Positions => before.size ≤ positions.size) _ _
    Nat.le.refl fun positions hle position _ => Nat.le_trans hle Std.ExtTreeSet.size_le_size_insert

/-- Uniting positions raises the count of their location by as many as are new. -/
theorem counts_uniteLocation (state : Postings × Std.ExtTreeMap String Nat) (location : String)
    (incoming : Positions) (other : String) :
    (uniteLocation state location incoming).2.getD other 0 + (state.1.getD other ∅).size =
      state.2.getD other 0 + ((uniteLocation state location incoming).1.getD other ∅).size := by
  have hle := size_le_size_foldl_insert incoming (state.1.getD location ∅)
  unfold uniteLocation
  by_cases hne : other = location
  · subst hne
    -- the count is raised by the difference in size, if there is one
    simp only [Std.ExtTreeMap.getD_insert_self]
    split
    · rw [getD_raiseCount, if_pos rfl]
      omega
    · omega
  · simp only [Std.ExtTreeMap.getD_insert, Std.LawfulEqCmp.compare_eq_iff_eq, Ne.symm hne,
      if_false]
    split
    · rw [getD_raiseCount, if_neg hne]
      omega
    · rfl

theorem counts_foldl_uniteLocation (incoming : Postings)
    (state : Postings × Std.ExtTreeMap String Nat) (location : String) :
    (incoming.foldl uniteLocation state).2.getD location 0 + (state.1.getD location ∅).size =
      state.2.getD location 0 +
        ((incoming.foldl uniteLocation state).1.getD location ∅).size := by
  refine foldl_invariant (p := fun after : Postings × Std.ExtTreeMap String Nat =>
    after.2.getD location 0 + (state.1.getD location ∅).size =
      state.2.getD location 0 + (after.1.getD location ∅).size) rfl ?_
  intro after key positions _ hafter
  have hstep := counts_uniteLocation after key positions location
  omega

theorem getElem?_foldl_uniteLocation_ne_zero (incoming : Postings)
    {state : Postings × Std.ExtTreeMap String Nat}
    (h : ∀ location : String, state.2[location]? ≠ some 0) (location : String) :
    (incoming.foldl uniteLocation state).2[location]? ≠ some 0 := by
  refine foldl_invariant (p := fun after : Postings × Std.ExtTreeMap String Nat =>
    ∀ location : String, after.2[location]? ≠ some 0) h ?_ location
  intro after key positions _ hafter
  unfold uniteLocation
  dsimp only
  split
  · next hadded => exact getElem?_raiseCount_ne_zero hafter hadded
  · exact hafter

/-- United positions are not empty if those were not that are united. -/
theorem ne_empty_of_getElem?_foldl_uniteLocation
    {state : Postings × Std.ExtTreeMap String Nat} {location : String} {positions : Positions}
    (hstate : ∀ positions, state.1[location]? = some positions → positions ≠ ∅)
    (hincoming : ∀ positions, incoming[location]? = some positions → positions ≠ ∅)
    (h : (incoming.foldl uniteLocation state).1[location]? = some positions) : positions ≠ ∅ := by
  rw [getElem?_foldl_uniteLocation] at h
  cases hnew : incoming[location]? with
  | none => exact hstate positions (by simpa [hnew] using h)
  | some new =>
    simp only [hnew, Option.elim_some, Option.some.injEq] at h
    obtain ⟨position, hposition⟩ := exists_mem_of_ne_empty (hincoming new hnew)
    rw [← h]
    exact Std.ExtTreeSet.ne_empty_of_mem (mem_foldl_insert.mpr (Or.inr hposition))

theorem IsConsistent.unitePostings (h : index.IsConsistent)
    (hterm : index.postings? term = some existing)
    (hpositions : ∀ (location : String) positions,
      incoming[location]? = some positions → positions ≠ ∅) :
    (index.unitePostings term existing incoming).IsConsistent := by
  have hself : (index.unitePostings term existing incoming).postings? term =
      some (incoming.foldl uniteLocation (existing, index.counts)).1 := by
    simp [Index.unitePostings, postings?]
  refine h.of_change term _ ?_ hself ?_ ?_ ?_ ?_
  · intro t ht
    simp [Index.unitePostings, postings?, Std.ExtTreeMap.getElem?_insert, Ne.symm ht]
  · -- what the term had before is still there
    intro hempty
    refine h.postings_ne term existing hterm (Std.ExtTreeMap.ext_getElem? fun location => ?_)
    have hunited := getElem?_foldl_uniteLocation incoming (existing, index.counts) location
    rw [hempty] at hunited
    cases hnew : incoming[location]? <;> simp_all
  · intro location positions hsome
    refine ne_empty_of_getElem?_foldl_uniteLocation (fun positions hsome => ?_)
      (hpositions location) hsome
    exact h.positions_ne term location positions (by rwa [positions?, hterm])
  · intro location
    rw [frequency_eq_size, frequency_eq_size, positionsAt_eq_getD hself, positionsAt_eq_getD hterm]
    exact counts_foldl_uniteLocation incoming (existing, index.counts) location
  · exact getElem?_foldl_uniteLocation_ne_zero incoming h.count_ne_zero

end Merge

theorem IsConsistent.mergeTerm {index : Index} (h : index.IsConsistent) (term : String)
    {incoming : Postings} (hincoming : incoming ≠ ∅)
    (hpositions : ∀ (location : String) positions,
      incoming[location]? = some positions → positions ≠ ∅) :
    (index.mergeTerm term incoming).IsConsistent := by
  unfold Index.mergeTerm
  split
  · next hnone => exact h.adoptPostings hnone hincoming hpositions
  · next existing hsome => exact h.unitePostings hsome hpositions

theorem IsConsistent.merge {index other : Index} (h : index.IsConsistent)
    (hother : other.IsConsistent) : (index.merge other).IsConsistent := by
  refine foldl_invariant h fun state term incoming hterm hstate => ?_
  refine hstate.mergeTerm term (hother.postings_ne term incoming hterm) ?_
  intro location positions hsome
  exact hother.positions_ne term location positions (by rw [positions?, postings?, hterm]; exact hsome)

/-! ## Reachable indexes -/

/-- What adding occurrences, adding terms and merging make of the empty index. What is merged into
an index may be any index of this kind. -/
inductive Reachable : Index → Prop
  | empty : Reachable empty
  | add {index : Index} (h : Reachable index) (occurrence : Occurrence) :
    Reachable (index.add occurrence)
  | addTerms {index : Index} (h : Reachable index) (location : String) (start : Nat)
    (terms : List String) : Reachable (index.addTerms location start terms)
  | merge {index other : Index} (h : Reachable index) (hother : Reachable other) :
    Reachable (index.merge other)

theorem Reachable.isConsistent {index : Index} (h : index.Reachable) : index.IsConsistent := by
  induction h with
  | empty => exact isConsistent_empty
  | add _ occurrence ih => exact ih.add occurrence
  | addTerms _ location start terms ih => exact ih.addTerms location start terms
  | merge _ _ ih ihother => exact ih.merge ihother

theorem reachable_build (occurrences : List Occurrence) : (build occurrences).Reachable :=
  List.foldlRecOn occurrences add Reachable.empty fun _ h occurrence _ => h.add occurrence

/-! ## The counts of reachable indexes -/

theorem exists_getElem?_of_ne_empty {β : Type} {map : Std.ExtTreeMap String β} (h : map ≠ ∅) :
    ∃ (key : String) (value : β), map[key]? = some value := by
  by_contra hnone
  refine h (Std.ExtTreeMap.ext_getElem? fun key => ?_)
  rw [Std.ExtTreeMap.getElem?_empty]
  exact Option.eq_none_iff_forall_ne_some.mpr fun value hvalue => hnone ⟨key, value, hvalue⟩

/-- Going through all terms counts the occurrences at a location. -/
theorem recount_eq_ncard (index : Index) (location : String) :
    index.recount location = {o | o ∈ index ∧ o.location = location}.ncard := by
  let pairs : Finset (Σ _ : String, Nat) :=
    index.terms.toFinset.sigma fun term => (index.positionsAt term location).toList.toFinset
  have hcard : pairs.card = index.recount location := by
    rw [recount_eq_sum index.terms.toFinset (fun term h => List.mem_toFinset.mpr h),
      Finset.card_sigma]
    refine Finset.sum_congr rfl fun term _ => ?_
    rw [frequency_eq_size, List.toFinset_card_of_nodup, Std.ExtTreeSet.length_toList]
    exact Std.ExtTreeSet.distinct_toList.imp fun hne heq => hne (by simp [heq])
  -- an occurrence at the location is a term with one of its positions there
  have hset : {o | o ∈ index ∧ o.location = location} =
      (fun pair : Σ _ : String, Nat => Occurrence.mk pair.1 location pair.2) '' pairs := by
    ext ⟨term, location', position⟩
    simp only [Set.mem_ofPred_eq, mem_iff, Set.mem_image, Finset.mem_coe, Sigma.exists,
      Occurrence.mk.injEq, pairs, Finset.mem_sigma, List.mem_toFinset,
      Std.ExtTreeSet.mem_toList]
    constructor
    · rintro ⟨hmem, rfl⟩
      refine ⟨term, position, ⟨mem_terms.mpr ?_, hmem⟩, rfl, rfl, rfl⟩
      refine Option.ne_none_iff_exists'.mp fun hnone => ?_
      simp [positionsAt, positions?, hnone] at hmem
    · rintro ⟨_, _, ⟨-, hmem⟩, rfl, rfl, rfl⟩
      exact ⟨hmem, rfl⟩
  rw [hset, Set.ncard_image_of_injective, Set.ncard_coe_finset, hcard]
  rintro ⟨term, position⟩ ⟨term', position'⟩ heq
  simp only [Occurrence.mk.injEq] at heq
  obtain ⟨rfl, -, rfl⟩ := heq
  rfl

theorem IsConsistent.mem_counts_iff {index : Index} (h : index.IsConsistent) {location : String} :
    location ∈ index.counts ↔ index.recount location ≠ 0 := by
  rw [← h.wordCount_eq, wordCount, Std.ExtTreeMap.getD_eq_getD_getElem?,
    Std.ExtTreeMap.mem_iff_isSome_getElem?]
  have hzero := h.count_ne_zero location
  cases hcount : index.counts[location]? with
  | none => simp
  | some count => simpa [hcount] using hzero

theorem recount_ne_zero_iff {index : Index} {location : String} :
    index.recount location ≠ 0 ↔ ∃ term, index.frequency term location ≠ 0 := by
  rw [recount_eq_sum index.terms.toFinset fun term h => List.mem_toFinset.mpr h, Ne,
    Finset.sum_eq_zero_iff]
  constructor
  · intro hne
    by_contra hnone
    exact hne fun term _ => by_contra fun hterm => hnone ⟨term, hterm⟩
  · rintro ⟨term, hterm⟩ hall
    refine hterm (hall term (List.mem_toFinset.mpr (mem_terms.mpr ?_)))
    exact Option.ne_none_iff_exists'.mp fun hnone =>
      hterm (frequency_of_postings?_eq_none hnone location)

theorem IsConsistent.frequency_ne_zero_iff {index : Index} (h : index.IsConsistent)
    {term location : String} :
    index.frequency term location ≠ 0 ↔ index.hasLocation term location = true := by
  rw [hasLocation, frequency]
  cases hpositions : index.positions? term location with
  | none => simp
  | some positions =>
    have hsize := ne_empty_iff_size_pos.mp (h.positions_ne term location positions hpositions)
    simp
    omega

/-- A location is counted exactly if a term has postings there. -/
theorem IsConsistent.mem_counts_iff_hasLocation {index : Index} (h : index.IsConsistent)
    {location : String} :
    location ∈ index.counts ↔ ∃ term, index.hasLocation term location = true := by
  rw [h.mem_counts_iff, recount_ne_zero_iff]
  exact exists_congr fun _ => h.frequency_ne_zero_iff

theorem IsConsistent.isEmpty_eq {index : Index} (h : index.IsConsistent) :
    index.isEmpty = index.counts.isEmpty := by
  rw [Bool.eq_iff_iff, isEmpty, Std.ExtTreeMap.isEmpty_iff, Std.ExtTreeMap.isEmpty_iff]
  constructor
  · -- a count would need a term with postings at its location
    intro hentries
    by_contra hcounts
    obtain ⟨location, count, hcount⟩ := exists_getElem?_of_ne_empty hcounts
    obtain ⟨term, hterm⟩ := h.mem_counts_iff_hasLocation.mp
      (Std.ExtTreeMap.mem_iff_isSome_getElem?.mpr (by rw [hcount]; rfl))
    simp [hasLocation, positions?, postings?, hentries] at hterm
  · -- a term would have a location, which would be counted
    intro hcounts
    by_contra hentries
    obtain ⟨term, postings, hterm⟩ := exists_getElem?_of_ne_empty hentries
    obtain ⟨location, positions, hlocation⟩ :=
      exists_getElem?_of_ne_empty (h.postings_ne term postings hterm)
    have hmem : location ∈ index.counts := h.mem_counts_iff_hasLocation.mpr
      ⟨term, by simp [hasLocation, positions?, postings?, hterm, hlocation]⟩
    simp [hcounts] at hmem

/-- **The counts of a reachable index** are the numbers of occurrences at its locations: of the
occurrences that it has, and of the positions that all its terms have there. It counts the locations
at which a term has postings and no others, keeps no term without locations and no location without
positions, and is therefore empty exactly if it counts nothing. -/
theorem counts_of_reachable {index : Index} (h : index.Reachable) :
    (∀ location, index.wordCount location = index.recount location ∧
      index.recount location = {o | o ∈ index ∧ o.location = location}.ncard) ∧
    (∀ location, location ∈ index.counts ↔ ∃ term, index.hasLocation term location = true) ∧
    (∀ term postings, index.postings? term = some postings → postings ≠ ∅) ∧
    (∀ term location positions, index.positions? term location = some positions → positions ≠ ∅) ∧
    index.isEmpty = index.counts.isEmpty :=
  have hindex := h.isConsistent
  ⟨fun location => ⟨hindex.wordCount_eq location, index.recount_eq_ncard location⟩,
    fun _ => hindex.mem_counts_iff_hasLocation, hindex.postings_ne, hindex.positions_ne,
    hindex.isEmpty_eq⟩

/-- Two indexes that overlap, merged: at the location that both have, one occurrence is in both. -/
theorem counts_of_reachable_overlapping :
    let index := (build [⟨"a", "x", 1⟩, ⟨"b", "x", 2⟩]).merge (build [⟨"a", "x", 1⟩, ⟨"a", "y", 1⟩])
    index.Reachable ∧ index.wordCount "x" = 2 ∧
      {o | o ∈ index ∧ o.location = "x"}.ncard = 2 ∧ index.isEmpty = index.counts.isEmpty := by
  intro index
  have h : index.Reachable := (reachable_build _).merge (reachable_build _)
  have hcount : index.wordCount "x" = 2 := by decide
  obtain ⟨hcounts, -, -, -, hempty⟩ := counts_of_reachable h
  obtain ⟨hword, hocc⟩ := hcounts "x"
  exact ⟨h, hcount, by rw [← hocc, ← hword, hcount], hempty⟩

end Concordance.Index
