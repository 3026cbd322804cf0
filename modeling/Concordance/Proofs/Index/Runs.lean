import Concordance.Proofs.Index.Merging
import Concordance.Proofs.Search.Scanning
import Mathlib.Data.List.Nodup

/-!
# Documents in an index

The terms of a document are scattered over the index, each among the positions of its own term. As each has
a position of its own, the document can be read back: the occurrences at its location, by ascending position,
are its terms in their order. What stands at other locations is not touched, also where the terms are the
same. Positions that fit into machine words are reckoned there as natural numbers are.

## Main definitions

* `Index.IsBareAt`: an index that has nothing at a location
* `Index.occurrencesAt`: what an index has at a location, by ascending position
* `Index.Stores`: an index that has a document more than another one
* `Index.addTermsInWords`: adds terms at positions that are reckoned in machine words

## Main results

* `nodup_occurrences`: an index lists each of its occurrences once
* `stores_addTerms`: adding terms at a bare location stores them
* `addTermsInWords_eq`: positions below the end of the machine words do not wrap
* `addTerms_faithful`: both together
-/

namespace Concordance.Index

variable {index : Index} {location : String} {start : Nat} {terms : List String}

/-! ## Occurrences at a location -/

/-- No term has postings at a location, and nothing is counted there. -/
structure IsBareAt (index : Index) (location : String) : Prop where
  hasLocation_eq : ∀ term, index.hasLocation term location = false
  hasCount_eq : index.hasCount location = false

/-- A reachable index that counts nothing at a location has nothing there. -/
theorem Reachable.isBareAt (h : index.Reachable) (hcount : index.hasCount location = false) :
    index.IsBareAt location where
  hasLocation_eq term := by
    refine Bool.eq_false_iff.mpr fun hterm => ?_
    have hmem : location ∈ index.counts := h.isConsistent.mem_counts_iff_hasLocation.mpr ⟨term, hterm⟩
    rw [hasCount, Std.ExtTreeMap.contains_iff_mem.mpr hmem] at hcount
    cases hcount
  hasCount_eq := hcount

theorem IsBareAt.not_mem (h : index.IsBareAt location) (term : String) (position : Nat) :
    ⟨term, location, position⟩ ∉ index := by
  have hnone : index.positions? term location = none := by simpa [hasLocation] using h.hasLocation_eq term
  simp [mem_def, hasPosition, hnone]

theorem IsBareAt.wordCount_eq (h : index.IsBareAt location) : index.wordCount location = 0 := by
  have hnone : location ∉ index.counts := by
    rw [← Std.ExtTreeMap.contains_iff_mem, ← hasCount, h.hasCount_eq]
    exact Bool.false_ne_true
  exact Std.ExtTreeMap.getD_eq_fallback hnone

theorem nodup_occurrencesOf (term : String) (postings : Postings) :
    (occurrencesOf term postings).Nodup := by
  refine List.nodup_flatMap.mpr ⟨fun entry _ => ?_, ?_⟩
  · exact (nodup_toList entry.2).map fun _ _ heq => (Occurrence.mk.inj heq).2.2
  · refine Std.ExtTreeMap.distinct_keys_toList.imp fun {a b} hne o ha hb => ?_
    obtain ⟨_, -, rfl⟩ := List.mem_map.mp ha
    obtain ⟨_, -, heq⟩ := List.mem_map.mp hb
    exact hne (Std.LawfulEqCmp.compare_eq_iff_eq.mpr (Occurrence.mk.inj heq).2.1.symm)

/-- An index lists each of its occurrences once. -/
theorem nodup_occurrences (index : Index) : index.occurrences.Nodup := by
  have hterm : ∀ {term : String} {postings : Postings} {occurrence : Occurrence},
      occurrence ∈ occurrencesOf term postings → occurrence.term = term := by
    intro term postings occurrence hmem
    obtain ⟨_, -, hmem⟩ := List.mem_flatMap.mp hmem
    obtain ⟨_, -, rfl⟩ := List.mem_map.mp hmem
    rfl
  refine List.nodup_flatMap.mpr ⟨fun entry _ => nodup_occurrencesOf entry.1 entry.2, ?_⟩
  refine Std.ExtTreeMap.distinct_keys_toList.imp fun hne o ha hb => ?_
  exact hne (Std.LawfulEqCmp.compare_eq_iff_eq.mpr ((hterm ha).symm.trans (hterm hb)))

/-- What an index has at a location, by ascending position. -/
def occurrencesAt (index : Index) (location : String) : List Occurrence :=
  (index.occurrences.filter fun occurrence => occurrence.location = location).mergeSort
    fun a b => a.position ≤ b.position

theorem mem_occurrencesAt {occurrence : Occurrence} :
    occurrence ∈ index.occurrencesAt location ↔ occurrence ∈ index ∧ occurrence.location = location := by
  rw [occurrencesAt, List.mem_mergeSort, List.mem_filter, mem_occurrences, decide_eq_true_eq]

/-- What is at a location is known, in its order, by a list of it whose positions ascend. -/
theorem occurrencesAt_eq {occurrences : List Occurrence}
    (hpairwise : occurrences.Pairwise fun a b => a.position < b.position)
    (hmem : ∀ occurrence,
      occurrence ∈ occurrences ↔ occurrence ∈ index ∧ occurrence.location = location) :
    index.occurrencesAt location = occurrences := by
  have hnodup : occurrences.Nodup := hpairwise.imp fun {a b} hlt heq => by
    rw [heq] at hlt
    exact Nat.lt_irrefl _ hlt
  have hperm : (index.occurrencesAt location).Perm occurrences := by
    refine (List.perm_ext_iff_of_nodup ?_ hnodup).mpr fun occurrence => ?_
    · exact (List.mergeSort_perm _ _).nodup_iff.mpr (index.nodup_occurrences.filter _)
    · rw [mem_occurrencesAt, hmem]
  have hsorted : (index.occurrencesAt location).Pairwise fun a b => a.position ≤ b.position := by
    have hle : (index.occurrencesAt location).Pairwise
        fun a b => decide (a.position ≤ b.position) = true :=
      List.pairwise_mergeSort
        (fun a b c hab hbc => by simp only [decide_eq_true_eq] at *; omega)
        (fun a b => by simp only [Bool.or_eq_true, decide_eq_true_eq]; omega) _
    exact hle.imp fun h => of_decide_eq_true h
  -- two occurrences of the list at one position are the same one
  have hunique : ∀ a ∈ occurrences, ∀ b ∈ occurrences, a.position = b.position → a = b := by
    intro a ha b hb heq
    by_contra hne
    rcases List.Pairwise.forall_of_forall_of_flip (R := fun a b => a = b ∨ a.position ≠ b.position)
      (fun a _ => .inl rfl) (hpairwise.imp fun h => .inr (Nat.ne_of_lt h))
      (hpairwise.imp fun h => .inr (Nat.ne_of_gt h)) ha hb with h | h
    · exact hne h
    · exact h heq
  refine hperm.eq_of_pairwise ?_ hsorted (hpairwise.imp Nat.le_of_lt)
  intro a b ha hb hab hba
  exact hunique a (hperm.mem_iff.mp ha) b hb (Nat.le_antisymm hab hba)

/-! ## Adding terms -/

/-- Only at the location of an occurrence does adding it change anything. -/
theorem positions?_add_of_ne (occurrence : Occurrence) {other : String}
    (h : other ≠ occurrence.location) (term : String) :
    (index.add occurrence).positions? term other = index.positions? term other := by
  by_cases hmem : occurrence ∈ index
  · rw [add_of_mem hmem]
  rw [add_of_not_mem hmem]
  by_cases hterm : occurrence.term = term
  · subst hterm
    cases hpostings : index.entries[occurrence.term]? <;>
      simp [positions?, postings?, hpostings, Std.ExtTreeMap.getElem?_insert, Ne.symm h]
  · simp [positions?, postings?, Std.ExtTreeMap.getElem?_insert, hterm]

theorem getElem?_counts_add_of_ne (occurrence : Occurrence) {other : String}
    (h : other ≠ occurrence.location) : (index.add occurrence).counts[other]? = index.counts[other]? := by
  by_cases hmem : occurrence ∈ index
  · rw [add_of_mem hmem]
  · rw [add_of_not_mem hmem]
    simp [raiseCount, Std.ExtTreeMap.getElem?_insert, Ne.symm h]

theorem wordCount_add_of_not_mem {occurrence : Occurrence} (h : occurrence ∉ index) :
    (index.add occurrence).wordCount occurrence.location = index.wordCount occurrence.location + 1 := by
  rw [add_of_not_mem h, wordCount, getD_raiseCount, if_pos rfl]
  rfl

theorem positions?_addTerms_of_ne {other : String} (h : other ≠ location) (term : String) :
    (index.addTerms location start terms).positions? term other = index.positions? term other := by
  induction terms generalizing index start with
  | nil => rfl
  | cons first rest ih => rw [addTerms, ih, positions?_add_of_ne _ h]

theorem getElem?_counts_addTerms_of_ne {other : String} (h : other ≠ location) :
    (index.addTerms location start terms).counts[other]? = index.counts[other]? := by
  induction terms generalizing index start with
  | nil => rfl
  | cons first rest ih => rw [addTerms, ih, getElem?_counts_add_of_ne _ h]

/-- Where nothing stands from the first position on, each term is new. -/
theorem wordCount_addTerms
    (h : ∀ term position, start ≤ position → ⟨term, location, position⟩ ∉ index) :
    (index.addTerms location start terms).wordCount location = index.wordCount location + terms.length := by
  induction terms generalizing index start with
  | nil => rfl
  | cons first rest ih =>
    have hnew : ⟨first, location, start⟩ ∉ index := h first start (Nat.le_refl start)
    have hrest : ∀ term position, start + 1 ≤ position →
        ⟨term, location, position⟩ ∉ index.add ⟨first, location, start⟩ := by
      intro term position hle hmem
      rcases mem_add.mp hmem with hmem | heq
      · exact h term position (Nat.le_of_succ_le hle) hmem
      · exact absurd (Occurrence.mk.inj heq).2.2 (by omega)
    have hcount := wordCount_add_of_not_mem hnew
    rw [addTerms, ih hrest, hcount, List.length_cons, Nat.add_assoc, Nat.add_comm 1]

/-! ## Documents -/

/-- An index that has a document more than another one: at its location it has the terms of the document,
each at its place in the list counted from the start, and nothing else; elsewhere it has what it had. -/
structure Stores (before after : Index) (location : String) (start : Nat) (terms : List String) :
    Prop where
  mem_iff : ∀ term position,
    ⟨term, location, position⟩ ∈ after ↔ ∃ i : Nat, terms[i]? = some term ∧ position = start + i
  occurrencesAt_eq : after.occurrencesAt location = terms.mapIdx fun i term => ⟨term, location, start + i⟩
  /-- Read by ascending position, the postings of the location give the list back. -/
  terms_eq : (after.occurrencesAt location).map Occurrence.term = terms
  wordCount_eq : after.wordCount location = terms.length
  positions?_eq : ∀ other term, other ≠ location →
    after.positions? term other = before.positions? term other
  counts_eq : ∀ other : String, other ≠ location → after.counts[other]? = before.counts[other]?

theorem stores_addTerms (h : index.IsBareAt location) (start : Nat) (terms : List String) :
    index.Stores (index.addTerms location start terms) location start terms := by
  have hmem : ∀ term position, ⟨term, location, position⟩ ∈ index.addTerms location start terms ↔
      ∃ i : Nat, terms[i]? = some term ∧ position = start + i := by
    intro term position
    rw [mem_addTerms, or_iff_right (h.not_mem term position)]
    simp only [Occurrence.mk.injEq, true_and]
    constructor
    · rintro ⟨i, _, hterm, rfl, hposition⟩
      exact ⟨i, hterm, hposition⟩
    · rintro ⟨i, hterm, hposition⟩
      exact ⟨i, term, hterm, rfl, hposition⟩
  have hread : (index.addTerms location start terms).occurrencesAt location =
      terms.mapIdx fun i term => ⟨term, location, start + i⟩ := by
    refine occurrencesAt_eq (List.pairwise_iff_getElem.mpr ?_) ?_
    · intro i j hi hj hlt
      simp only [List.getElem_mapIdx]
      omega
    · rintro ⟨term, place, position⟩
      rw [List.mem_mapIdx]
      constructor
      · rintro ⟨i, hi, heq⟩
        obtain ⟨rfl, rfl, rfl⟩ := Occurrence.mk.inj heq
        exact ⟨(hmem _ _).mpr ⟨i, List.getElem?_eq_getElem hi, rfl⟩, rfl⟩
      · rintro ⟨hin, rfl⟩
        obtain ⟨i, hterm, rfl⟩ := (hmem _ _).mp hin
        obtain ⟨hi, rfl⟩ := List.getElem?_eq_some_iff.mp hterm
        exact ⟨i, hi, rfl⟩
  constructor
  case mem_iff => exact hmem
  case occurrencesAt_eq => exact hread
  case terms_eq =>
    rw [hread]
    exact List.ext_getElem (by simp) (by simp)
  case wordCount_eq =>
    rw [wordCount_addTerms fun term position _ => h.not_mem term position, h.wordCount_eq, Nat.zero_add]
  case positions?_eq => exact fun _ term hne => positions?_addTerms_of_ne hne term
  case counts_eq => exact fun _ hne => getElem?_counts_addTerms_of_ne hne

/-! ## Positions in machine words -/

/-- Adds terms at positions that are reckoned in machine words of 64 bits: each is the start with the place of
the term in the list added, and begins anew at zero when it does not fit. -/
def addTermsInWords (index : Index) (location : String) (start : UInt64) (terms : List String) : Index :=
  terms.zipIdx.foldl (fun index (term, i) => index.add ⟨term, location, (start + UInt64.ofNat i).toNat⟩)
    index

theorem addTerms_eq_foldl (index : Index) (location : String) (start : Nat) (terms : List String)
    (first : Nat) : index.addTerms location (start + first) terms =
      (terms.zipIdx first).foldl (fun index (term, i) => index.add ⟨term, location, start + i⟩) index := by
  induction terms generalizing index first with
  | nil => rfl
  | cons term rest ih => rw [addTerms, List.zipIdx_cons, List.foldl_cons, Nat.add_assoc, ih]

/-- Positions below the end of the machine words do not wrap. -/
theorem addTermsInWords_eq (h : start + terms.length ≤ 2 ^ 64) :
    index.addTermsInWords location (UInt64.ofNat start) terms = index.addTerms location start terms := by
  rw [← Nat.add_zero start, addTerms_eq_foldl, Nat.add_zero, addTermsInWords]
  refine List.foldl_ext _ _ _ fun index entry hentry => ?_
  obtain ⟨term, i⟩ := entry
  obtain ⟨-, hlt, -⟩ := List.mem_zipIdx hentry
  have hfits : (UInt64.ofNat start + UInt64.ofNat i).toNat = start + i := by
    rw [UInt64.toNat_add, UInt64.toNat_ofNat', UInt64.toNat_ofNat']
    omega
  dsimp only
  rw [hfits]

/-- **A document is stored faithfully.** Terms that are added at a location where the index has nothing, with
any repetitions and from any start from which all positions fit into machine words, are there at the places
that they have in the list and can be read back; nothing changes at any other location. -/
theorem addTerms_faithful (h : index.IsBareAt location) (hfits : start + terms.length ≤ 2 ^ 64) :
    index.Stores (index.addTerms location start terms) location start terms ∧
      index.addTermsInWords location (UInt64.ofNat start) terms = index.addTerms location start terms :=
  ⟨stores_addTerms h start terms, addTermsInWords_eq hfits⟩

/-- Terms that are repeated and that another location has as well, up to the last position there is. -/
theorem addTerms_faithful_repeated :
    let index := build [⟨"cat", "y", 1⟩, ⟨"dog", "y", 2⟩]
    let start := 2 ^ 64 - 3
    index.IsBareAt "x" ∧ start + ["cat", "dog", "cat"].length ≤ 2 ^ 64 ∧
      index.Stores (index.addTerms "x" start ["cat", "dog", "cat"]) "x" start ["cat", "dog", "cat"] ∧
      (index.addTerms "x" start ["cat", "dog", "cat"]).wordCount "y" = 2 := by
  intro index start
  have hbare : index.IsBareAt "x" := (reachable_build _).isBareAt (by decide)
  have hfits : start + ["cat", "dog", "cat"].length ≤ 2 ^ 64 := by decide
  obtain ⟨hstores, -⟩ := addTerms_faithful hbare hfits
  refine ⟨hbare, hfits, hstores, ?_⟩
  rw [wordCount, Std.ExtTreeMap.getD_eq_getD_getElem?, hstores.counts_eq "y" (by decide)]
  decide

end Concordance.Index
