import Concordance.Index.Lookup

/-!
# The occurrences of an index

An index is looked at as the set of its occurrences. Adding an occurrence and merging another index
are then the insertion into a set and the union of two.

## Main definitions

* `Index.positionsAt`: the positions of a term at a location, none if there are none
* `o ∈ index`: an index has an occurrence

## Main results

* `foldl_pointwise`: going through a map changes what is at a key by the entry of that key alone
* `foldl_invariant`: what every entry keeps, going through a map keeps
* `mem_add`, `mem_addTerms`, `mem_merge`, `mem_build`: the occurrences of a changed index
* `mem_occurrences`: the occurrences of an index as a list
-/

namespace Concordance

/-! ## Going through a map -/

section Fold

variable {β γ δ : Type}

/-- Going through a list of entries does not change what is at another key. -/
theorem foldl_other {f : δ → String → β → δ} {view : String → δ → γ}
    (hother : ∀ state key value other, other ≠ key →
      view other (f state key value) = view other state)
    (entries : List (String × β)) (state : δ) {key : String} (hkey : ∀ e ∈ entries, e.1 ≠ key) :
    view key (entries.foldl (fun state e => f state e.1 e.2) state) = view key state := by
  induction entries generalizing state with
  | nil => rfl
  | cons e rest ih =>
    rw [List.foldl_cons, ih _ fun e he => hkey e (List.mem_cons_of_mem _ he)]
    exact hother _ _ _ _ (hkey e List.mem_cons_self).symm

/-- If an entry only changes what is at its key, going through a map changes what is at a key by
the entry of that key alone. -/
theorem foldl_pointwise (f : δ → String → β → δ) (view : String → δ → γ) (g : γ → β → γ)
    (hself : ∀ state key value, view key (f state key value) = g (view key state) value)
    (hother : ∀ state key value other, other ≠ key →
      view other (f state key value) = view other state)
    (map : Std.ExtTreeMap String β) (state : δ) (key : String) :
    view key (map.foldl f state) = (map[key]?).elim (view key state) (g (view key state)) := by
  rw [Std.ExtTreeMap.foldl_eq_foldl_toList]
  cases hvalue : map[key]? with
  | none =>
    -- no entry is at the key, so none changes what is there
    refine foldl_other hother _ _ fun e he hkey => ?_
    have hmem := Std.ExtTreeMap.mem_toList_iff_getElem?_eq_some.mp he
    rw [hkey, hvalue] at hmem
    cases hmem
  | some value =>
    -- of all entries only the one at the key changes what is there
    obtain ⟨before, after, hlist⟩ :=
      List.append_of_mem (Std.ExtTreeMap.mem_toList_iff_getElem?_eq_some.mpr hvalue)
    have hdistinct := Std.ExtTreeMap.distinct_keys_toList (t := map)
    rw [hlist, List.pairwise_append, List.pairwise_cons] at hdistinct
    obtain ⟨-, ⟨hafter, -⟩, hbefore⟩ := hdistinct
    rw [hlist, List.foldl_append, List.foldl_cons, foldl_other hother, hself, foldl_other hother]
    · rfl
    · exact fun e he hkey => hbefore e he _ List.mem_cons_self (by simp [hkey])
    · exact fun e he hkey => hafter e he (by simp [hkey])

/-- What every entry keeps, going through a map keeps. -/
theorem foldl_invariant {f : δ → String → β → δ} {p : δ → Prop} {map : Std.ExtTreeMap String β}
    {state : δ} (hstate : p state)
    (hstep : ∀ state key value, map[key]? = some value → p state → p (f state key value)) :
    p (map.foldl f state) := by
  rw [Std.ExtTreeMap.foldl_eq_foldl_toList]
  exact List.foldlRecOn _ _ hstate fun state h e he =>
    hstep state e.1 e.2 (Std.ExtTreeMap.mem_toList_iff_getElem?_eq_some.mp he) h

end Fold

/-- Positions added to others one by one. -/
theorem mem_foldl_insert {incoming before : Positions} {position : Nat} :
    position ∈ incoming.foldl (fun positions position => positions.insert position) before ↔
      position ∈ before ∨ position ∈ incoming := by
  rw [Std.ExtTreeSet.foldl_eq_foldl_toList, ← Std.ExtTreeSet.mem_toList (t := incoming)]
  induction incoming.toList generalizing before with
  | nil => simp
  | cons p rest ih =>
    rw [List.foldl_cons, ih, Std.ExtTreeSet.mem_insert]
    simp only [Std.LawfulEqCmp.compare_eq_iff_eq, List.mem_cons]
    grind

namespace Index

/-! ## Positions -/

/-- The positions of a term at a location, none if there are none. -/
def positionsAt (index : Index) (term location : String) : Positions :=
  (index.positions? term location).getD ∅

theorem frequency_eq_size (index : Index) (term location : String) :
    index.frequency term location = (index.positionsAt term location).size := by
  unfold frequency positionsAt
  cases index.positions? term location <;> simp

instance : Membership Occurrence Index where
  mem index occurrence :=
    index.hasPosition occurrence.term occurrence.location occurrence.position = true

instance (occurrence : Occurrence) (index : Index) : Decidable (occurrence ∈ index) :=
  inferInstanceAs (Decidable (_ = true))

theorem mem_def {occurrence : Occurrence} {index : Index} :
    occurrence ∈ index ↔
      index.hasPosition occurrence.term occurrence.location occurrence.position = true := Iff.rfl

theorem mem_iff {occurrence : Occurrence} {index : Index} :
    occurrence ∈ index ↔
      occurrence.position ∈ index.positionsAt occurrence.term occurrence.location := by
  rw [mem_def, hasPosition, positionsAt]
  cases index.positions? occurrence.term occurrence.location with
  | none => simp
  | some positions => simp

@[simp] theorem postings?_empty (term : String) : empty.postings? term = none := by
  simp [empty, postings?]

theorem not_mem_empty (occurrence : Occurrence) : occurrence ∉ empty := by
  simp [mem_iff, positionsAt, positions?]

/-! ## Adding occurrences -/

theorem add_of_mem {index : Index} {occurrence : Occurrence} (h : occurrence ∈ index) :
    index.add occurrence = index :=
  add_of_hasPosition h

/-- An occurrence that is new stands beside those of the same term and location. -/
theorem add_of_not_mem {index : Index} {occurrence : Occurrence} (h : occurrence ∉ index) :
    index.add occurrence =
      { entries := index.entries.insert occurrence.term
          (((index.postings? occurrence.term).getD ∅).insert occurrence.location
            ((index.positionsAt occurrence.term occurrence.location).insert occurrence.position))
        counts := raiseCount index.counts occurrence.location 1 } := by
  have hpositions : ((index.postings? occurrence.term).getD ∅).getD occurrence.location ∅ =
      index.positionsAt occurrence.term occurrence.location := by
    unfold positionsAt positions?
    cases index.postings? occurrence.term <;>
      simp [Std.ExtTreeMap.getD_eq_getD_getElem?]
  rw [mem_iff] at h
  unfold add record
  simp only [hpositions, if_neg h]

/-- The positions of the postings of a term. -/
theorem positionsAt_eq_getD {index : Index} {term : String} {postings : Postings}
    (h : index.postings? term = some postings) (location : String) :
    index.positionsAt term location = postings.getD location ∅ := by
  simp [positionsAt, positions?, h, Std.ExtTreeMap.getD_eq_getD_getElem?]

/-- Where the postings of a term are the same, its positions are. -/
theorem positionsAt_congr {index other : Index} {term : String}
    (h : index.postings? term = other.postings? term) (location : String) :
    index.positionsAt term location = other.positionsAt term location := by
  simp [positionsAt, positions?, h]

theorem mem_add {index : Index} {occurrence other : Occurrence} :
    other ∈ index.add occurrence ↔ other ∈ index ∨ other = occurrence := by
  by_cases h : occurrence ∈ index
  · rw [add_of_mem h]
    exact ⟨Or.inl, fun hor => hor.elim id fun heq => heq ▸ h⟩
  · obtain ⟨term, location, position⟩ := occurrence
    obtain ⟨term', location', position'⟩ := other
    rw [add_of_not_mem h]
    simp only [mem_iff, positionsAt, positions?, postings?, Occurrence.mk.injEq,
      Std.ExtTreeMap.getElem?_insert, Std.LawfulEqCmp.compare_eq_iff_eq]
    -- the changed positions are those of one term at one location
    by_cases hterm : term = term'
    · subst hterm
      by_cases hlocation : location = location'
      · subst hlocation
        simp [@eq_comm _ position' position, or_comm]
      · cases hpostings : index.entries[term]? <;> simp [hlocation, Ne.symm hlocation,
          Std.ExtTreeMap.getElem?_insert]
    · simp [hterm, Ne.symm hterm]

theorem mem_addTerms {index : Index} {location : String} {start : Nat} {terms : List String}
    {occurrence : Occurrence} :
    occurrence ∈ index.addTerms location start terms ↔
      occurrence ∈ index ∨
        ∃ i term, terms[i]? = some term ∧ occurrence = ⟨term, location, start + i⟩ := by
  induction terms generalizing index start with
  | nil => simp [addTerms]
  | cons term rest ih =>
    rw [addTerms, ih, mem_add, or_assoc]
    -- the first term is the one at index zero, and the others are one further on
    refine or_congr_right ⟨?_, ?_⟩
    · rintro (h | ⟨i, t, ht, ho⟩)
      · exact ⟨0, term, rfl, h⟩
      · exact ⟨i + 1, t, ht, by rw [ho, Nat.add_right_comm, Nat.add_assoc]⟩
    · rintro ⟨i, t, ht, ho⟩
      cases i with
      | zero => exact Or.inl (by simpa [← Option.some.inj ht] using ho)
      | succ i => exact Or.inr ⟨i, t, ht, by rw [ho, Nat.add_right_comm, Nat.add_assoc]⟩

/-! ## Merging -/

theorem getElem?_foldl_uniteLocation (incoming : Postings)
    (state : Postings × Std.ExtTreeMap String Nat) (location : String) :
    (incoming.foldl uniteLocation state).1[location]? =
      (incoming[location]?).elim state.1[location]? fun positions =>
        some (positions.foldl (fun positions position => positions.insert position)
          (state.1[location]?.getD ∅)) := by
  refine foldl_pointwise uniteLocation (fun location state => state.1[location]?)
    (fun before positions => some (positions.foldl
      (fun positions position => positions.insert position) (before.getD ∅))) ?_ ?_ _ _ _
  · intro state key positions
    simp [uniteLocation, Std.ExtTreeMap.getD_eq_getD_getElem?]
  · intro state key positions other hne
    simp [uniteLocation, Std.ExtTreeMap.getElem?_insert, Ne.symm hne]

theorem postings?_mergeTerm_of_ne {index : Index} {term other : String} {incoming : Postings}
    (h : other ≠ term) : (index.mergeTerm term incoming).postings? other = index.postings? other := by
  unfold mergeTerm
  split <;>
    simp [postings?, adoptPostings, unitePostings, Std.ExtTreeMap.getElem?_insert, Ne.symm h]

/-- A merged term has postings, with the positions it had and those that are new. -/
theorem exists_postings?_mergeTerm (index : Index) (term : String) (incoming : Postings) :
    ∃ postings, (index.mergeTerm term incoming).postings? term = some postings ∧
      ∀ location position, position ∈ postings.getD location ∅ ↔
        position ∈ index.positionsAt term location ∨ position ∈ incoming.getD location ∅ := by
  unfold mergeTerm
  split
  · next hnone =>
    -- the term is new, and its postings are taken over as they are
    refine ⟨incoming, by simp [postings?, adoptPostings], fun location position => ?_⟩
    simp [positionsAt, positions?, hnone]
  · next existing hsome =>
    -- the postings are united with those that the term has, location by location
    refine ⟨(incoming.foldl uniteLocation (existing, index.counts)).1,
      by simp [postings?, unitePostings], fun location position => ?_⟩
    rw [positionsAt_eq_getD hsome, Std.ExtTreeMap.getD_eq_getD_getElem?,
      getElem?_foldl_uniteLocation, Std.ExtTreeMap.getD_eq_getD_getElem? (t := existing),
      Std.ExtTreeMap.getD_eq_getD_getElem? (t := incoming)]
    cases incoming[location]? with
    | none => simp
    | some positions => exact mem_foldl_insert

theorem mem_positionsAt_mergeTerm {index : Index} {term other location : String}
    {incoming : Postings} {position : Nat} :
    position ∈ (index.mergeTerm term incoming).positionsAt other location ↔
      position ∈ index.positionsAt other location ∨
        other = term ∧ position ∈ incoming.getD location ∅ := by
  by_cases h : other = term
  · subst h
    obtain ⟨postings, hsome, hmem⟩ := exists_postings?_mergeTerm index other incoming
    rw [positionsAt_eq_getD hsome, hmem]
    simp
  · rw [positionsAt_congr (postings?_mergeTerm_of_ne h)]
    simp [h]

theorem mem_merge {index other : Index} {occurrence : Occurrence} :
    occurrence ∈ index.merge other ↔ occurrence ∈ index ∨ occurrence ∈ other := by
  -- At each term the merge adds the positions of the postings that the other index has for it.
  have hfold := foldl_pointwise mergeTerm
    (fun term index location position => position ∈ index.positionsAt term location)
    (fun before incoming location position =>
      before location position ∨ position ∈ incoming.getD location ∅)
    (fun state key incoming => by
      funext location position
      exact propext (by rw [mem_positionsAt_mergeTerm]; simp))
    (fun state key incoming term hne => by
      funext location position
      exact propext (by rw [mem_positionsAt_mergeTerm]; simp [hne]))
    other.entries index occurrence.term
  rw [mem_iff, mem_iff, mem_iff, merge]
  refine (congrFun (congrFun hfold occurrence.location) occurrence.position).to_iff.trans ?_
  unfold positionsAt positions? postings?
  cases other.entries[occurrence.term]? <;> simp [Std.ExtTreeMap.getD_eq_getD_getElem?]

theorem mem_foldl_add {occurrences : List Occurrence} {index : Index} {occurrence : Occurrence} :
    occurrence ∈ occurrences.foldl add index ↔ occurrence ∈ index ∨ occurrence ∈ occurrences := by
  induction occurrences generalizing index with
  | nil => simp
  | cons o rest ih => rw [List.foldl_cons, ih, mem_add, List.mem_cons, or_assoc]

theorem mem_build {occurrences : List Occurrence} {occurrence : Occurrence} :
    occurrence ∈ build occurrences ↔ occurrence ∈ occurrences := by
  rw [build, mem_foldl_add]
  exact or_iff_right (not_mem_empty occurrence)

/-! ## All occurrences -/

/-- The occurrences of an index as a list. -/
theorem mem_occurrences {index : Index} {occurrence : Occurrence} :
    occurrence ∈ index.occurrences ↔ occurrence ∈ index := by
  obtain ⟨term, location, position⟩ := occurrence
  rw [mem_iff, positionsAt, positions?, postings?, occurrences]
  simp only [List.mem_flatMap, occurrencesOf, List.mem_map, Prod.exists,
    Std.ExtTreeMap.mem_toList_iff_getElem?_eq_some, Std.ExtTreeSet.mem_toList, Occurrence.mk.injEq]
  constructor
  · rintro ⟨_, postings, hpostings, _, positions, hpositions, _, hposition, rfl, rfl, rfl⟩
    simpa [hpostings, hpositions] using hposition
  · intro hposition
    cases hpostings : index.entries[term]? with
    | none => simp [hpostings] at hposition
    | some postings =>
      cases hpositions : postings[location]? with
      | none => simp [hpostings, hpositions] at hposition
      | some positions =>
        refine ⟨term, postings, hpostings, location, positions, hpositions, position, ?_, rfl, rfl, rfl⟩
        simpa [hpostings, hpositions] using hposition

end Index

end Concordance
