import Concordance.Proofs.Pool.Growth
import Concordance.Query.Job

/-!
# Cells over time

A cell is put there vacant, then marked as being filled, and then it has its results for good. So the
cells of an engine only grow, and what a thread has found in them stays there. A thread that runs a
query ends with results that are remembered from then on, and waits only for a cell that is being
filled.

## Main definitions

* `Cell.Precedes`: a cell at two moments
* `QueryEngine.IsFilling`: some cell is being filled

## Main results

* `runJob_assures`, `lineTask_assures`: what is remembered after a query was run
-/

namespace Concordance

/-! ## Order -/

/-- A cell at two moments. -/
def Cell.Precedes : Cell → Cell → Prop
  | .vacant, _ => True
  | .filling, later => later ≠ .vacant
  | .filled results, later => later = .filled results

instance : Preorder Cell where
  le := Cell.Precedes
  le_refl cell := by
    cases cell with
    | vacant => trivial
    | filling => exact Cell.noConfusion
    | filled => rfl
  le_trans first second third h h' := by
    cases first with
    | vacant => trivial
    | filling =>
      cases second with
      | vacant => exact absurd rfl h
      | filling => exact h'
      | filled =>
        rintro rfl
        cases h'
    | filled =>
      cases h
      exact h'

/-- The cells of an engine at two moments. -/
def QueryEngine.Precedes (engine later : QueryEngine) : Prop :=
  ∀ (key : String) (cell : Cell), engine.cells[key]? = some cell →
    ∃ cell' : Cell, later.cells[key]? = some cell' ∧ cell ≤ cell'

instance : Preorder QueryEngine where
  le := QueryEngine.Precedes
  le_refl engine := by
    intro key cell h
    exact ⟨cell, h, le_rfl⟩
  le_trans first second third h h' := by
    intro key cell hcell
    obtain ⟨cell', hcell', hle⟩ := h key cell hcell
    obtain ⟨cell'', hcell'', hle'⟩ := h' key cell' hcell'
    exact ⟨cell'', hcell'', le_trans hle hle'⟩

namespace QueryEngine

variable {engine later : QueryEngine} {key : String}

/-! ## Changes -/

theorem getElem?_setCell (engine : QueryEngine) (key : String) (cell : Cell) (other : String) :
    (engine.setCell key cell).cells[other]? =
      if key = other then some cell else engine.cells[other]? := by
  simp [setCell, Std.ExtTreeMap.getElem?_insert]

theorem getElem?_noteSearch (engine : QueryEngine) (key other : String) :
    (engine.noteSearch key).cells[other]? = engine.cells[other]? := rfl

theorem getElem?_reserve (engine : QueryEngine) (key other : String) :
    (engine.reserve key).cells[other]? =
      if key = other ∧ engine.cells[other]? = none then some .vacant else engine.cells[other]? := by
  unfold reserve
  by_cases hkey : key = other
  · subst hkey
    cases hcell : engine.cells[key]? <;> simp [Std.ExtTreeMap.contains_eq_isSome_getElem?, hcell,
      getElem?_setCell]
  · split <;> simp [getElem?_setCell, hkey]

theorem getElem?_claim (engine : QueryEngine) (key other : String) :
    (engine.claim key).cells[other]? =
      if key = other ∧ engine.cells[other]? = some .vacant then some .filling
      else engine.cells[other]? := by
  unfold claim
  split
  · next hvacant =>
    rw [getElem?_setCell]
    by_cases hkey : key = other
    · subst hkey
      simp [hvacant]
    · simp [hkey]
  · next hcell =>
    rw [if_neg]
    rintro ⟨rfl, hvacant⟩
    exact hcell hvacant

theorem remembered_of_getElem? {found : Option Cell} (h : engine.cells[key]? = found) :
    engine.remembered key = found.bind Cell.results? := by
  rw [remembered, h]

theorem remembered_setCell (engine : QueryEngine) (key : String) (cell : Cell) :
    (engine.setCell key cell).remembered key = cell.results? := by
  have hcell := getElem?_setCell engine key cell key
  rw [if_pos rfl] at hcell
  exact remembered_of_getElem? hcell

theorem remembered_eq_some_iff {results : List SearchResult} :
    engine.remembered key = some results ↔ engine.cells[key]? = some (.filled results) := by
  unfold remembered
  cases engine.cells[key]? with
  | none => simp
  | some cell => cases cell <;> simp [Cell.results?]

/-! ## Growth -/

theorem le_noteSearch (engine : QueryEngine) (key : String) : engine ≤ engine.noteSearch key :=
  le_refl engine

theorem le_reserve (engine : QueryEngine) (key : String) : engine ≤ engine.reserve key := by
  intro other cell hcell
  refine ⟨cell, ?_, le_rfl⟩
  rw [getElem?_reserve, if_neg (by simp [hcell]), hcell]

theorem le_claim (engine : QueryEngine) (key : String) : engine ≤ engine.claim key := by
  intro other cell hcell
  rw [getElem?_claim]
  split
  · next hvacant =>
    have heq : cell = .vacant := Option.some.inj (hcell.symm.trans hvacant.2)
    subst heq
    exact ⟨.filling, rfl, trivial⟩
  · exact ⟨cell, hcell, le_rfl⟩

/-- A cell that is being filled may get its results. -/
theorem le_setCell (h : engine.cells[key]? = some .filling) (results : List SearchResult) :
    engine ≤ engine.setCell key (.filled results) := by
  intro other cell hcell
  rw [getElem?_setCell]
  split
  · next hkey =>
    subst hkey
    have heq : cell = .filling := Option.some.inj (hcell.symm.trans h)
    subst heq
    exact ⟨_, rfl, Cell.noConfusion⟩
  · exact ⟨cell, hcell, le_rfl⟩

/-- What is remembered stays so. -/
theorem remembered_mono (hle : engine ≤ later) {results : List SearchResult}
    (h : engine.remembered key = some results) : later.remembered key = some results := by
  rw [remembered_eq_some_iff] at h ⊢
  obtain ⟨cell, hcell, hfilled⟩ := hle key _ h
  rw [hcell]
  exact congrArg some hfilled

/-! ## Jobs -/

/-- Some cell is being filled. -/
def IsFilling (engine : QueryEngine) : Prop :=
  ∃ key : String, engine.cells[key]? = some Cell.filling

theorem shareJob_assures {cell : Cell} (h : engine.cells[key]? = some cell)
    (hcell : cell ≠ .vacant) :
    (shareJob key).Assures IsFilling
      (fun results engine => engine.remembered key = some results) engine := by
  intro later hle
  constructor
  · -- a cell that was claimed once never becomes vacant again
    obtain ⟨cell', hcell', hle'⟩ := hle key cell h
    cases cell' with
    | vacant =>
      cases cell with
      | vacant => exact absurd rfl hcell
      | filling => exact absurd rfl hle'
      | filled => cases hle'
    | filling => exact .inr ⟨key, hcell'⟩
    | filled results =>
      left
      dsimp only
      rw [remembered_eq_some_iff.mpr hcell']
      rfl
  · intro hready last hlast final hfinal
    obtain ⟨results, hresults⟩ := Option.isSome_iff_exists.mp hready
    have hsame := remembered_mono hlast hresults
    dsimp only
    rw [hsame]
    exact remembered_mono hfinal hsame

theorem fillJob_assures (query : CanonicalQuery) (engine : QueryEngine) :
    (fillJob query).Assures IsFilling
      (fun results engine => engine.remembered query.key = some results) engine := by
  intro noted _ later _ last hlast
  apply remembered_mono hlast
  rw [remembered_eq_some_iff, getElem?_setCell, if_pos rfl]

theorem cellJob_assures {query : CanonicalQuery} {cell : Cell}
    (h : engine.cells[query.key]? = some cell) :
    (cellJob query).Assures IsFilling
      (fun results engine => engine.remembered query.key = some results) engine := by
  intro later hle
  -- the thread may find the cell further than it has left it
  obtain ⟨cell', hcell', -⟩ := hle _ cell h
  have hclaimed := getElem?_claim later query.key query.key
  rw [hcell'] at hclaimed
  cases cell' with
  | vacant =>
    simp only [hcell']
    exact fillJob_assures query _
  | filling =>
    simp only [hcell']
    rw [if_neg (by simp)] at hclaimed
    exact shareJob_assures hclaimed Cell.noConfusion
  | filled results =>
    simp only [hcell']
    intro last hlast
    apply remembered_mono hlast
    rw [remembered_eq_some_iff, hclaimed, if_neg (by simp)]

/-- **What is remembered after a query was run**: the results that it ended with, unless its line has no
terms. -/
theorem runJob_assures (line : String) (engine : QueryEngine) :
    (runJob line).Assures IsFilling (fun results engine =>
      if (CanonicalQuery.ofLine line).isEmpty then results = []
      else engine.remembered (CanonicalQuery.ofLine line).key = some results) engine := by
  unfold runJob
  dsimp only
  split
  · exact fun _ _ => rfl
  · intro found _
    dsimp only [id]
    split
    · next hcontains =>
      rw [Std.ExtTreeMap.contains_eq_isSome_getElem?] at hcontains
      obtain ⟨cell, hcell⟩ := Option.isSome_iff_exists.mp hcontains
      exact cellJob_assures hcell
    · intro later _
      -- whoever was faster has left a cell there
      have hreserved := getElem?_reserve later (CanonicalQuery.ofLine line).key
        (CanonicalQuery.ofLine line).key
      cases hcell : later.cells[(CanonicalQuery.ofLine line).key]? with
      | none =>
        rw [if_pos ⟨rfl, hcell⟩] at hreserved
        exact cellJob_assures hreserved
      | some cell =>
        rw [if_neg (by simp [hcell]), hcell] at hreserved
        exact cellJob_assures hreserved

theorem lineTask_assures (line : String) (engine : QueryEngine) :
    (lineTask line).Assures IsFilling (fun _ engine =>
      (CanonicalQuery.ofLine line).isEmpty = false →
        ∃ results, engine.remembered (CanonicalQuery.ofLine line).key = some results) engine := by
  apply Job.Assures.bind
  apply (runJob_assures line engine).imp
  intro results found hfound later hlater hterms
  rw [hterms] at hfound
  exact ⟨results, remembered_mono hlater hfound⟩

end QueryEngine

end Concordance
